import NativeGate.Gate.Protected
import NativeGate.Proofs.Gate.Callback
import NativeGate.Proofs.Host.Classes

namespace NativeGate

variable {α β ω : Type}

namespace Host

def noteAll (host : Host) (names : List String) : Host :=
  { host with log := host.log ++ names }

@[simp] theorem noteAll_nil (host : Host) : host.noteAll [] = host := by
  simp [noteAll]

theorem noteAll_append (host : Host) (names more : List String) :
    host.noteAll (names ++ more) = (host.noteAll names).noteAll more := by
  simp [noteAll]

theorem isKindOf_noteAll (host : Host) (names : List String) :
    (host.noteAll names).isKindOf = host.isKindOf := by
  funext v target
  apply isKindOf_of_objects
  rfl

theorem invoke_errinfo (host : Host) :
    host.invoke Operation.errinfo.name [] =
      (.value host.errinfo, host.noteAll [Operation.errinfo.name]) := by
  simp only [invoke, Operation.ofName?_name, perform, plan]
  rfl

theorem invoke_setErrinfo (host : Host) (v : Value) :
    host.invoke Operation.setErrinfo.name [v] =
      (.value .nil, { host.noteAll [Operation.setErrinfo.name] with errinfo := v }) := by
  simp only [invoke, Operation.ofName?_name, perform, plan]
  rfl

theorem invoke_standardError (host : Host) :
    host.invoke Operation.standardError.name [] =
      (.value Builtin.standardError.value, host.noteAll [Operation.standardError.name]) := by
  simp only [invoke, Operation.ofName?_name, perform, plan]
  rfl

theorem invokePredicate_isKindOf (host : Host) (v target : Value) :
    host.invokePredicate Query.isKindOf.name [v, target] =
      (.value (host.isKindOf v target), host.noteAll [Query.isKindOf.name]) := by
  have named : Operation.ofName? Query.isKindOf.name = some (.ask .isKindOf) :=
    Operation.ofName?_name (.ask .isKindOf)
  have answered : (host.note Query.isKindOf.name).answer .isKindOf [v, target] =
      .ok (host.isKindOf v target) :=
    congrArg Except.ok (isKindOf_of_objects (host.note_objects _) v target)
  simp only [invokePredicate, named, answered]
  rfl

end Host

namespace Engine

variable {engine : Engine β} (unpinned : engine.pinned = [])

include unpinned

theorem runOn_perform_of_value {op : Operation} {args : List Value} {v : Value} {after : Host}
    (replied : engine.host.invoke op.name args = (.value v, after)) :
    (perform op args).runOn engine = (.ok v, { engine with host := after }) := by
  rw [runOn_perform unpinned, runOn_asking, replied]

theorem runOn_ask_isKindOf (v target : Value) :
    (ask .isKindOf [v, target]).runOn engine =
      (.ok (engine.host.isKindOf v target),
        { engine with host := engine.host.noteAll [Query.isKindOf.name] }) := by
  rw [ask, predicateNamed, runOn_unlessPinned unpinned, runOn_asking,
    Host.invokePredicate_isKindOf]

end Engine

namespace Gate

def errinfo (gate : Gate β ω) (number : Nat) : Value :=
  (gate.engine number).host.errinfo

def noted (gate : Gate β ω) (number : Nat) (names : List String) : Gate β ω :=
  gate.changeHost number (·.noteAll names)

/-- Operations were invoked on an engine, and only its errinfo changed. -/
def withErrinfo (gate : Gate β ω) (number : Nat) (v : Value) (names : List String) : Gate β ω :=
  gate.changeHost number fun host => { host.noteAll names with errinfo := v }

def withState (gate : Gate β ω) (cell : Option (StateCell ω)) (state : Int) : Gate β ω :=
  match cell with
  | some cell => { gate with program := cell.write state gate.program }
  | none => gate

/-- Without an engine nothing can be raised. -/
def raisedAgain (gate : Gate β ω) : Except Exit α → Except Exit α
  | .error (.raised exception) =>
      if gate.context.current?.isSome then .error (.raised exception) else .error .aborted
  | result => result

section Changes

variable (gate : Gate β ω) (number : Nat) (v : Value) (names more : List String)

@[simp] theorem context_noted : (gate.noted number names).context = gate.context := rfl

@[simp] theorem context_withErrinfo :
    (gate.withErrinfo number v names).context = gate.context := rfl

theorem errinfo_changeHost {change : Host → Host}
    (kept : ∀ host, (change host).errinfo = host.errinfo) :
    (gate.changeHost number change).errinfo = gate.errinfo := by
  funext other
  by_cases same : other = number
  · subst other
    rw [errinfo, engine_changeHost]
    exact kept _
  · rw [errinfo, engine_changeHost_of_ne gate same, errinfo]

@[simp] theorem errinfo_noted : (gate.noted number names).errinfo = gate.errinfo :=
  gate.errinfo_changeHost number fun _ => rfl

@[simp] theorem errinfo_withErrinfo : (gate.withErrinfo number v names).errinfo number = v := by
  rw [errinfo, withErrinfo, engine_changeHost]

theorem Hosted.noted {gate : Gate β ω} (hosted : gate.Hosted) :
    (gate.noted number names).Hosted :=
  hosted.changeHost _ _

theorem Hosted.withErrinfo {gate : Gate β ω} (hosted : gate.Hosted) :
    (gate.withErrinfo number v names).Hosted :=
  hosted.changeHost _ _

theorem withErrinfo_noted :
    (gate.noted number names).withErrinfo number v more =
      gate.withErrinfo number v (names ++ more) := by
  rw [noted, withErrinfo, changeHost_changeHost, withErrinfo]
  congr 1
  funext host
  simp [Host.noteAll]

end Changes

end Gate

namespace Native

theorem runOn_engineNumber_of_none {gate : Gate β ω} (missing : gate.context.current? = none) :
    (engineNumber : Native β ω Nat).runOn gate = (.error (.failed .noEngine), gate) := by
  rw [engineNumber, Proc.runOn_bind, Proc.runOn_get]
  simp [missing]

section Unpinned

variable {gate : Gate β ω} {number : Nat} (unpinned : (gate.engine number).pinned = [])

include unpinned

theorem runOn_errinfo :
    (atEngine number (Engine.perform .errinfo [])).runOn gate =
      (.ok (gate.errinfo number), gate.noted number [Operation.errinfo.name]) :=
  runOn_atEngine_of_host (Engine.runOn_perform_of_value unpinned (Host.invoke_errinfo _))

theorem runOn_performSetErrinfo (v : Value) :
    (atEngine number (Engine.perform .setErrinfo [v])).runOn gate =
      (.ok .nil, gate.withErrinfo number v [Operation.setErrinfo.name]) := by
  apply runOn_atEngine_of_host
  rw [Engine.runOn_perform_of_value unpinned (Host.invoke_setErrinfo _ v)]

end Unpinned

theorem runOn_raising (p : Native β ω α) (gate : Gate β ω) :
    (raising p).runOn gate =
      match p.runOn gate with
      | (.error (.failed fault), after) => (raiseFault fault).runOn after
      | (result, after) => (result, after) := by
  rw [raising, Proc.runOn_bind, Proc.runOn_catchFault]
  rcases p.runOn gate with ⟨exit | a, after⟩
  · cases exit <;> rfl
  · rfl

theorem runOn_raising_of_not_failed {p : Native β ω α} {gate after : Gate β ω}
    {result : Except Exit α} (ran : p.runOn gate = (result, after))
    (raises : ∀ fault, result ≠ .error (.failed fault)) :
    (raising p).runOn gate = (result, after) := by
  rw [runOn_raising, ran]
  rcases result with exit | a
  · cases exit with
    | failed fault => exact absurd rfl (raises fault)
    | _ => rfl
  · rfl

theorem runOn_raiseFault_of_none {gate : Gate β ω} (missing : gate.context.current? = none)
    (fault : Fault) : (raiseFault fault : Native β ω α).runOn gate = (.error .aborted, gate) := by
  rw [raiseFault, Proc.runOn_bind, Proc.runOn_get]
  simp [missing, abort]

theorem runOn_raiseFault_raised (gate : Gate β ω) (exception : Value) :
    (raiseFault (.raised exception) : Native β ω α).runOn gate =
      (gate.raisedAgain (.error (.raised exception)), gate) := by
  cases current : gate.context.current? with
  | none =>
      rw [runOn_raiseFault_of_none current]
      simp [Gate.raisedAgain, current]
  | some scope =>
      rw [raiseFault, Proc.runOn_bind, Proc.runOn_get]
      simp [current, Fault.counterpart, Gate.raisedAgain]

theorem runOn_raiseFault_cursor {gate : Gate β ω} {scope : Scope}
    (current : gate.context.current? = some scope) (fault : CursorFault) :
    (raiseFault (.cursor fault) : Native β ω α).runOn gate =
      (.error (.raised ((gate.engine scope.engine).host.newException .argumentError
          fault.message).1),
        gate.changeHost scope.engine (·.newException .argumentError fault.message |>.2)) :=
  runOn_raiseFault current (.cursor fault)

end Native

namespace Protected

def settle (classes : List Value) (handler : Option (Value → Native β ω Value))
    (exception : Value) : Native β ω Value := do
  let number ← Native.engineNumber
  if ← Native.atEngine number (isAnyOf exception classes) then
    match handler with
    | none => return .nil
    | some handler => handle number exception handler
  else Proc.fail (.raised exception)

theorem rescueAny_eq (classes : List Value) (body : Native β ω Value)
    (handler : Option (Value → Native β ω Value)) :
    rescueAny classes body handler = (do
      match ← body.catchRaise with
      | .ok v => return v
      | .error exception => settle classes handler exception) := rfl

theorem runOn_rescueAny (classes : List Value) (body : Native β ω Value)
    (handler : Option (Value → Native β ω Value)) (gate : Gate β ω) :
    (rescueAny classes body handler).runOn gate =
      match body.runOn gate with
      | (.error (.raised exception), caught) => (settle classes handler exception).runOn caught
      | (result, left) => (result, left) := by
  rw [rescueAny_eq, Proc.runOn_bind, Proc.runOn_catchRaise]
  rcases body.runOn gate with ⟨exit | v, left⟩
  · cases exit <;> rfl
  · rfl

theorem runOn_isAnyOf {engine : Engine β} (unpinned : engine.pinned = []) (exception : Value)
    (classes : List Value) :
    ∃ names, (isAnyOf exception classes).runOn engine =
      (.ok (classes.any (engine.host.isKindOf exception)),
        { engine with host := engine.host.noteAll names }) := by
  induction classes generalizing engine with
  | nil => exact ⟨[], by simp [isAnyOf]⟩
  | cons definition rest ih =>
      have asked := Engine.runOn_ask_isKindOf unpinned exception definition
      rw [isAnyOf, Proc.runOn_bind_of_ok asked, List.any_cons]
      cases engine.host.isKindOf exception definition with
      | true => exact ⟨[Query.isKindOf.name], rfl⟩
      | false =>
          obtain ⟨names, answered⟩ :=
            @ih { engine with host := engine.host.noteAll [Query.isKindOf.name] } unpinned
          rw [Host.isKindOf_noteAll, ← Host.noteAll_append] at answered
          exact ⟨_, answered⟩

theorem runOn_settle {caught : Gate β ω} {scope : Scope}
    (current : caught.context.current? = some scope)
    (unpinned : (caught.engine scope.engine).pinned = []) (classes : List Value)
    (exception : Value) :
    ∃ names, ∀ handler : Option (Value → Native β ω Value),
      (settle classes handler exception).runOn caught =
        if classes.any ((caught.engine scope.engine).host.isKindOf exception) then
          match handler with
          | none => (.ok .nil, caught.noted scope.engine names)
          | some handler =>
              (handle scope.engine exception handler).runOn (caught.noted scope.engine names)
        else (.error (.failed (.raised exception)), caught.noted scope.engine names) := by
  obtain ⟨names, answered⟩ := runOn_isAnyOf unpinned exception classes
  refine ⟨names, fun handler => ?_⟩
  have asked : (Native.atEngine scope.engine (isAnyOf exception classes)).runOn caught =
      (.ok _, caught.noted scope.engine names) :=
    Native.runOn_atEngine_of_host answered
  rw [settle, Proc.runOn_bind_of_ok (Native.runOn_engineNumber current),
    Proc.runOn_bind_of_ok asked]
  cases classes.any ((caught.engine scope.engine).host.isKindOf exception) with
  | false => rfl
  | true => cases handler <;> rfl

theorem runOn_settle_of_none {caught : Gate β ω} (missing : caught.context.current? = none)
    (classes : List Value) (handler : Option (Value → Native β ω Value)) (exception : Value) :
    (settle classes handler exception).runOn caught = (.error (.failed .noEngine), caught) := by
  rw [settle, Proc.runOn_bind_of_error (Native.runOn_engineNumber_of_none missing)]

theorem runOn_restoreErrinfo {gate : Gate β ω} {number : Nat}
    (unpinned : (gate.engine number).pinned = []) (saved : Value) :
    (restoreErrinfo number saved).runOn gate =
      (.ok ⟨⟩, gate.withErrinfo number saved [Operation.setErrinfo.name]) := by
  have set : (setErrinfo number saved : Native β ω Unit).runOn gate =
      (.ok ⟨⟩, gate.withErrinfo number saved [Operation.setErrinfo.name]) := by
    rw [setErrinfo, Proc.runOn_bind_of_ok (Native.runOn_performSetErrinfo unpinned saved),
      Proc.runOn_pure]
  rw [restoreErrinfo, Proc.runOn_bind, Proc.runOn_catchFault, set]
  rfl

/-- What a handler raised is handed back as a fault. -/
def handedBack : Except Exit α → Except Exit α
  | .error (.raised exception) => .error (.failed (.raised exception))
  | result => result

def handlerStart (gate : Gate β ω) (number : Nat) (exception : Value) : Gate β ω :=
  gate.withErrinfo number exception [Operation.errinfo.name, Operation.setErrinfo.name]

section Handling

variable {gate : Gate β ω} {number : Nat} {exception : Value} {handler : Value → Native β ω Value}
  (unpinned : (gate.engine number).pinned = []) {ended : Except Exit Value} {left : Gate β ω}
  (ran : (handler exception).runOn (handlerStart gate number exception) = (ended, left))
  (still : (left.engine number).pinned = [])

include unpinned ran still

theorem runOn_handle :
    ∃ after, (handle number exception handler).runOn gate = (handedBack ended, after) ∧
      (ended ≠ .error .aborted →
        after = left.withErrinfo number (gate.errinfo number) [Operation.setErrinfo.name]) := by
  have noted : ((gate.noted number [Operation.errinfo.name]).engine number).pinned = [] := by
    rw [Gate.noted, Gate.pinned_changeHost, unpinned]
  have set : (setErrinfo number exception : Native β ω Unit).runOn
        (gate.noted number [Operation.errinfo.name]) =
      (.ok ⟨⟩, handlerStart gate number exception) := by
    rw [setErrinfo, Proc.runOn_bind_of_ok (Native.runOn_performSetErrinfo noted exception),
      Gate.withErrinfo_noted]
    rfl
  rw [handle, Proc.runOn_bind_of_ok (Native.runOn_errinfo unpinned), Proc.runOn_bind_of_ok set,
    Proc.runOn_bind, Proc.runOn_ensuring, Proc.runOn_catchRaise, ran]
  rcases ended with exit | v
  · cases exit with
    | aborted => exact ⟨left, rfl, fun alive => absurd rfl alive⟩
    | _ =>
        refine ⟨_, ?_, fun _ => rfl⟩
        simp [runOn_restoreErrinfo still, handedBack]
  · refine ⟨_, ?_, fun _ => rfl⟩
    simp [runOn_restoreErrinfo still, handedBack]

theorem runOn_raising_handle (raises : ∀ fault, ended ≠ .error (.failed fault)) :
    ∃ after,
      (Native.raising (handle number exception handler)).runOn gate =
        (left.raisedAgain ended, after) ∧
      (ended ≠ .error .aborted →
        after = left.withErrinfo number (gate.errinfo number) [Operation.setErrinfo.name]) := by
  obtain ⟨after, handled, restored⟩ := runOn_handle unpinned ran still
  refine ⟨after, ?_, restored⟩
  rw [Native.runOn_raising, handled]
  rcases ended with exit | v
  · cases exit with
    | failed fault => exact absurd rfl (raises fault)
    | raised again =>
        have context : after.context = left.context := by
          rw [restored nofun, Gate.context_withErrinfo]
        refine (Native.runOn_raiseFault_raised after again).trans ?_
        rw [Gate.raisedAgain, Gate.raisedAgain, context]
    | _ => rfl
  · rfl

end Handling

theorem runOn_raising_handle_noted {caught left : Gate β ω} (hosted : caught.Hosted) {number : Nat}
    {exception : Value} {handler : Value → Native β ω Value}
    (native : (handler exception).Callback) (names : List String) {ended : Except Exit Value}
    (ran : (handler exception).runOn
      (handlerStart (caught.noted number names) number exception) = (ended, left)) :
    ∃ after,
      (Native.raising (handle number exception handler)).runOn (caught.noted number names) =
        (left.raisedAgain ended, after) ∧
      (ended ≠ .error .aborted →
        after = left.withErrinfo number (caught.errinfo number) [Operation.setErrinfo.name]) := by
  have noted : (caught.noted number names).Hosted := hosted.noted number names
  have still : left.Hosted := native.hosted ran (noted.withErrinfo _ _ _)
  have handled := runOn_raising_handle (noted number) ran (still number) (native.not_failed ran)
  rwa [Gate.errinfo_noted] at handled

theorem runOn_raising_rescueAny_of_not_raised {body : Native β ω Value} {start left : Gate β ω}
    {result : Except Exit Value} (ran : body.runOn start = (result, left))
    (notRaised : ∀ exception, result ≠ .error (.raised exception))
    (notFailed : ∀ fault, result ≠ .error (.failed fault)) (classes : List Value)
    (handler : Option (Value → Native β ω Value)) :
    (Native.raising (rescueAny classes body handler)).runOn start = (result, left) := by
  refine Native.runOn_raising_of_not_failed ?_ notFailed
  rw [runOn_rescueAny, ran]
  rcases result with exit | v
  · cases exit with
    | raised exception => exact absurd rfl (notRaised exception)
    | _ => rfl
  · rfl

theorem runOn_raising_rescueAny {body : Native β ω Value} {start caught : Gate β ω}
    {exception : Value} (raised : body.runOn start = (.error (.raised exception), caught))
    {scope : Scope} (current : caught.context.current? = some scope)
    (unpinned : (caught.engine scope.engine).pinned = []) (classes : List Value) :
    ∃ names, ∀ handler : Option (Value → Native β ω Value),
      (Native.raising (rescueAny classes body handler)).runOn start =
        if classes.any ((caught.engine scope.engine).host.isKindOf exception) then
          match handler with
          | none => (.ok .nil, caught.noted scope.engine names)
          | some handler =>
              (Native.raising (handle scope.engine exception handler)).runOn
                (caught.noted scope.engine names)
        else (.error (.raised exception), caught.noted scope.engine names) := by
  obtain ⟨names, settled⟩ := runOn_settle current unpinned classes exception
  refine ⟨names, fun handler => ?_⟩
  rw [Native.runOn_raising, runOn_rescueAny, raised]
  dsimp only
  rw [settled]
  cases classes.any ((caught.engine scope.engine).host.isKindOf exception) with
  | true =>
      cases handler with
      | none => rfl
      | some handler => exact (Native.runOn_raising _ _).symm
  | false =>
      refine (Native.runOn_raiseFault_raised _ exception).trans ?_
      simp [Gate.raisedAgain, current]

theorem runOn_ensure_of_alive {body : Native β ω Value} {gate left : Gate β ω}
    {result : Except Exit Value} (ran : body.runOn gate = (result, left))
    (alive : result ≠ .error .aborted) (cleanup : Native β ω Value) :
    (ensure body cleanup).runOn gate =
      match cleanup.runOn left with
      | (.ok _, after) => (result, after)
      | (.error exit, after) => (.error exit, after) := by
  rw [ensure, Proc.runOn_ensuring_of_alive ran alive, Proc.runOn_bind]
  rcases cleanup.runOn left with ⟨exit | v, after⟩ <;> rfl

theorem runOn_protect (body : Native β ω Value) (gate : Gate β ω) :
    (protect body).runOn gate =
      match body.runOn gate with
      | (.ok v, left) => (.ok (v, 0), left)
      | (.error (.raised exception), caught) =>
          (do
            let _ ← Native.onEngine (Engine.perform .setErrinfo [exception])
            return (Value.nil, raisedState) : Native β ω (Value × Int)).runOn caught
      | (.error exit, left) => (.error exit, left) := by
  rw [protect, Proc.runOn_bind, Proc.runOn_catchRaise]
  rcases body.runOn gate with ⟨exit | v, left⟩
  · cases exit <;> rfl
  · rfl

theorem runOn_protectInto (cell : Option (StateCell ω)) (body : Native β ω Value)
    (gate : Gate β ω) :
    (protectInto cell body).runOn gate =
      match (Native.raising (protect body)).runOn gate with
      | (.ok (v, state), left) => (.ok v, left.withState cell state)
      | (.error exit, left) => (.error exit, left) := by
  rw [protectInto, Proc.runOn_bind]
  rcases (Native.raising (protect body)).runOn gate with ⟨exit | ⟨v, state⟩, left⟩
  · rfl
  · cases cell <;> rfl

theorem runOn_protectInto_of_ok (cell : Option (StateCell ω)) {body : Native β ω Value}
    {gate left : Gate β ω} {v : Value} (returned : body.runOn gate = (.ok v, left)) :
    (protectInto cell body).runOn gate = (.ok v, left.withState cell 0) := by
  rw [runOn_protectInto, Native.runOn_raising, runOn_protect, returned]

theorem runOn_protectInto_of_not_raised (cell : Option (StateCell ω)) {body : Native β ω Value}
    {gate left : Gate β ω} {exit : Exit} (ran : body.runOn gate = (.error exit, left))
    (notRaised : ∀ exception, (.error exit : Except Exit Value) ≠ .error (.raised exception))
    (notFailed : ∀ fault, (.error exit : Except Exit Value) ≠ .error (.failed fault)) :
    (protectInto cell body).runOn gate = (.error exit, left) := by
  rw [runOn_protectInto, Native.runOn_raising, runOn_protect, ran]
  cases exit with
  | raised exception => exact absurd rfl (notRaised exception)
  | failed fault => exact absurd rfl (notFailed fault)
  | _ => rfl

theorem runOn_protectInto_of_raised (cell : Option (StateCell ω)) {body : Native β ω Value}
    {gate caught : Gate β ω} {exception : Value}
    (ran : body.runOn gate = (.error (.raised exception), caught)) {scope : Scope}
    (current : caught.context.current? = some scope)
    (unpinned : (caught.engine scope.engine).pinned = []) :
    (protectInto cell body).runOn gate =
      (.ok .nil,
        (caught.withErrinfo scope.engine exception [Operation.setErrinfo.name]).withState cell
          raisedState) := by
  have set : (Native.onEngine (Engine.perform .setErrinfo [exception])).runOn caught =
      (.ok .nil, caught.withErrinfo scope.engine exception [Operation.setErrinfo.name]) := by
    rw [Native.onEngine, Proc.runOn_bind_of_ok (Native.runOn_engineNumber current),
      Native.runOn_performSetErrinfo unpinned]
  rw [runOn_protectInto, Native.runOn_raising, runOn_protect, ran]
  dsimp only
  rw [Proc.runOn_bind_of_ok set, Proc.runOn_pure]

end Protected

end NativeGate
