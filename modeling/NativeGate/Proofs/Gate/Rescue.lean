import NativeGate.Proofs.Gate.Clause

namespace NativeGate.Protected

open NativeGate

variable {β ω : Type}

/-- How a rescuing call ends, by how its body ended. -/
inductive Rescued (classes : List Value) :
    Option (Value → Native β ω Value) → Except Exit Value × Gate β ω →
      Except Exit Value × Gate β ω → Prop
  | returned (handler : Option (Value → Native β ω Value)) (v : Value) (left : Gate β ω) :
      Rescued classes handler (.ok v, left) (.ok v, left)
  | unwound (handler : Option (Value → Native β ω Value)) {exit : Exit} (left : Gate β ω)
      (other : ∀ exception, exit ≠ .raised exception) :
      Rescued classes handler (.error exit, left) (.error exit, left)
  | passed (handler : Option (Value → Native β ω Value)) {exception : Value} {caught : Gate β ω}
      {scope : Scope} (current : caught.context.current? = some scope)
      (uncovered : ¬ Covers (caught.engine scope.engine).host classes exception)
      (names : List String) :
      Rescued classes handler (.error (.raised exception), caught)
        (.error (.raised exception), caught.noted scope.engine names)
  | ignored {exception : Value} {caught : Gate β ω} {scope : Scope}
      (current : caught.context.current? = some scope)
      (covered : Covers (caught.engine scope.engine).host classes exception)
      (names : List String) :
      Rescued classes none (.error (.raised exception), caught)
        (.ok .nil, caught.noted scope.engine names)
  /-- What the handler raises is raised again, if there is an engine then. -/
  | handled {handler : Value → Native β ω Value} {exception : Value} {caught : Gate β ω}
      {scope : Scope} (current : caught.context.current? = some scope)
      (covered : Covers (caught.engine scope.engine).host classes exception)
      (names : List String) {ended : Except Exit Value} {left after : Gate β ω}
      (ran : (handler exception).runOn
        (handlerStart (caught.noted scope.engine names) scope.engine exception) = (ended, left))
      (restored : ended ≠ .error .aborted →
        after = left.withErrinfo scope.engine (caught.errinfo scope.engine)
          [Operation.setErrinfo.name]) :
      Rescued classes (some handler) (.error (.raised exception), caught)
        (left.raisedAgain ended, after)

section Rescuing

variable {body : Native β ω Value} (native : body.Callback)
  {handler : Option (Value → Native β ω Value)}
  (handlers : ∀ given ∈ handler, ∀ exception, (given exception).Callback)

include native handlers

theorem rescued_of_raised (classes : List Value) {start caught : Gate β ω} (hosted : start.Hosted)
    {exception : Value} (raised : body.runOn start = (.error (.raised exception), caught))
    {scope : Scope} (current : caught.context.current? = some scope) :
    Rescued classes handler (.error (.raised exception), caught)
      ((Native.raising (rescueAny classes body handler)).runOn start) := by
  have caughtHosted := native.hosted raised hosted
  obtain ⟨names, settled⟩ :=
    runOn_raising_rescueAny raised current (caughtHosted _) classes
  rw [settled]
  have covers := @covers_iff (caught.engine scope.engine).host classes exception
  cases isMatch : classes.any ((caught.engine scope.engine).host.isKindOf exception) with
  | false =>
      rw [isMatch] at covers
      exact .passed handler current (by simp [covers]) names
  | true =>
      have covered := covers.mpr isMatch
      cases handler with
      | none => exact .ignored current covered names
      | some handler =>
          cases ran : (handler exception).runOn
              (handlerStart (caught.noted scope.engine names) scope.engine exception) with
          | mk ended left =>
              obtain ⟨after, handled, restored⟩ :=
                runOn_raising_handle_noted caughtHosted (handlers handler rfl exception) names ran
              rw [if_pos rfl]
              dsimp only
              rw [handled]
              exact .handled current covered names ran restored

theorem rescued (balanced : body.Balanced) (classes : List Value) {start : Gate β ω}
    (hosted : start.Hosted) {scope : Scope} (current : start.context.current? = some scope) :
    Rescued classes handler (body.runOn start)
      ((Native.raising (rescueAny classes body handler)).runOn start) := by
  have restored := balanced start
  cases ran : body.runOn start with
  | mk result left =>
      rw [ran] at restored
      by_cases isRaise : ∃ exception, result = .error (.raised exception)
      · obtain ⟨exception, rfl⟩ := isRaise
        have restored := restored.resolve_left nofun
        exact rescued_of_raised native handlers classes hosted ran (restored.current? current)
      · have notRaised (exception : Value) : result ≠ .error (.raised exception) :=
          fun same => isRaise ⟨exception, same⟩
        rw [runOn_raising_rescueAny_of_not_raised ran notRaised (native.not_failed ran)]
        rcases result with exit | v
        · refine .unwound handler left ?_
          rintro exception rfl
          exact notRaised exception rfl
        · exact .returned handler v left

end Rescuing

theorem rescueListed_of_fault {gate : Gate β ω} {scope : Scope}
    (current : gate.context.current? = some scope) {arguments : List Argument}
    {values : List Value} {fault : CursorFault}
    (lists : Cursor.Lists values arguments (.error fault)) :
    ∃ (cursor : Cursor) (exception : Value) (after : Gate β ω),
      cursor.HasRead arguments (values.length + 1) ∧
      (gate.engine scope.engine).host.newException .argumentError fault.message =
        (exception, (after.engine scope.engine).host) ∧
      ∀ (body : Native β ω Value) (handler : Option (Value → Native β ω Value)),
        (rescueListed body handler).raising.runOn (.start arguments, gate) =
          (.error (.raised exception), cursor, after) := by
  obtain ⟨cursor, hasRead, ran⟩ := runOn_raising_rescueListed lists
  refine ⟨cursor, ((gate.engine scope.engine).host.newException .argumentError fault.message).1,
    gate.changeHost scope.engine (·.newException .argumentError fault.message |>.2), hasRead, ?_,
    fun body handler => ?_⟩
  · rw [Gate.engine_changeHost]
  · rw [ran, afterReading, Native.runOn_raiseFault_cursor current]

theorem covers_standardError_iff {host : Host} (reached : host.Reachable) (exception : Value) :
    Covers host [Builtin.standardError.value] exception ↔
      ∃ kind, host.exceptionKind? exception = some kind ∧ kind ≠ .noMemoryError ∧
        kind ≠ .fatal := by
  rw [← Host.isKindOf_standardError_iff reached, Host.isKindOf_iff]
  simp [Covers]

theorem reachable_noted_standardError {gate : Gate β ω} {number : Nat}
    (reached : (gate.engine number).host.Reachable) :
    ((gate.noted number [Operation.standardError.name]).engine number).host.Reachable := by
  have acted : ((gate.noted number [Operation.standardError.name]).engine number).host =
      (gate.engine number).host.act (.invoke Operation.standardError.name []) := by
    rw [Gate.noted, Gate.engine_changeHost, Host.act, Host.invoke_standardError]
  rw [acted]
  exact reached.leads (Host.leads_act _ _)

/-- A rescuing call reads its classes to the end first, runs its body once, and runs its handler
exactly if a listed class is met on the way up from the exception's.  `rb_rescue` goes by
StandardError, and so by the kind of the exception. -/
theorem rescues {gate : Gate β ω} (hosted : gate.Hosted) {scope : Scope}
    (current : gate.context.current? = some scope)
    (reached : (gate.engine scope.engine).host.Reachable) {body : Native β ω Value}
    (native : body.Callback) (balanced : body.Balanced)
    {handler : Option (Value → Native β ω Value)}
    (handlers : ∀ given ∈ handler, ∀ exception, (given exception).Callback) :
    (∀ arguments, ∃ values read, Cursor.Lists values arguments read) ∧
    (∀ arguments values fault, Cursor.Lists values arguments (.error fault) →
      ∃ (cursor : Cursor) (exception : Value) (after : Gate β ω),
        cursor.HasRead arguments (values.length + 1) ∧
        (gate.engine scope.engine).host.newException .argumentError fault.message =
          (exception, (after.engine scope.engine).host) ∧
        ∀ (body : Native β ω Value) (handler : Option (Value → Native β ω Value)),
          (rescueListed body handler).raising.runOn (.start arguments, gate) =
            (.error (.raised exception), cursor, after)) ∧
    (∀ arguments classes, Cursor.Lists classes arguments (.ok classes) →
      ∃ (cursor : Cursor) (ended : Except Exit Value) (after : Gate β ω),
        cursor.HasRead arguments (classes.length + 1) ∧
        Rescued classes handler (body.runOn gate) (ended, after) ∧
        (rescueListed body handler).raising.runOn (.start arguments, gate) =
          (ended, cursor, after)) ∧
    Rescued [Builtin.standardError.value] handler
      (body.runOn (gate.noted scope.engine [Operation.standardError.name]))
      ((Native.raising (rescue body handler)).runOn gate) ∧
    ∀ exception caught,
      body.runOn (gate.noted scope.engine [Operation.standardError.name]) =
        (.error (.raised exception), caught) →
      (Covers (caught.engine scope.engine).host [Builtin.standardError.value] exception ↔
        ∃ kind, (caught.engine scope.engine).host.exceptionKind? exception = some kind ∧
          kind ≠ .noMemoryError ∧ kind ≠ .fatal) := by
  refine ⟨Cursor.exists_lists, fun _ _ _ => rescueListed_of_fault current, ?_, ?_, ?_⟩
  · intro arguments classes lists
    obtain ⟨cursor, hasRead, ran⟩ := runOn_raising_rescueListed lists
    exact ⟨cursor, _, _, hasRead, rescued native handlers balanced classes hosted current,
      ran body handler gate⟩
  · have enters := Clause.enters_standardErrors current (hosted _)
    have called := Clause.runOn_rescuing enters body handler
    rw [Clause.rescuing] at called
    rw [called]
    exact rescued native handlers balanced _ (hosted.noted _ _) current
  · intro exception caught raised
    have leads := native.leads raised scope.engine
    exact covers_standardError_iff ((reachable_noted_standardError reached).leads leads) exception

/-- A handler that leaves every scope and then raises ends the call with `aborted`, not with its own
exit. -/
theorem rescues_within_scopes :
    ¬ ∀ (gate : Gate Unit Unit) (scope : Scope) (arguments : List Argument) (classes : List Value)
      (body : Native Unit Unit Value) (handler : Value → Native Unit Unit Value)
      (exception : Value) (caught : Gate Unit Unit),
      gate.Hosted → gate.context.current? = some scope →
      (gate.engine scope.engine).host.Reachable → body.Callback → body.Balanced →
      (∀ exception, (handler exception).Callback) →
      Cursor.Lists classes arguments (.ok classes) →
      body.runOn gate = (.error (.raised exception), caught) →
      Covers (caught.engine scope.engine).host classes exception →
      ∃ entry : Gate Unit Unit,
        (((Clause.listed arguments).rescuing body (some handler)).runOn gate).1 =
          ((handler exception).runOn entry).1 := by
  intro exits
  let gate : Gate Unit Unit := { context := { scopes := [{ engine := 0 }] }, program := () }
  let leaving (exception : Value) : Native Unit Unit Value := do
    modify fun gate => { gate with context := gate.context.leave }
    throw (.raised exception)
  have native (exception : Value) : (leaving exception).Callback :=
    ⟨fun _ _ => .refl _, fun _ _ => nofun⟩
  have notFault : ¬ (Exit.raised Host.outOfMemory).IsFault := by
    rintro ⟨fault, ⟨⟩⟩
  obtain ⟨entry, same⟩ := exits gate { engine := 0 }
    [.value Builtin.noMemoryError.value, .null] [Builtin.noMemoryError.value]
    (throw (.raised Host.outOfMemory)) leaving Host.outOfMemory gate (fun _ => rfl) rfl
    (Host.Leads.refl _) (.throw notFault) (.throw _) native
    (.terminated (by decide) rfl rfl []) rfl (covers_iff.mpr (by decide))
  cases same

theorem rescues_outOfMemory :
    (∃ cursor after, (rescueListed (throw (.raised Host.outOfMemory)) (some pure)).raising.runOn
        (.start [.value Builtin.object.value, .null], (.installed () : Gate Unit Unit)) =
      (.ok Host.outOfMemory, cursor, after)) ∧
    ∃ after, (Native.raising (rescue (throw (.raised Host.outOfMemory)) (some pure))).runOn
        (.installed () : Gate Unit Unit) = (.error (.raised Host.outOfMemory), after) := by
  have given : ∀ given ∈ some (pure : Value → Native Unit Unit Value),
      ∀ exception, (given exception).Callback := by
    rintro given ⟨⟩ exception
    exact .pure exception
  have notFault : ¬ (Exit.raised Host.outOfMemory).IsFault := by
    rintro ⟨fault, ⟨⟩⟩
  obtain ⟨-, -, listed, standard, isStandard⟩ :=
    rescues (Gate.installed_hosted () {}) rfl (Host.Leads.refl _) (.throw notFault)
      (.throw (.raised Host.outOfMemory)) given
  constructor
  · obtain ⟨cursor, ended, after, -, rescued, ran⟩ :=
      listed [.value Builtin.object.value, .null] [Builtin.object.value]
        (.terminated (by decide) rfl rfl [])
    cases rescued with
    | unwound _ _ other => exact absurd rfl (other _)
    | passed _ current uncovered =>
        cases current
        exact absurd (covers_iff.mpr (by decide)) uncovered
    | handled _ _ _ handlerRan =>
        cases handlerRan
        exact ⟨cursor, after, ran⟩
  · generalize (Native.raising (rescue (throw (.raised Host.outOfMemory)) (some pure))).runOn
      (.installed () : Gate Unit Unit) = ended at standard
    cases standard with
    | unwound _ _ other => exact absurd rfl (other _)
    | passed => exact ⟨_, rfl⟩
    | handled current covered =>
        cases current
        obtain ⟨kind, isKind, other, -⟩ := (isStandard _ _ rfl).mp covered
        exact absurd (Option.some.inj isKind) (Ne.symm other)

end NativeGate.Protected
