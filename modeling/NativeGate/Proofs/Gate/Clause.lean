import NativeGate.Proofs.Gate.Protected

namespace NativeGate

variable {α β ω : Type}

namespace Protected

/-- One of the classes is met on the way up from the exception's class. -/
def Covers (host : Host) (classes : List Value) (exception : Value) : Prop :=
  ∃ definition ∈ classes, host.Descends (host.classOf exception) definition

theorem covers_iff {host : Host} {classes : List Value} {exception : Value} :
    Covers host classes exception ↔ classes.any (host.isKindOf exception) = true := by
  simp only [Covers, List.any_eq_true, Host.isKindOf_iff]

inductive Clause
  | standardErrors
  /-- Classes stand among the trailing arguments, before a zero word. -/
  | listed (arguments : List Argument)

def afterReading (body : Native β ω Value) (handler : Option (Value → Native β ω Value)) :
    Except CursorFault (List Value) → Native β ω Value
  | .ok classes => Native.raising (rescueAny classes body handler)
  | .error fault => Native.raiseFault (.cursor fault)

theorem runOn_raising_rescueListed {values : List Value} {arguments : List Argument}
    {read : Except CursorFault (List Value)} (lists : Cursor.Lists values arguments read) :
    ∃ cursor : Cursor, cursor.HasRead arguments (values.length + 1) ∧
      ∀ (body : Native β ω Value) (handler : Option (Value → Native β ω Value)) (gate : Gate β ω),
        (rescueListed body handler).raising.runOn (.start arguments, gate) =
          (((afterReading body handler read).runOn gate).1, cursor,
            ((afterReading body handler read).runOn gate).2) := by
  obtain ⟨cursor, ran, hasRead⟩ := Cursor.readUntilZero_of_lists lists
  refine ⟨cursor, hasRead, fun body handler gate => ?_⟩
  have listed : rescueListed body handler =
      Trailing.onCursor Cursor.readUntilZero >>= fun classes =>
        Trailing.onState (rescueAny classes body handler) := rfl
  have front : (Trailing.onCursor Cursor.readUntilZero).runOn (Cursor.start arguments, gate) =
      (read.mapError fun fault => .failed (.cursor fault), cursor, gate) := by
    rw [Trailing.runOn_onCursor, ran]
  rw [Variadic.runOn_raising, listed]
  cases read with
  | error fault =>
      rw [Proc.runOn_bind_of_error front]
      rfl
  | ok classes =>
      rw [Proc.runOn_bind_of_ok front, Trailing.runOn_onState, afterReading, Native.runOn_raising]
      rcases (rescueAny classes body handler).runOn gate with ⟨exit | v, after⟩
      · cases exit <;> rfl
      · rfl

namespace Clause

def rescuing (clause : Clause) (body : Native β ω Value)
    (handler : Option (Value → Native β ω Value)) : Native β ω Value :=
  match clause with
  | .standardErrors => Native.raising (rescue body handler)
  | .listed arguments => (rescueListed body handler).raising.supplied arguments

/-- The clause's classes have been read, and the body is about to run. -/
inductive Enters (gate : Gate β ω) : Clause → List Value → Gate β ω → Prop
  | standardErrors {definition : Value} {start : Gate β ω}
      (asked : (Native.onEngine (Engine.perform .standardError [])).runOn gate =
        (.ok definition, start)) :
      Enters gate .standardErrors [definition] start
  | listed {arguments : List Argument} {classes : List Value}
      (lists : Cursor.Lists classes arguments (.ok classes)) :
      Enters gate (.listed arguments) classes gate

theorem runOn_rescuing {clause : Clause} {classes : List Value} {gate start : Gate β ω}
    (enters : clause.Enters gate classes start) (body : Native β ω Value)
    (handler : Option (Value → Native β ω Value)) :
    (clause.rescuing body handler).runOn gate =
      (Native.raising (rescueAny classes body handler)).runOn start := by
  cases enters with
  | standardErrors asked =>
      rw [rescuing, Native.runOn_raising, rescue, Proc.runOn_bind_of_ok asked,
        Native.runOn_raising]
  | listed lists =>
      obtain ⟨cursor, -, ran⟩ := runOn_raising_rescueListed lists
      rw [rescuing, Trailing.runOn_supplied, ran]
      rfl

theorem runOn_rescuing_of_not_raised {clause : Clause} {classes : List Value}
    {gate start left : Gate β ω} (enters : clause.Enters gate classes start)
    {body : Native β ω Value} {result : Except Exit Value} (ran : body.runOn start = (result, left))
    (notRaised : ∀ exception, result ≠ .error (.raised exception))
    (notFailed : ∀ fault, result ≠ .error (.failed fault))
    (handler : Option (Value → Native β ω Value)) :
    (clause.rescuing body handler).runOn gate = (result, left) := by
  rw [runOn_rescuing enters]
  exact runOn_raising_rescueAny_of_not_raised ran notRaised notFailed classes handler

theorem runOn_standardError {gate : Gate β ω} {scope : Scope}
    (current : gate.context.current? = some scope)
    (unpinned : (gate.engine scope.engine).pinned = []) :
    (Native.onEngine (Engine.perform .standardError [])).runOn gate =
      (.ok Builtin.standardError.value,
        gate.noted scope.engine [Operation.standardError.name]) := by
  rw [Native.onEngine, Proc.runOn_bind_of_ok (Native.runOn_engineNumber current)]
  exact Native.runOn_atEngine_of_host
    (Engine.runOn_perform_of_value unpinned (Host.invoke_standardError _))

theorem enters_standardErrors {gate : Gate β ω} {scope : Scope}
    (current : gate.context.current? = some scope)
    (unpinned : (gate.engine scope.engine).pinned = []) :
    Clause.standardErrors.Enters gate [Builtin.standardError.value]
      (gate.noted scope.engine [Operation.standardError.name]) :=
  .standardErrors (runOn_standardError current unpinned)

theorem Enters.eq_or_noted {clause : Clause} {classes : List Value} {gate start : Gate β ω}
    (enters : clause.Enters gate classes start) (hosted : gate.Hosted) :
    start = gate ∨ ∃ number names, start = gate.noted number names := by
  cases enters with
  | listed lists => exact .inl rfl
  | standardErrors asked =>
      cases current : gate.context.current? with
      | none =>
          rw [Native.onEngine, Proc.runOn_bind_of_error
            (Native.runOn_engineNumber_of_none current)] at asked
          cases asked
      | some scope =>
          rw [runOn_standardError current (hosted _)] at asked
          cases asked
          exact .inr ⟨_, _, rfl⟩

theorem runOn_rescuing_of_fault {values : List Value} {arguments : List Argument}
    {fault : CursorFault} (lists : Cursor.Lists values arguments (.error fault))
    (body : Native β ω Value) (handler : Option (Value → Native β ω Value)) (gate : Gate β ω) :
    ((Clause.listed arguments).rescuing body handler).runOn gate =
      (Native.raiseFault (.cursor fault)).runOn gate := by
  obtain ⟨cursor, -, ran⟩ := runOn_raising_rescueListed lists
  rw [rescuing, Trailing.runOn_supplied, ran]
  rfl

theorem enters_or_const (clause : Clause) (gate : Gate β ω) :
    (∃ classes start, clause.Enters gate classes start) ∨
      ∃ ended, ∀ (body : Native β ω Value) (handler : Option (Value → Native β ω Value)),
        (clause.rescuing body handler).runOn gate = ended := by
  cases clause with
  | standardErrors =>
      cases asked : (Native.onEngine (Engine.perform .standardError [])).runOn gate with
      | mk result start =>
          cases result with
          | ok definition => exact .inl ⟨_, _, .standardErrors asked⟩
          | error exit =>
              refine .inr ⟨(Native.raising (throw exit)).runOn start, fun body handler => ?_⟩
              rw [rescuing, Native.runOn_raising, rescue, Proc.runOn_bind_of_error asked,
                Native.runOn_raising, Proc.runOn_throw]
  | listed arguments =>
      obtain ⟨values, read, lists⟩ := Cursor.exists_lists arguments
      cases read with
      | ok classes =>
          cases lists.eq_of_ok
          exact .inl ⟨_, _, .listed lists⟩
      | error fault =>
          exact .inr ⟨_, fun body handler => runOn_rescuing_of_fault lists body handler gate⟩

theorem runOn_rescuing_of_none {gate : Gate β ω} (missing : gate.context.current? = none)
    (body : Native β ω Value) (handler : Option (Value → Native β ω Value)) :
    (Clause.standardErrors.rescuing body handler).runOn gate = (.error .aborted, gate) := by
  have failed : (rescue body handler).runOn gate = (.error (.failed .noEngine), gate) := by
    rw [rescue, Native.onEngine, Proc.runOn_bind, Proc.runOn_bind,
      Native.runOn_engineNumber_of_none missing]
  rw [rescuing, Native.runOn_raising, failed]
  exact Native.runOn_raiseFault_of_none missing _

end Clause

end Protected

end NativeGate
