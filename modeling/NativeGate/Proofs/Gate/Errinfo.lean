import NativeGate.Proofs.Gate.Clause

namespace NativeGate.Protected

open NativeGate

variable {β ω : Type}

theorem errinfo_newException (host : Host) (kind : ErrorKind) (message : Bytes) :
    (host.newException kind message).2.errinfo = host.errinfo := by
  unfold Host.newException
  split <;> rfl

namespace Clause

/-- The handler is not reached, and errinfo is what it was at `left`. -/
def Bypasses (clause : Clause) (body : Native β ω Value) (gate left : Gate β ω) : Prop :=
  ∃ result after, after.errinfo = left.errinfo ∧
    ∀ handler : Option (Value → Native β ω Value),
      (clause.rescuing body handler).runOn gate = (result, after)

/-- The handler is reached, and starts at `entry`. -/
structure HandsOver (clause : Clause) (body : Native β ω Value) (gate caught entry : Gate β ω)
    (number : Nat) (exception : Value) : Prop where
  noted : entry.errinfo number = exception
  unhandled : ∃ after, after.errinfo = caught.errinfo ∧
    (clause.rescuing body none).runOn gate = (.ok .nil, after)
  restored : ∀ handler : Value → Native β ω Value, (handler exception).Callback →
    ∀ ended left, (handler exception).runOn entry = (ended, left) → ended ≠ .error .aborted →
      ∃ after, after.errinfo number = caught.errinfo number ∧
        (clause.rescuing body (some handler)).runOn gate = (left.raisedAgain ended, after)

theorem enters_or_const_errinfo (clause : Clause) {gate : Gate β ω} (hosted : gate.Hosted) :
    (∃ classes start, clause.Enters gate classes start) ∨
    ∃ result after, after.errinfo = gate.errinfo ∧
      ∀ (body : Native β ω Value) (handler : Option (Value → Native β ω Value)),
        (clause.rescuing body handler).runOn gate = (result, after) := by
  cases clause with
  | standardErrors =>
      cases current : gate.context.current? with
      | none => exact .inr ⟨_, _, rfl, runOn_rescuing_of_none current⟩
      | some scope => exact .inl ⟨_, _, enters_standardErrors current (hosted _)⟩
  | listed arguments =>
      obtain ⟨values, read, lists⟩ := Cursor.exists_lists arguments
      cases read with
      | ok classes =>
          cases lists.eq_of_ok
          exact .inl ⟨_, _, .listed lists⟩
      | error fault =>
          have faulty := fun body handler => runOn_rescuing_of_fault lists body handler gate
          cases current : gate.context.current? with
          | none =>
              simp only [Native.runOn_raiseFault_of_none current] at faulty
              exact .inr ⟨_, _, rfl, faulty⟩
          | some scope =>
              simp only [Native.runOn_raiseFault_cursor current] at faulty
              refine .inr ⟨_, _, ?_, faulty⟩
              exact gate.errinfo_changeHost _ fun host => errinfo_newException host _ _

section Raised

variable {clause : Clause} {classes : List Value} {gate start caught : Gate β ω}
  (enters : clause.Enters gate classes start) {body : Native β ω Value} {exception : Value}
  (raised : body.runOn start = (.error (.raised exception), caught)) (hosted : caught.Hosted)

include enters raised hosted

theorem bypasses_of_uncovered
    (uncovered : ∀ scope, caught.context.current? = some scope →
      ¬ Covers (caught.engine scope.engine).host classes exception) :
    clause.Bypasses body gate caught := by
  cases current : caught.context.current? with
  | none =>
      refine ⟨.error .aborted, caught, rfl, fun handler => ?_⟩
      have settled := runOn_settle_of_none current classes handler exception
      rw [runOn_rescuing enters, Native.runOn_raising, runOn_rescueAny, raised]
      dsimp only
      rw [settled]
      exact Native.runOn_raiseFault_of_none current _
  | some scope =>
      obtain ⟨names, settled⟩ := runOn_raising_rescueAny raised current (hosted _) classes
      refine ⟨.error (.raised exception), _, caught.errinfo_noted scope.engine names,
        fun handler => ?_⟩
      rw [runOn_rescuing enters, settled, if_neg (mt covers_iff.mpr (uncovered scope current))]

theorem handsOver_of_covered {scope : Scope} (current : caught.context.current? = some scope)
    (covered : Covers (caught.engine scope.engine).host classes exception) :
    ∃ entry, clause.HandsOver body gate caught entry scope.engine exception := by
  obtain ⟨names, settled⟩ := runOn_raising_rescueAny raised current (hosted _) classes
  have matched := covers_iff.mp covered
  refine ⟨handlerStart (caught.noted scope.engine names) scope.engine exception,
    Gate.errinfo_withErrinfo _ _ _ _, ⟨_, caught.errinfo_noted scope.engine names, ?_⟩, ?_⟩
  · rw [runOn_rescuing enters, settled, if_pos matched]
  · intro handler native ended left ran alive
    obtain ⟨after, handled, restored⟩ := runOn_raising_handle_noted hosted native names ran
    refine ⟨after, ?_, ?_⟩
    · rw [restored alive, Gate.errinfo_withErrinfo]
    · rw [runOn_rescuing enters, settled, if_pos matched]
      exact handled

end Raised

end Clause

/-- A handler starts with errinfo set to the exception, and when it has ended, however it ends,
errinfo is what it was when the exception was caught.  A call that does not reach its handler leaves
errinfo as it was, or as the body left it. -/
theorem errinfo_around_handler {gate : Gate β ω} (hosted : gate.Hosted) {body : Native β ω Value}
    (native : body.Callback) (clause : Clause) :
    ((∃ classes start, clause.Enters gate classes start) ∨
      ∃ result after, after.errinfo = gate.errinfo ∧
        ∀ (body : Native β ω Value) (handler : Option (Value → Native β ω Value)),
          (clause.rescuing body handler).runOn gate = (result, after)) ∧
    ∀ classes start, clause.Enters gate classes start →
      start.errinfo = gate.errinfo ∧ start.context = gate.context ∧
      (∀ result left, body.runOn start = (result, left) →
        (∀ exception, result ≠ .error (.raised exception)) → clause.Bypasses body gate left) ∧
      ∀ exception caught, body.runOn start = (.error (.raised exception), caught) →
        ((∀ scope, caught.context.current? = some scope →
            ¬ Covers (caught.engine scope.engine).host classes exception) →
          clause.Bypasses body gate caught) ∧
        ∀ scope, caught.context.current? = some scope →
          Covers (caught.engine scope.engine).host classes exception →
          ∃ entry, clause.HandsOver body gate caught entry scope.engine exception := by
  refine ⟨clause.enters_or_const_errinfo hosted, fun classes start enters => ?_⟩
  have begun : start.Hosted ∧ start.errinfo = gate.errinfo ∧ start.context = gate.context := by
    obtain rfl | ⟨number, names, rfl⟩ := enters.eq_or_noted hosted
    · exact ⟨hosted, rfl, rfl⟩
    · exact ⟨hosted.noted number names, gate.errinfo_noted number names, rfl⟩
  refine ⟨begun.2.1, begun.2.2, ?_, ?_⟩
  · intro result left ran notRaised
    exact ⟨result, left, rfl,
      Clause.runOn_rescuing_of_not_raised enters ran notRaised (native.not_failed ran)⟩
  · intro exception caught raised
    have caughtHosted := native.hosted raised begun.1
    exact ⟨Clause.bypasses_of_uncovered enters raised caughtHosted,
      fun scope => Clause.handsOver_of_covered enters raised caughtHosted⟩

theorem errinfo_around_handler_fatal :
    ∃ entry after : Gate Unit Unit, entry.errinfo 0 = Host.outOfMemory ∧ after.errinfo 0 = .nil ∧
      ((Clause.listed [.value Builtin.object.value, .null]).rescuing
          (throw (.raised Host.outOfMemory)) (some fun exception => throw (.fatal exception))).runOn
        (.installed ()) = (.error (.fatal Host.outOfMemory), after) := by
  have raised : (throw (.raised Host.outOfMemory) : Native Unit Unit Value).Callback :=
    .throw fun ⟨_, same⟩ => nomatch same
  have fatal : (throw (.fatal Host.outOfMemory) : Native Unit Unit Value).Callback :=
    .throw fun ⟨_, same⟩ => nomatch same
  have lists : Cursor.Lists [Builtin.object.value] [.value Builtin.object.value, .null]
      (.ok [Builtin.object.value]) := .terminated (by decide) rfl rfl []
  obtain ⟨-, calls⟩ :=
    errinfo_around_handler (Gate.installed_hosted () {}) raised (.listed _)
  obtain ⟨-, -, -, raises⟩ := calls _ _ (.listed lists)
  obtain ⟨-, covered⟩ := raises _ _ rfl
  obtain ⟨entry, handsOver⟩ := covered _ rfl (covers_iff.mpr (by decide))
  obtain ⟨after, restored, ran⟩ :=
    handsOver.restored (fun exception => throw (.fatal exception)) fatal _ _ rfl nofun
  exact ⟨entry, after, handsOver.noted, restored, ran⟩

end NativeGate.Protected
