import NativeGate.Exit

namespace NativeGate

theorem Fault.counterpart_raised_ne_missing (exception : Value) :
    (Fault.raised exception).counterpart ≠ .missing :=
  nofun

theorem Fault.counterpart_cursor_ne_missing (fault : CursorFault) :
    (Fault.cursor fault).counterpart ≠ .missing :=
  nofun

def Exit.IsFault (exit : Exit) : Prop :=
  ∃ fault, exit = .failed fault

def Exit.IsUnrescuable : Exit → Prop
  | .fatal _ | .bug _ | .foreign _ => True
  | .failed _ | .raised _ | .aborted => False

section Unrescuable

variable {α : Type} {exit : Exit} (unrescuable : exit.IsUnrescuable)

include unrescuable

theorem Exit.IsUnrescuable.not_raised (exception : Value) :
    (.error exit : Except Exit α) ≠ .error (.raised exception) := by
  rintro ⟨⟩
  exact unrescuable

theorem Exit.IsUnrescuable.not_failed (fault : Fault) :
    (.error exit : Except Exit α) ≠ .error (.failed fault) := by
  rintro ⟨⟩
  exact unrescuable

theorem Exit.IsUnrescuable.alive : (.error exit : Except Exit α) ≠ .error .aborted := by
  rintro ⟨⟩
  exact unrescuable

end Unrescuable

namespace Proc

variable {σ τ α β : Type}

@[simp] theorem runOn_get (s : σ) : (get : Proc σ σ).runOn s = (.ok s, s) := rfl

@[simp] theorem runOn_modify (change : σ → σ) (s : σ) :
    (modify change : Proc σ PUnit).runOn s = (.ok ⟨⟩, change s) := rfl

@[simp] theorem runOn_fail (fault : Fault) (s : σ) :
    (fail fault : Proc σ α).runOn s = (.error (.failed fault), s) := rfl

@[simp] theorem runOn_zoom (get : σ → τ) (set : τ → σ → σ) (p : Proc τ α) (s : σ) :
    (zoom get set p).runOn s = ((p.runOn (get s)).1, set (p.runOn (get s)).2 s) := rfl

theorem runOn_bind_of_ok {p : Proc σ α} {next : α → Proc σ β} {s s' : σ} {a : α}
    (returned : p.runOn s = (.ok a, s')) : (p >>= next).runOn s = (next a).runOn s' := by
  rw [runOn_bind, returned]

theorem runOn_bind_of_error {p : Proc σ α} {next : α → Proc σ β} {s s' : σ} {exit : Exit}
    (left : p.runOn s = (.error exit, s')) : (p >>= next).runOn s = (.error exit, s') := by
  rw [runOn_bind, left]

theorem runOn_bind_eq_ok {p : Proc σ α} {next : α → Proc σ β} {s s'' : σ} {b : β} :
    (p >>= next).runOn s = (.ok b, s'') ↔
      ∃ a s', p.runOn s = (.ok a, s') ∧ (next a).runOn s' = (.ok b, s'') := by
  rw [runOn_bind]
  cases run : p.runOn s with
  | mk result s' =>
      cases result with
      | error exit => simp
      | ok a =>
          constructor
          · intro returned
            exact ⟨a, s', rfl, returned⟩
          · rintro ⟨_, _, same, returned⟩
            cases same
            exact returned

theorem runOn_bind_eq_error {p : Proc σ α} {next : α → Proc σ β} {s s'' : σ} {exit : Exit} :
    (p >>= next).runOn s = (.error exit, s'') ↔
      p.runOn s = (.error exit, s'') ∨
      ∃ a s', p.runOn s = (.ok a, s') ∧ (next a).runOn s' = (.error exit, s'') := by
  rw [runOn_bind]
  cases run : p.runOn s with
  | mk result s' =>
      cases result with
      | error other => simp
      | ok a =>
          constructor
          · intro left
            exact .inr ⟨a, s', rfl, left⟩
          · rintro (left | ⟨_, _, same, left⟩)
            · cases left
            · cases same
              exact left

theorem runOn_attempt (p : Proc σ α) (s : σ) :
    p.attempt.runOn s =
      match p.runOn s with
      | (.error .aborted, s) => (.error .aborted, s)
      | (result, s) => (.ok result, s) := rfl

def NeverFails (p : Proc σ α) : Prop :=
  ∀ s fault, (p.runOn s).1 ≠ .error (.failed fault)

theorem NeverFails.bind {p : Proc σ α} (first : p.NeverFails) {next : α → Proc σ β}
    (rest : ∀ a, (next a).NeverFails) : (p >>= next).NeverFails := by
  intro s fault
  have front := first s fault
  rw [runOn_bind]
  generalize p.runOn s = ended at front ⊢
  rcases ended with ⟨exit | a, after⟩
  · rintro ⟨⟩
    exact front rfl
  · exact rest a after fault

theorem pure_neverFails (a : α) : (pure a : Proc σ α).NeverFails :=
  fun _ _ => nofun

theorem get_neverFails : (get : Proc σ σ).NeverFails :=
  fun _ _ => nofun

theorem modify_neverFails (change : σ → σ) : (modify change : Proc σ Unit).NeverFails :=
  fun _ _ => nofun

theorem throw_neverFails {exit : Exit} (notFault : ¬ exit.IsFault) :
    (throw exit : Proc σ α).NeverFails :=
  fun _ fault same => notFault ⟨fault, Except.error.inj same⟩

theorem attempt_neverFails (p : Proc σ α) : p.attempt.NeverFails := by
  intro s fault
  rw [runOn_attempt]
  rcases p.runOn s with ⟨exit | a, after⟩
  · cases exit <;> exact nofun
  · exact nofun

theorem runOn_liftExcept (result : Except Exit α) (s : σ) :
    (liftExcept result).runOn s = (result, s) := by
  cases result <;> rfl

theorem runOn_catching {ε : Type} (stopped? : Exit → Option ε) (gone : stopped? .aborted = none)
    (p : Proc σ α) (s : σ) :
    (p.catching stopped?).runOn s = (stop stopped? (p.runOn s).1, (p.runOn s).2) := by
  rw [catching, runOn_bind, runOn_attempt]
  rcases p.runOn s with ⟨exit | a, s⟩
  · cases exit with
    | aborted => simp [gone]
    | _ => exact runOn_liftExcept _ s
  · rfl

theorem runOn_catchRaise (p : Proc σ α) (s : σ) :
    p.catchRaise.runOn s = (stop Exit.exception? (p.runOn s).1, (p.runOn s).2) :=
  runOn_catching _ rfl p s

theorem runOn_catchFault (p : Proc σ α) (s : σ) :
    p.catchFault.runOn s = (stop Exit.fault? (p.runOn s).1, (p.runOn s).2) :=
  runOn_catching _ rfl p s

theorem runOn_ensuring (body : Proc σ α) (cleanup : Proc σ Unit) (s : σ) :
    (body.ensuring cleanup).runOn s =
      match body.runOn s with
      | (.error .aborted, s) => (.error .aborted, s)
      | (result, s) =>
          match cleanup.runOn s with
          | (.ok _, s) => (result, s)
          | (.error exit, s) => (.error exit, s) := by
  have ends (result : Except Exit α) (s : σ) :
      (cleanup >>= fun _ => liftExcept result).runOn s =
        match cleanup.runOn s with
        | (.ok _, s) => (result, s)
        | (.error exit, s) => (.error exit, s) := by
    rw [runOn_bind]
    rcases cleanup.runOn s with ⟨exit | u, s⟩
    · rfl
    · exact runOn_liftExcept result s
  rw [ensuring, runOn_bind, runOn_attempt]
  rcases body.runOn s with ⟨exit | a, left⟩
  · cases exit with
    | aborted => rfl
    | _ => exact ends _ left
  · exact ends _ left

theorem runOn_ensuring_of_alive {body : Proc σ α} {s left : σ} {result : Except Exit α}
    (ran : body.runOn s = (result, left)) (alive : result ≠ .error .aborted)
    (cleanup : Proc σ Unit) :
    (body.ensuring cleanup).runOn s =
      match cleanup.runOn left with
      | (.ok _, after) => (result, after)
      | (.error exit, after) => (.error exit, after) := by
  rw [runOn_ensuring, ran]
  rcases result with exit | a
  · cases exit with
    | aborted => exact absurd rfl alive
    | _ => rfl
  · rfl

theorem runOn_catchFault_of_left {p : Proc σ α} {s s' : σ} {exit : Exit}
    (left : p.runOn s = (.error exit, s')) (notFault : ¬ exit.IsFault) :
    p.catchFault.runOn s = (.error exit, s') := by
  rw [runOn_catchFault, left]
  cases exit with
  | failed fault => exact absurd ⟨fault, rfl⟩ notFault
  | _ => rfl

end Proc

end NativeGate
