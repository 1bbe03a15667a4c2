import NativeGate.Proofs.Respects
import NativeGate.Proofs.Trailing

namespace NativeGate

variable {σ τ α γ : Type}

/-- From states with `I` both calls run alike, and leave a state with `I` unless they abort. -/
def Proc.AgreeOn (I : σ → Prop) (p q : Proc σ α) : Prop :=
  ∀ s, I s → p.runOn s = q.runOn s ∧ ((p.runOn s).1 ≠ .error .aborted → I (p.runOn s).2)

namespace Proc.AgreeOn

variable {I : σ → Prop} {p q : Proc σ α}

theorem self {R : σ → σ → Prop} (respects : p.Respects R) (kept : ∀ {s t}, R s t → I s → I t) :
    AgreeOn I p p :=
  fun s holds => ⟨rfl, fun _ => kept (respects s) holds⟩

theorem pure (a : α) : AgreeOn I (Pure.pure a) (Pure.pure a) :=
  fun _ holds => ⟨rfl, fun _ => holds⟩

theorem throw (exit : Exit) : AgreeOn I (throw exit : Proc σ α) (throw exit) :=
  fun _ holds => ⟨rfl, fun _ => holds⟩

theorem get : AgreeOn I (get : Proc σ σ) get :=
  fun _ holds => ⟨rfl, fun _ => holds⟩

theorem bind (first : AgreeOn I p q) {next next' : α → Proc σ γ}
    (rest : ∀ a, AgreeOn I (next a) (next' a)) : AgreeOn I (p >>= next) (q >>= next') := by
  intro s holds
  obtain ⟨same, kept⟩ := first s holds
  rw [runOn_bind, runOn_bind, ← same]
  generalize p.runOn s = ended at kept ⊢
  rcases ended with ⟨exit | a, after⟩
  · exact ⟨rfl, fun alive => kept (by simpa using alive)⟩
  · exact rest a after (kept nofun)

theorem attempt (agree : AgreeOn I p q) : AgreeOn I p.attempt q.attempt := by
  intro s holds
  obtain ⟨same, kept⟩ := agree s holds
  rw [runOn_attempt, runOn_attempt, ← same]
  generalize p.runOn s = ended at kept ⊢
  rcases ended with ⟨exit | a, after⟩
  · cases exit with
    | aborted => exact ⟨rfl, fun alive => absurd rfl alive⟩
    | _ => exact ⟨rfl, fun _ => kept nofun⟩
  · exact ⟨rfl, fun _ => kept nofun⟩

theorem liftExcept (result : Except Exit α) :
    AgreeOn I (liftExcept result) (liftExcept result) := by
  cases result with
  | ok a => exact pure a
  | error exit => exact throw exit

theorem catching {ε : Type} (stopped? : Exit → Option ε) (agree : AgreeOn I p q) :
    AgreeOn I (p.catching stopped?) (q.catching stopped?) :=
  agree.attempt.bind fun _ => liftExcept _

theorem catchRaise (agree : AgreeOn I p q) : AgreeOn I p.catchRaise q.catchRaise :=
  agree.catching _

theorem catchFault (agree : AgreeOn I p q) : AgreeOn I p.catchFault q.catchFault :=
  agree.catching _

theorem ensuring (agree : AgreeOn I p q) {cleanup cleanup' : Proc σ Unit}
    (clean : AgreeOn I cleanup cleanup') :
    AgreeOn I (p.ensuring cleanup) (q.ensuring cleanup') :=
  agree.attempt.bind fun result => clean.bind fun _ => liftExcept result

end Proc.AgreeOn

open Proc

namespace Trailing

variable {I : τ → Prop}

abbrev Holds (I : τ → Prop) (s : Cursor × τ) : Prop :=
  I s.2

theorem onCursor_agree (p : Proc Cursor α) : AgreeOn (Holds I) (onCursor p) (onCursor p) :=
  fun _ holds => ⟨rfl, fun _ => holds⟩

theorem onState_agree {p q : Proc τ α} (agree : AgreeOn I p q) :
    AgreeOn (Holds I) (onState p) (onState q) := by
  intro s holds
  obtain ⟨same, kept⟩ := agree s.2 holds
  rw [runOn_onState, runOn_onState, ← same]
  exact ⟨rfl, kept⟩

theorem supplied_agree {p q : Trailing τ α} (agree : AgreeOn (Holds I) p q)
    (arguments : List Argument) {ended : Cursor → τ → τ}
    (kept : ∀ cursor t, I t → I (ended cursor t)) :
    AgreeOn I (p.supplied arguments ended) (q.supplied arguments ended) := by
  intro t holds
  obtain ⟨same, keeps⟩ := agree (.start arguments, t) holds
  rw [runOn_supplied, runOn_supplied, ← same]
  exact ⟨rfl, fun alive => kept _ _ (keeps alive)⟩

end Trailing

end NativeGate
