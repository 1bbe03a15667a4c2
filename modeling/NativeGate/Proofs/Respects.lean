import Mathlib.Order.RelIso.Basic
import NativeGate.Proofs.Exit
import NativeGate.Trailing

namespace NativeGate

variable {σ τ α γ : Type}

/-! Calls that take states only to related ones, however they end. -/

def Proc.Respects (R : σ → σ → Prop) (p : Proc σ α) : Prop :=
  ∀ s, R s (p.runOn s).2

namespace Proc.Respects

variable {R : σ → σ → Prop} {p : Proc σ α}

theorem modify {change : σ → σ} (related : ∀ s, R s (change s)) :
    (modify change : Proc σ Unit).Respects R :=
  related

theorem zoom {S : τ → τ → Prop} {part : Proc τ α} (respects : part.Respects S)
    {get : σ → τ} {set : τ → σ → σ} (related : ∀ s t, S (get s) t → R s (set t s)) :
    (part.zoom get set).Respects R :=
  fun s => related s _ (respects (get s))

theorem attempt (respects : p.Respects R) : p.attempt.Respects R := by
  intro s
  have left := respects s
  rw [runOn_attempt]
  generalize p.runOn s = ended at left ⊢
  rcases ended with ⟨exit | a, after⟩
  · cases exit <;> exact left
  · exact left

theorem bind [IsTrans σ R] (first : p.Respects R) {next : α → Proc σ γ}
    (rest : ∀ a, (next a).Respects R) : (p >>= next).Respects R := by
  intro s
  have front := first s
  rw [runOn_bind]
  generalize p.runOn s = ended at front ⊢
  rcases ended with ⟨exit | a, after⟩
  · exact front
  · exact trans_of R front (rest a after)

section Refl

variable [Std.Refl R]

theorem pure (a : α) : (Pure.pure a : Proc σ α).Respects R :=
  refl_of R

theorem throw (exit : Exit) : (throw exit : Proc σ α).Respects R :=
  refl_of R

theorem get : (get : Proc σ σ).Respects R :=
  refl_of R

theorem liftExcept (result : Except Exit α) : (liftExcept result : Proc σ α).Respects R := by
  cases result with
  | ok a => exact pure a
  | error exit => exact throw exit

variable [IsTrans σ R]

theorem catching {ε : Type} (stopped? : Exit → Option ε) (respects : p.Respects R) :
    (p.catching stopped?).Respects R :=
  respects.attempt.bind fun _ => liftExcept _

theorem catchRaise (respects : p.Respects R) : p.catchRaise.Respects R :=
  respects.catching _

theorem catchFault (respects : p.Respects R) : p.catchFault.Respects R :=
  respects.catching _

theorem ensuring (respects : p.Respects R) {cleanup : Proc σ Unit}
    (cleans : cleanup.Respects R) : (p.ensuring cleanup).Respects R :=
  respects.attempt.bind fun result => cleans.bind fun _ => liftExcept result

end Refl

end Proc.Respects

open Proc

namespace Trailing

variable {R : τ → τ → Prop}

abbrev OnState (R : τ → τ → Prop) : Cursor × τ → Cursor × τ → Prop :=
  Order.Preimage Prod.snd R

theorem onCursor_respects [Std.Refl R] (p : Proc Cursor α) :
    (onCursor p : Trailing τ α).Respects (OnState R) :=
  fun s => refl_of R s.2

theorem onState_respects {p : Proc τ α} (respects : p.Respects R) :
    (onState p).Respects (OnState R) :=
  fun s => respects s.2

theorem zoomState_respects {S : σ → σ → Prop} {p : Trailing σ α}
    (respects : p.Respects (OnState S)) {get : τ → σ} {set : σ → τ → τ}
    (related : ∀ t part, S (get t) part → R t (set part t)) :
    (zoomState get set p).Respects (OnState R) :=
  Respects.zoom respects fun s _ => related s.2 _

theorem supplied_respects [IsTrans τ R] {p : Trailing τ α} (respects : p.Respects (OnState R))
    (arguments : List Argument) {ended : Cursor → τ → τ}
    (related : ∀ cursor t, R t (ended cursor t)) : (p.supplied arguments ended).Respects R :=
  fun t => trans_of R (respects (Cursor.start arguments, t)) (related _ _)

end Trailing

end NativeGate
