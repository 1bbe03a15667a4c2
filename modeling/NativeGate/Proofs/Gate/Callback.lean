import NativeGate.Proofs.Gate.Basic
import NativeGate.Proofs.Respects

namespace NativeGate

variable {α β ω : Type}

/-- The host has acted, and nothing was pinned meanwhile. -/
structure Engine.Advances (before after : Engine β) : Prop where
  leads : before.host.Leads after.host
  unpinned : before.pinned = [] → after.pinned = []

theorem Engine.Advances.refl (engine : Engine β) : engine.Advances engine :=
  ⟨.refl _, id⟩

theorem Engine.Advances.trans {first second third : Engine β} (left : first.Advances second)
    (right : second.Advances third) : first.Advances third :=
  ⟨left.leads.trans right.leads, right.unpinned ∘ left.unpinned⟩

instance : Std.Refl (Engine.Advances (β := β)) := ⟨Engine.Advances.refl⟩

instance : IsTrans (Engine β) Engine.Advances := ⟨fun _ _ _ => Engine.Advances.trans⟩

namespace Gate

/-- Nothing is pinned on any engine. -/
def Hosted (gate : Gate β ω) : Prop :=
  ∀ number, (gate.engine number).pinned = []

def Advances (before after : Gate β ω) : Prop :=
  ∀ number, (before.engine number).Advances (after.engine number)

theorem Advances.refl (gate : Gate β ω) : gate.Advances gate :=
  fun _ => .refl _

theorem Advances.trans {first second third : Gate β ω} (left : first.Advances second)
    (right : second.Advances third) : first.Advances third :=
  fun number => (left number).trans (right number)

theorem Advances.hosted {before after : Gate β ω} (advances : before.Advances after)
    (hosted : before.Hosted) : after.Hosted :=
  fun number => (advances number).unpinned (hosted number)

theorem related_setEngine {S : Engine β → Engine β → Prop} [Std.Refl S] {gate : Gate β ω}
    {number : Nat} {engine : Engine β} (related : S (gate.engine number) engine) (other : Nat) :
    S (gate.engine other) ((gate.setEngine number engine).engine other) := by
  by_cases same : other = number
  · subst other
    rw [engine_setEngine]
    exact related
  · rw [engine_setEngine_of_ne gate same]
    exact refl_of S _

theorem Hosted.changeHost {gate : Gate β ω} (hosted : gate.Hosted) (number : Nat)
    (change : Host → Host) : (gate.changeHost number change).Hosted :=
  fun other => (gate.pinned_changeHost number other change).trans (hosted other)

theorem installed_hosted (program : ω) (settings : Settings) :
    (installed program settings : Gate β ω).Hosted :=
  fun _ => rfl

end Gate

/-- Scopes entered meanwhile have been left, and an installed engine stays. -/
structure Context.Restored (before after : Context) : Prop where
  scopes : after.scopes = before.scopes
  installed : ∀ scope, before.installed = some scope → after.installed = some scope

instance : Std.Refl Context.Restored :=
  ⟨fun _ => ⟨rfl, fun _ => id⟩⟩

instance : IsTrans Context Context.Restored where
  trans _ _ _ left right :=
    ⟨right.scopes.trans left.scopes, fun scope isScope =>
      right.installed scope (left.installed scope isScope)⟩

theorem Context.Restored.current? {before after : Context} (restored : before.Restored after)
    {scope : Scope} (current : before.current? = some scope) : after.current? = some scope := by
  unfold Context.current? at *
  rw [restored.scopes]
  cases entered : before.scopes.head? with
  | some inner =>
      rw [entered] at current
      exact current
  | none =>
      rw [entered] at current
      exact restored.installed scope current

namespace Native

/-- Native code that is called back hands back no fault: it raises. -/
structure Callback (p : Native β ω α) : Prop where
  advances : p.Respects Gate.Advances
  raises : p.NeverFails

section Callback

variable {p : Native β ω α} (native : p.Callback) {gate left : Gate β ω} {result : Except Exit α}
  (ran : p.runOn gate = (result, left))

include native ran

theorem Callback.leads (number : Nat) :
    (gate.engine number).host.Leads (left.engine number).host := by
  have advances := native.advances gate
  rw [ran] at advances
  exact (advances number).leads

theorem Callback.hosted (hosted : gate.Hosted) : left.Hosted := by
  have advances := native.advances gate
  rw [ran] at advances
  exact advances.hosted hosted

theorem Callback.not_failed (fault : Fault) : result ≠ .error (.failed fault) := by
  have raises := native.raises gate fault
  rwa [ran] at raises

end Callback

/-- However the code ends, it has left the scopes that it entered, and no others. -/
def Balanced (p : Native β ω α) : Prop :=
  ∀ gate : Gate β ω,
    (p.runOn gate).1 = .error .aborted ∨ gate.context.Restored (p.runOn gate).2.context

theorem Callback.pure (a : α) : (Pure.pure a : Native β ω α).Callback :=
  ⟨Gate.Advances.refl, Proc.pure_neverFails a⟩

theorem Callback.throw {exit : Exit} (notFault : ¬ exit.IsFault) :
    (throw exit : Native β ω α).Callback :=
  ⟨Gate.Advances.refl, Proc.throw_neverFails notFault⟩

theorem Balanced.pure (a : α) : (Pure.pure a : Native β ω α).Balanced :=
  fun _ => .inr ⟨rfl, fun _ => id⟩

theorem Balanced.throw (exit : Exit) : (throw exit : Native β ω α).Balanced :=
  fun _ => .inr ⟨rfl, fun _ => id⟩

end Native

end NativeGate
