import NativeGate.Gate.Blocks
import NativeGate.Proofs.Engine
import NativeGate.Proofs.Gate.Basic

namespace NativeGate

namespace Proc

variable {σ τ α γ : Type}

theorem ext_runOn {p q : Proc σ α} (same : ∀ s, p.runOn s = q.runOn s) : p = q :=
  funext same

theorem runOn_map (f : α → γ) (p : Proc σ α) (s : σ) :
    (f <$> p).runOn s = ((p.runOn s).1.map f, (p.runOn s).2) := by
  rw [map_eq_pure_bind, runOn_bind]
  rcases p.runOn s with ⟨exit | a, after⟩ <;> rfl

theorem zoom_map (f : α → γ) (p : Proc τ α) (get : σ → τ) (set : τ → σ → σ) :
    (f <$> p).zoom get set = f <$> p.zoom get set := by
  refine ext_runOn fun s => ?_
  simp only [runOn_zoom, runOn_map]

end Proc

namespace Host

variable {α γ : Type}

def reading (f : α → γ) (answered : Reply α × Host) : Reply γ × Host :=
  (answered.1.map f, answered.2)

theorem reading_complain (f : α → γ) (host : Host) (complaint : Complaint) :
    reading f (host.complain complaint) = host.complain complaint := by
  cases complaint <;> rfl

theorem perform_ask (host : Host) (query : Query) (args : List Value) :
    host.perform (.ask query) args =
      match host.answer query args with
      | .ok b => (.value (.ofBool b), host)
      | .error complaint => host.complain complaint := by
  rw [perform, plan]
  cases host.answer query args <;> rfl

theorem invokePredicate_eq (host : Host) (name : String) (args : List Value) :
    host.invokePredicate name args = reading Value.isTruthy (host.invoke name args) := by
  simp only [invokePredicate, invoke]
  cases Operation.ofName? name with
  | none => exact (reading_complain _ _ _).symm
  | some op =>
      cases op with
      | ask query =>
          simp only [perform_ask]
          cases (host.note name).answer query args with
          | ok b => cases b <;> rfl
          | error complaint => exact (reading_complain _ _ _).symm
      | _ => rfl

end Host

namespace Engine

variable {α γ β : Type}

theorem asking_reading (f : α → γ) (answer : Host → Reply α × Host) :
    (asking fun host => Host.reading f (answer host) : Proc (Engine β) γ) =
      f <$> asking answer := by
  refine Proc.ext_runOn fun engine => ?_
  rw [Proc.runOn_map, runOn_asking, runOn_asking, Host.reading]
  rcases answer engine.host with ⟨_ | _ | _, host⟩ <;> rfl

theorem unlessPinned_map (f : α → γ) (name : String) (read : Value → α)
    (otherwise : Proc (Engine β) α) :
    unlessPinned name (fun v => f (read v)) (f <$> otherwise) =
      f <$> unlessPinned name read otherwise := by
  rw [unlessPinned, unlessPinned, map_bind]
  refine bind_congr fun engine => ?_
  rcases engine.pinned.lookup name with _ | exception | v <;> rfl

theorem predicateNamed_eq (name : String) (args : List Value) :
    (predicateNamed name args : Proc (Engine β) Bool) =
      Value.isTruthy <$> invokeNamed name args := by
  simp only [predicateNamed, Host.invokePredicate_eq, asking_reading]
  exact unlessPinned_map _ _ _ _

end Engine

theorem Native.onEngine_map {α β γ ω : Type} (f : α → γ) (p : Proc (Engine β) α) :
    (onEngine (f <$> p) : Native β ω γ) = f <$> onEngine p := by
  rw [onEngine, onEngine, map_bind]
  exact bind_congr fun number => Proc.zoom_map f p _ _

namespace Blocks

variable {β ω : Type}

theorem invokePredicate_eq (call : Caller β ω) (name : String) (args : List Value) :
    invokePredicate call name args = Value.isTruthy <$> invoke call name args := by
  unfold invokePredicate invoke
  split
  · exact (map_eq_pure_bind _ _).symm
  · rw [Engine.predicateNamed_eq, Native.onEngine_map]

theorem yield_congr {first second : Caller β ω} {args : List Value} {gate : Gate β ω}
    (alike : ∀ block yielding,
      (Native.onEngine startYield).runOn gate = (.ok (.inr block), yielding) →
        (first block args).runOn yielding = (second block args).runOn yielding) :
    (yield first args).runOn gate = (yield second args).runOn gate := by
  simp only [yield, Proc.runOn_bind]
  generalize started : (Native.onEngine startYield).runOn gate = ended
  rcases ended with ⟨exit | v | block, yielding⟩
  · rfl
  · rfl
  · exact alike block yielding started

theorem invoke_congr {first second : Caller β ω} {name : String} {args : List Value}
    {gate : Gate β ω}
    (alike : name = yieldName → ∀ block yielding,
      (Native.onEngine startYield).runOn gate = (.ok (.inr block), yielding) →
        (first block args).runOn yielding = (second block args).runOn yielding) :
    (invoke first name args).runOn gate = (invoke second name args).runOn gate := by
  unfold invoke
  split
  next isYield => exact yield_congr (alike isYield)
  next => rfl

/-- Whatever the name and the arguments, `invokePredicate` ends as `invoke` does, with its value
read for its truth, and leaves the same gate.  A yielded block has to do the same both times. -/
theorem predicates_agree {first second : Caller β ω} {name : String} {args : List Value}
    {gate : Gate β ω}
    (alike : name = yieldName → ∀ block yielding,
      (Native.onEngine startYield).runOn gate = (.ok (.inr block), yielding) →
        (first block args).runOn yielding = (second block args).runOn yielding) :
    (invokePredicate second name args).runOn gate =
      match (invoke first name args).runOn gate with
      | (.ok v, after) => (.ok v.isTruthy, after)
      | (.error exit, after) => (.error exit, after) := by
  rw [invokePredicate_eq, Proc.runOn_map, ← invoke_congr alike]
  rcases (invoke first name args).runOn gate with ⟨exit | v, after⟩ <;> rfl

theorem predicates_agree_yield :
    let gate := (Gate.installed () : Gate Bool Unit).setEngine 0 { blocks := [true, false] }
    let first : Caller Bool Unit := fun block _ => pure (if block then .fixnum 0 else .nil)
    let second : Caller Bool Unit := fun _ args => pure (args.headD .nil)
    (first false [.fixnum 0]).runOn gate ≠ (second false [.fixnum 0]).runOn gate ∧
      ∃ after, (invoke first yieldName [.fixnum 0]).runOn gate = (.ok (.fixnum 0), after) ∧
        (invokePredicate second yieldName [.fixnum 0]).runOn gate = (.ok true, after) := by
  let gate := (Gate.installed () : Gate Bool Unit).setEngine 0 { blocks := [true, false] }
  let first : Caller Bool Unit := fun block _ => pure (if block then .fixnum 0 else .nil)
  let second : Caller Bool Unit := fun _ args => pure (args.headD .nil)
  let after := gate.changeHost 0 (·.note yieldName)
  have differ : (first false [.fixnum 0]).runOn gate ≠ (second false [.fixnum 0]).runOn gate := by
    intro same
    exact absurd (congrArg Prod.fst same) (by decide)
  have started : (Native.onEngine startYield).runOn gate = (.ok (.inr true), after) := rfl
  have invoked : (invoke first yieldName [.fixnum 0]).runOn gate = (.ok (.fixnum 0), after) := rfl
  have alike : yieldName = yieldName → ∀ block yielding,
      (Native.onEngine startYield).runOn gate = (.ok (.inr block), yielding) →
        (first block [.fixnum 0]).runOn yielding = (second block [.fixnum 0]).runOn yielding := by
    intro _ block yielding yielded
    rw [started] at yielded
    cases yielded
    rfl
  have asked := predicates_agree alike
  rw [invoked] at asked
  exact ⟨differ, after, invoked, asked⟩

end Blocks

end NativeGate
