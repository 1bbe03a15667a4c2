import NativeGate.Proofs.Gate.Callback

namespace NativeGate

open Proc

variable {α β ω : Type}

/-- Only the host has changed, by a run of its actions. -/
structure Engine.Acts (before after : Engine β) : Prop where
  leads : before.host.Leads after.host
  eq_host : after = { before with host := after.host }

namespace Engine

theorem Acts.advances {before after : Engine β} (acts : before.Acts after) :
    before.Advances after := by
  refine ⟨acts.leads, fun unpinned => ?_⟩
  rw [acts.eq_host]
  exact unpinned

instance : Std.Refl (Acts (β := β)) :=
  ⟨fun engine => ⟨.refl engine.host, rfl⟩⟩

instance : IsTrans (Engine β) Acts where
  trans first second third left right := by
    refine ⟨left.leads.trans right.leads, ?_⟩
    rw [right.eq_host, left.eq_host]

theorem asking_respects {answer : Host → Reply α × Host}
    (leads : ∀ host : Host, host.Leads (answer host).2) :
    (asking answer : Proc (Engine β) α).Respects Acts := by
  intro engine
  have led := leads engine.host
  rw [runOn_asking]
  generalize answer engine.host = replied at led ⊢
  rcases replied with ⟨_ | _ | _, host⟩ <;> exact ⟨led, rfl⟩

theorem modifyHost_respects {change : Host → α × Host}
    (leads : ∀ host : Host, host.Leads (change host).2) :
    (modifyHost change : Proc (Engine β) α).Respects Acts :=
  asking_respects leads

theorem unlessPinned_respects {R : Engine β → Engine β → Prop} [Std.Refl R] [IsTrans _ R]
    {otherwise : Proc (Engine β) α} (respects : otherwise.Respects R) (name : String)
    (read : Value → α) : (unlessPinned name read otherwise).Respects R := by
  refine Respects.get.bind fun engine => ?_
  rcases engine.pinned.lookup name with _ | _ | v
  · exact respects
  · exact .throw _
  · exact .pure _

theorem invokeNamed_respects (name : String) (args : List Value) :
    (invokeNamed name args : Proc (Engine β) Value).Respects Acts :=
  unlessPinned_respects (asking_respects fun host => host.leads_act (.invoke name args)) _ _

theorem predicateNamed_respects (name : String) (args : List Value) :
    (predicateNamed name args : Proc (Engine β) Bool).Respects Acts :=
  unlessPinned_respects
    (asking_respects fun host => host.leads_act (.invokePredicate name args)) _ _

theorem perform_respects (op : Operation) (args : List Value) :
    (perform op args : Proc (Engine β) Value).Respects Acts :=
  invokeNamed_respects op.name args

theorem ask_respects (query : Query) (args : List Value) :
    (ask query args : Proc (Engine β) Bool).Respects Acts :=
  predicateNamed_respects query.name args

theorem newString_respects (bytes : Bytes) (encoding : Encoding) :
    (newString bytes encoding : Proc (Engine β) Value).Respects Acts :=
  modifyHost_respects fun host => host.leads_act (.newString bytes encoding)

theorem newException_respects (kind : ErrorKind) (message : Bytes) :
    (newException kind message : Proc (Engine β) Value).Respects Acts :=
  modifyHost_respects fun host => host.leads_act (.newException kind message)

theorem readString_respects (string : Value) :
    (readString string : Proc (Engine β) Bytes).Respects Acts :=
  asking_respects fun host => host.leads_act (.readString string)

theorem failWith_respects (kind : ErrorKind) (message : Bytes) :
    (failWith kind message : Proc (Engine β) α).Respects Acts :=
  (newException_respects kind message).bind fun _ => .throw _

theorem inspect_respects (v : Value) : (inspect v : Proc (Engine β) Bytes).Respects Acts :=
  (perform_respects .inspect [v]).bind readString_respects

theorem textOf_respects (v : Value) : (textOf v : Proc (Engine β) Bytes).Respects Acts :=
  (perform_respects .objAsString [v]).bind readString_respects

end Engine

/-- Kept by calls that advance engines and leave the context alone. -/
class Gate.Permits (R : Gate β ω → Gate β ω → Prop) : Prop
    extends Std.Refl R, IsTrans (Gate β ω) R where
  setEngine (gate : Gate β ω) (number : Nat) {engine : Engine β} :
    (gate.engine number).Advances engine → R gate (gate.setEngine number engine)
  setAside (gate : Gate β ω) (memory : Memory) (program : ω) : R gate { gate with memory, program }

instance : Gate.Permits (Gate.Advances (β := β) (ω := ω)) where
  refl := Gate.Advances.refl
  trans _ _ _ := Gate.Advances.trans
  setEngine _ _ _ := Gate.related_setEngine
  setAside _ _ _ _ := .refl _

def Gate.Leads (before after : Gate β ω) : Prop :=
  ∀ number, (before.engine number).host.Leads (after.engine number).host

instance : Std.Refl Host.Leads :=
  ⟨.refl⟩

theorem Gate.leads_setEngine (gate : Gate β ω) {number : Nat} {engine : Engine β}
    (leads : (gate.engine number).host.Leads engine.host) :
    gate.Leads (gate.setEngine number engine) :=
  related_setEngine (S := Order.Preimage Engine.host Host.Leads) leads

instance : Gate.Permits (Gate.Leads (β := β) (ω := ω)) where
  refl _ _ := .refl _
  trans _ _ _ left right number := (left number).trans (right number)
  setEngine gate _ _ advances := gate.leads_setEngine advances.leads
  setAside _ _ _ _ := .refl _

instance : Gate.Permits (Order.Preimage (Gate.context (β := β) (ω := ω)) Context.Restored) where
  setEngine gate _ _ _ := refl_of Context.Restored gate.context
  setAside gate _ _ := refl_of Context.Restored gate.context

/-- Kept by calls that have hosts act and leave all else of the engines alone. -/
class Gate.Admits (R : Gate β ω → Gate β ω → Prop) : Prop
    extends Std.Refl R, IsTrans (Gate β ω) R where
  act (gate : Gate β ω) (number : Nat) {engine : Engine β} :
    (gate.engine number).Acts engine → R gate (gate.setEngine number engine)
  setAside (gate : Gate β ω) (memory : Memory) (program : ω) : R gate { gate with memory, program }

instance {R : Gate β ω → Gate β ω → Prop} [Gate.Permits R] : Gate.Admits R where
  act gate number _ acts := Gate.Permits.setEngine gate number acts.advances
  setAside := Gate.Permits.setAside

variable {R : Gate β ω → Gate β ω → Prop} [Gate.Admits R]

namespace Native

theorem atEngine_respects {p : Proc (Engine β) α} (respects : p.Respects Engine.Acts)
    (number : Nat) : (atEngine number p).Respects R :=
  Respects.zoom respects fun gate _ => Gate.Admits.act gate number

theorem engineNumber_respects : (engineNumber : Native β ω Nat).Respects R := by
  refine Respects.get.bind fun gate => ?_
  cases gate.context.current? with
  | some scope => exact .pure _
  | none => exact .throw _

theorem onEngine_respects {p : Proc (Engine β) α} (respects : p.Respects Engine.Acts) :
    (onEngine p).Respects R :=
  engineNumber_respects.bind fun _ => atEngine_respects respects _

theorem raiseFault_respects (fault : Fault) : (raiseFault fault : Native β ω α).Respects R := by
  refine Respects.get.bind fun gate => ?_
  cases gate.context.current? with
  | none => exact .throw _
  | some scope =>
      cases fault.counterpart with
      | existing exception => exact .throw _
      | fresh kind message =>
          exact (atEngine_respects (Engine.newException_respects _ _) _).bind fun _ => .throw _
      | missing => exact .throw _

theorem raising_respects {p : Native β ω α} (respects : p.Respects R) :
    (raising p).Respects R := by
  refine respects.catchFault.bind fun result => ?_
  cases result with
  | ok a => exact .pure _
  | error fault => exact raiseFault_respects fault

end Native

namespace Variadic

open Trailing

theorem atEngine_respects {p : Trailing (Engine β) α}
    (respects : p.Respects (OnState Engine.Acts)) (number : Nat) :
    (atEngine number p : Variadic β ω α).Respects (OnState R) :=
  zoomState_respects respects fun gate _ => Gate.Admits.act gate number

theorem onEngine_respects {p : Trailing (Engine β) α}
    (respects : p.Respects (OnState Engine.Acts)) :
    (onEngine p : Variadic β ω α).Respects (OnState R) :=
  (onState_respects Native.engineNumber_respects).bind fun _ => atEngine_respects respects _

theorem raising_respects {p : Variadic β ω α} (respects : p.Respects (OnState R)) :
    (raising p).Respects (OnState R) := by
  refine respects.catchFault.bind fun result => ?_
  cases result with
  | ok a => exact .pure _
  | error fault => exact onState_respects (Native.raiseFault_respects fault)

end Variadic

end NativeGate
