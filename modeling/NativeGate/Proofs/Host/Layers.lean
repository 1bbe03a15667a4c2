import NativeGate.Proofs.Host.Objects

namespace NativeGate

/-! Objects contain older ones only, as long as every handle passed was handed out before. -/

/-- The word refers to none of the slots from `bound` on. -/
def Value.Below (bound : Nat) (w : Value) : Prop :=
  ∀ index, w.handleIndex? = some index → index.toNat < bound

instance (bound : Nat) (w : Value) : Decidable (w.Below bound) :=
  decidable_of_iff (w.handleIndex?.all (·.toNat < bound) = true)
    (by simp [Value.Below, Option.all_eq_true])

/-- The words whose texts an object's own text is made of. -/
def Object.contents : Object → List Value
  | .array elements => elements
  | .record _ fields => fields
  | .string _ | .classDef _ | .exception _ _ => []

namespace ObjectTable

def Layered (table : ObjectTable) : Prop :=
  ∀ (slot : Nat) (object : Object), table.slots[slot]? = some object →
    ∀ w ∈ object.contents, w.Below slot

variable {table : ObjectTable} (layered : table.Layered)

include layered

theorem Layered.add {added : Object} (below : ∀ w ∈ added.contents, w.Below table.size) :
    (table.add added).2.Layered := by
  intro slot object stored
  rw [ObjectTable.add, Array.getElem?_push] at stored
  split at stored
  next last =>
    cases stored
    rw [last]
    exact below
  next => exact layered slot object stored

theorem Layered.modify (v : Value) {change : Object → Object}
    (kept : ∀ object, (change object).contents = object.contents) :
    (table.modify v change).Layered := by
  unfold ObjectTable.modify
  split
  · intro slot object stored
    rw [Array.getElem?_modify] at stored
    split at stored
    · obtain ⟨before, found, rfl⟩ := Option.map_eq_some_iff.mp stored
      rw [kept]
      exact layered slot before found
    · exact layered slot object stored
  · exact layered

theorem Layered.modifyString (v : Value) (change : ManagedString → ManagedString) :
    (table.modifyString v change).Layered :=
  layered.modify v fun object => by cases object <;> rfl

theorem Layered.modifyClass (v : Value) (change : ClassDef → ClassDef) :
    (table.modifyClass v change).Layered :=
  layered.modify v fun object => by cases object <;> rfl

end ObjectTable

/-! Effects store words that have been passed, and only into new objects. -/

def Effect.stored : Effect → List Value
  | .create object => object.contents
  | _ => []

namespace Host

open Planned

def Issued (host : Host) (w : Value) : Prop :=
  w.Below host.objects.size

instance (host : Host) (w : Value) : Decidable (host.Issued w) :=
  inferInstanceAs (Decidable (w.Below host.objects.size))

/-- The operations that make something that contains what they are passed. -/
def storingOperations : List Operation :=
  [.arrayNew, .structNew]

theorem defineStruct_stored {host : Host} {scope members : Value} {name : Option Bytes}
    {effect : Effect} (planned : host.defineStruct scope name members = .ok effect) :
    effect.stored = [] := by
  simp only [defineStruct, bind_eq_ok] at planned
  obtain ⟨ids, -, planned⟩ := planned
  split at planned
  · cases planned
    rfl
  · split at planned
    · cases planned
      rfl
    · cases planned

theorem plan_stored {host : Host} {op : Operation} {args : List Value} {effect : Effect}
    (planned : host.plan op args = .ok effect) :
    effect.stored = [] ∨ op ∈ storingOperations ∧ effect.stored ⊆ args := by
  cases op <;> simp only [plan, bind_eq_ok, pure_eq_ok, symbolArgument_eq_ok] at planned
  case arrayNew =>
      subst planned
      exact .inr ⟨.head _, List.Subset.refl _⟩
  case structNew =>
      obtain ⟨definition, -, members, -, planned⟩ := planned
      split at planned
      · cases planned
        exact .inr ⟨.tail _ (.head _), List.drop_subset 1 args⟩
      · cases planned
  all_goals refine .inl ?_
  case symToString | idToString =>
      obtain ⟨id, -, rfl⟩ := planned
      unfold nameString
      split <;> rfl
  case structDefine =>
      obtain ⟨name, -, members, -, planned⟩ := planned
      split at planned
      · exact defineStruct_stored planned
      · obtain ⟨s, -, planned⟩ := bind_eq_ok.mp planned
        exact defineStruct_stored planned
  case structDefineUnder =>
      obtain ⟨scope, -, name, -, members, -, planned⟩ := planned
      split at planned
      · exact defineStruct_stored planned
      · cases planned
  case dataDefine =>
      obtain ⟨superclass, -, members, -, planned⟩ := planned
      simp only [defineData, bind_eq_ok, pure_eq_ok] at planned
      obtain ⟨inherited, -, own, -, all, -, rfl⟩ := planned
      rfl
  -- All other operations show their effect.
  all_goals
    grind [Effect.stored, Object.contents, pure_eq_ok, typeError_ne_ok, argumentError_ne_ok,
      complainOf_ne_ok]

section Layered

variable {host : Host} (layered : host.objects.Layered)

include layered

theorem defineClassDef_layered (definition : ClassDef) (binding : Option (Value × Bytes)) :
    (host.defineClassDef definition binding).2.objects.Layered := by
  have added : (host.objects.add (.classDef definition)).2.Layered := layered.add nofun
  cases binding with
  | none => exact added
  | some binding => exact added.modifyClass _ _

theorem carryOut_layered {effect : Effect} (issued : ∀ w ∈ effect.stored, host.Issued w) :
    (host.carryOut effect).2.objects.Layered := by
  cases effect with
  | create object => exact layered.add issued
  | nameString id => exact layered.add nofun
  | freeze string => exact layered.modifyString string _
  | classify string => exact layered.modifyString string _
  | define definition binding => exact defineClassDef_layered layered definition binding
  | _ => exact layered

theorem newException_layered (kind : ErrorKind) (message : Bytes) :
    (host.newException kind message).2.objects.Layered := by
  unfold newException
  split
  · exact layered
  · exact layered.add nofun

theorem complain_layered {α : Type} (complaint : Complaint) :
    (host.complain (α := α) complaint).2.objects.Layered := by
  cases complaint with
  | raise kind message => exact newException_layered layered kind message
  | outOfMemory => exact layered
  | endless => exact layered

theorem readString_layered (string : Value) :
    (host.readString string).2.objects.Layered := by
  unfold readString
  split
  · exact layered
  · exact complain_layered layered _

theorem append_layered (string : Value) (more : Bytes) :
    (host.append string more).2.objects.Layered := by
  unfold append
  split
  · split
    · exact layered
    · exact layered.modifyString string _
  · exact layered

theorem perform_layered {op : Operation} {args : List Value}
    (issued : op ∈ storingOperations → ∀ w ∈ args, host.Issued w) :
    (host.perform op args).2.objects.Layered := by
  unfold perform
  cases planned : host.plan op args with
  | error complaint => exact complain_layered layered complaint
  | ok effect =>
      refine carryOut_layered layered fun w member => ?_
      obtain none | ⟨storing, subset⟩ := plan_stored planned
      · rw [none] at member
        cases member
      · exact issued storing w (subset member)

theorem invoke_layered {name : String} {args : List Value}
    (issued : ∀ w ∈ args, host.Issued w) : (host.invoke name args).2.objects.Layered := by
  have noted : (host.note name).objects.Layered := layered
  unfold invoke
  cases Operation.ofName? name with
  | none => exact complain_layered noted _
  | some op => exact perform_layered noted fun _ => issued

theorem invokePredicate_layered {name : String} {args : List Value}
    (issued : ∀ w ∈ args, host.Issued w) :
    (host.invokePredicate name args).2.objects.Layered := by
  have noted : (host.note name).objects.Layered := layered
  unfold invokePredicate
  cases Operation.ofName? name with
  | none => exact complain_layered noted _
  | some op =>
      cases op with
      | ask query =>
          dsimp only
          cases (host.note name).answer query args with
          | ok answer => exact layered
          | error complaint => exact complain_layered noted complaint
      | _ => exact perform_layered noted fun _ => issued

end Layered

def Action.words : Action → List Value
  | .invoke _ args | .invokePredicate _ args => args
  | .readString string | .append string _ => [string]
  | .defineClass _ superclass => superclass.toList
  | .setVerbose v => [v]
  | .yield _ | .newString _ _ | .newException _ _ | .setCategory _ _ | .clearLog => []

theorem act_layered {host : Host} (layered : host.objects.Layered) {action : Action}
    (issued : ∀ w ∈ action.words, host.Issued w) : (host.act action).objects.Layered := by
  cases action with
  | invoke name args => exact invoke_layered layered issued
  | invokePredicate name args => exact invokePredicate_layered layered issued
  | yield found =>
      cases found with
      | true => exact layered
      | false =>
          have noted : (host.note yieldName).objects.Layered := layered
          exact newException_layered noted _ _
  | newString bytes encoding => exact layered.add nofun
  | newException kind message => exact newException_layered layered kind message
  | readString string => exact readString_layered layered string
  | append string more => exact append_layered layered string more
  | defineClass name superclass => exact defineClassDef_layered layered _ _
  | setVerbose v => exact layered
  | setCategory category on => exact layered
  | clearLog => exact layered

/-- A run in which every handle that is passed has been handed out by then. -/
inductive Orderly : Host → List Action → Prop
  | nil (host : Host) : Orderly host []
  | cons {host : Host} {action : Action} {rest : List Action}
      (issued : ∀ w ∈ action.words, host.Issued w) (orderly : (host.act action).Orderly rest) :
      Orderly host (action :: rest)

theorem Orderly.layered {host : Host} {actions : List Action} (orderly : host.Orderly actions)
    (layered : host.objects.Layered) : (host.actAll actions).objects.Layered := by
  induction orderly with
  | nil host => exact layered
  | cons issued _ ih => exact ih (act_layered layered issued)

theorem new_layered : new.objects.Layered := by
  intro slot object stored
  obtain ⟨b, rfl⟩ | rfl := new_slots_cases (Array.mem_of_getElem? stored) <;> exact nofun

end Host

end NativeGate
