import Mathlib.Data.List.NodupEquivFin
import Mathlib.Logic.Relation
import NativeGate.Proofs.Host.Records
import NativeGate.Proofs.Host.Texts
import NativeGate.Proofs.Tags

namespace NativeGate

open Relation

theorem mapM_eq_none {α γ : Type} {f : α → Option γ} {items : List α} {item : α}
    (member : item ∈ items) (missing : f item = none) : items.mapM f = none := by
  induction items with
  | nil => cases member
  | cons first rest ih =>
      rw [List.mapM_cons]
      obtain rfl | later := List.mem_cons.mp member
      · rw [missing]
        rfl
      · rw [ih later]
        cases f first <;> rfl

theorem length_le_of_slots {α : Type} {items : List α} (distinct : items.Nodup) (slot : α → Nat)
    (differ : ∀ a ∈ items, ∀ b ∈ items, slot a = slot b → a = b) {bound : Nat}
    (inside : ∀ a ∈ items, slot a < bound) : items.length ≤ bound := by
  have slots : (items.map slot).Nodup :=
    distinct.map_on fun a first b second => differ a first b second
  have below : items.map slot ⊆ List.range bound := by
    intro n member
    obtain ⟨a, isIn, rfl⟩ := List.mem_map.mp member
    exact List.mem_range.mpr (inside a isIn)
  simpa using (List.subperm_of_subset slots below).length_le

namespace Host

variable {host : Host} {v w : Value}

/-- The value leads to one that contains itself. -/
def Loops (host : Host) (v : Value) : Prop :=
  ∃ w, ReflTransGen host.Contains v w ∧ TransGen host.Contains w w

theorem Loops.of_contained (contains : host.Contains v w) (loops : host.Loops w) :
    host.Loops v := by
  obtain ⟨u, reaches, circle⟩ := loops
  exact ⟨u, .head contains reaches, circle⟩

theorem Loops.next (loops : host.Loops v) : ∃ w, host.Contains v w ∧ host.Loops w := by
  obtain ⟨u, reaches, circle⟩ := loops
  obtain rfl | ⟨w, contains, rest⟩ := ReflTransGen.cases_head reaches
  · obtain ⟨w, contains, back⟩ := TransGen.head'_iff.mp circle
    exact ⟨w, contains, v, back, circle⟩
  · exact ⟨w, contains, u, rest, circle⟩

theorem length_le_size {path : List Value} (distinct : path.Nodup)
    (stored : ∀ u ∈ path, (host.objects.get? u).isSome) : path.length ≤ host.objects.size := by
  let slot (u : Value) : Nat := (u.handleIndex?.getD 0).toNat
  have indexed (u : Value) (member : u ∈ path) :
      ∃ index, u.handleIndex? = some index ∧ index.toNat < host.objects.size := by
    obtain ⟨object, found⟩ := Option.isSome_iff_exists.mp (stored u member)
    obtain ⟨index, indexed, -⟩ := Option.bind_eq_some_iff.mp found
    exact ⟨index, indexed, below_size found index indexed⟩
  refine length_le_of_slots distinct slot (fun u first u' second same => ?_) ?_
  · obtain ⟨index, indexOf, -⟩ := indexed u first
    obtain ⟨index', indexOf', -⟩ := indexed u' second
    simp only [slot, indexOf, indexOf', Option.getD_some, UInt64.toNat_inj] at same
    rw [← Value.handle_eq_of_handleIndex?_eq_some indexOf, same,
      Value.handle_eq_of_handleIndex?_eq_some indexOf']
  · intro u member
    obtain ⟨index, indexOf, less⟩ := indexed u member
    simpa [slot, indexOf] using less

/-- On the way down to a value no object is met twice, so there are never more above it than there
are objects. -/
theorem inspectWithin_isSome_of_path {path : List Value} {depth : Nat} (distinct : path.Nodup)
    (stored : ∀ u ∈ path, (host.objects.get? u).isSome)
    (above : ∀ u ∈ path, TransGen host.Contains u v)
    (deep : host.objects.size ≤ path.length + depth) (straight : ¬ host.Loops v) :
    (host.inspectWithin depth v).isSome := by
  induction depth generalizing v path with
  | zero =>
      cases found : host.objects.get? v with
      | none => exact inspectWithin_isSome_of_missing found 0
      | some object =>
          have new : v ∉ path := fun met => straight ⟨v, .refl, above v met⟩
          have few := length_le_size (List.nodup_cons.mpr ⟨new, distinct⟩)
            (List.forall_mem_cons.mpr ⟨Option.isSome_of_eq_some found, stored⟩)
          rw [List.length_cons] at few
          omega
  | succ depth ih =>
      rw [inspectWithin_succ]
      refine inspectLayer_isSome fun w contains => ?_
      have new : v ∉ path := fun met => straight ⟨v, .refl, above v met⟩
      have isStored : (host.objects.get? v).isSome := by
        obtain ⟨object, found, -⟩ := contains
        exact Option.isSome_of_eq_some found
      refine ih (List.nodup_cons.mpr ⟨new, distinct⟩)
        (List.forall_mem_cons.mpr ⟨isStored, stored⟩) ?_ ?_ ?_
      · exact List.forall_mem_cons.mpr
          ⟨.single contains, fun u member => (above u member).tail contains⟩
      · rw [List.length_cons]
        omega
      · exact mt (Loops.of_contained contains) straight

theorem inspect?_isSome_of_straight (straight : ¬ host.Loops v) : (host.inspect? v).isSome :=
  inspectWithin_isSome_of_path List.nodup_nil (fun _ => nofun) (fun _ => nofun)
    (Nat.le_add_left _ _) straight

theorem inspectLeaf?_of_stored {object : Object} (found : host.objects.get? v = some object) :
    host.inspectLeaf? v = none := by
  obtain ⟨position, bits, -⟩ := ObjectTable.get?_eq_some_iff.mp found
  have other (u : Value) (low : u.bits.toNat < 64) : v ≠ u := by
    rintro rfl
    omega
  have notFixnum : v.asFixnum? = none := by
    rw [Value.asFixnum?, if_neg]
    rw [Value.isFixnum_iff, bits]
    omega
  have noSymbol : host.symbolId? v = none := by
    simp [symbolId?, Value.symbolId?, ObjectTable.isSymbol_of_get? found]
  rw [inspectLeaf?, if_neg (other _ (by decide)), if_neg (other _ (by decide)),
    if_neg (other _ (by decide)), if_neg (other _ (by decide)), notFixnum, noSymbol]

theorem exists_mem_zip_memberNames (sound : host.Sound) {definition : Value}
    {fields : List Value} (found : host.objects.get? v = some (.record definition fields))
    (member : w ∈ fields) : ∃ name, (name, w) ∈ (host.memberNames definition).zip fields := by
  obtain ⟨c, isClass, -, length⟩ := sound v _ found
  have names : (host.memberNames definition).length = fields.length := by
    simp [memberNames, isClass, length]
  obtain ⟨index, inside, rfl⟩ := List.getElem_of_mem member
  have both : index < ((host.memberNames definition).zip fields).length := by
    rw [List.length_zip]
    omega
  exact ⟨_, List.mem_of_getElem (h := both) List.getElem_zip⟩

theorem inspectLayer_eq_none (sound : host.Sound) (contains : host.Contains v w)
    {inner : Value → Option Bytes} (missing : inner w = none) :
    host.inspectLayer inner v = none := by
  obtain ⟨object, found, member⟩ := contains
  rw [inspectLayer, inspectLeaf?_of_stored found, found]
  cases object with
  | array elements =>
      have none : elements.mapM inner = none := mapM_eq_none member missing
      simp [none]
  | record definition fields =>
      obtain ⟨name, zipped⟩ := exists_mem_zip_memberNames sound found member
      dsimp only
      rw [mapM_eq_none zipped (by simp [missing])]
      rfl
  | _ => cases member

theorem inspectWithin_eq_none (sound : host.Sound) (loops : host.Loops v) (depth : Nat) :
    host.inspectWithin depth v = none := by
  induction depth generalizing v with
  | zero =>
      obtain ⟨w, ⟨object, found, member⟩, -⟩ := loops.next
      rw [inspectWithin, inspectLeaf?_of_stored found, found]
      cases object with
      | array | record => rfl
      | _ => cases member
  | succ depth ih =>
      obtain ⟨w, contains, inner⟩ := loops.next
      rw [inspectWithin_succ]
      exact inspectLayer_eq_none sound contains (ih inner)

theorem inspect?_eq_none_iff (sound : host.Sound) : host.inspect? v = none ↔ host.Loops v := by
  constructor
  · intro missing
    by_contra straight
    exact absurd (inspect?_isSome_of_straight straight) (by simp [missing])
  · intro loops
    exact inspectWithin_eq_none sound loops _

end Host

end NativeGate
