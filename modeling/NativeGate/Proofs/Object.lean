import NativeGate.Object
import NativeGate.Proofs.Value

namespace NativeGate

theorem Coderange.scan_ne_unknown (bytes : Bytes) (encoding : Encoding) :
    scan bytes encoding ≠ .unknown := by
  unfold scan
  cases NonAscii.search bytes with
  | none => simp
  | some position =>
      cases encoding with
      | utf8 =>
          dsimp only
          split <;> simp
      | _ => simp

theorem ManagedString.classified_of_known {s : ManagedString} (known : s.coderange ≠ .unknown) :
    s.classified = s := by
  simp [classified, known]

theorem ManagedString.ofName_eq (name : Bytes) (encoding : Encoding) :
    ofName name encoding =
      { bytes := name, encoding, coderange := Coderange.scan name encoding, frozen := true } := rfl

/-- What an object may turn into when `added` is all that has been appended to it. -/
inductive Object.Becomes (added : Bytes) : Object → Object → Prop
  | string {before after : ManagedString} (bytes : after.bytes = before.bytes ++ added)
      (encoding : after.encoding = before.encoding)
      (frozen : before.frozen = true → after.frozen = true)
      (settled : before.frozen = true → before.coderange ≠ .unknown → after = before) :
      Becomes added (.string before) (.string after)
  | array (elements : List Value) : Becomes added (.array elements) (.array elements)
  /-- Only the constants of a class change. -/
  | classDef {before after : ClassDef} (name : after.name = before.name)
      (superclass : after.superclass = before.superclass) (kind : after.kind = before.kind)
      (members : after.members = before.members) :
      Becomes added (.classDef before) (.classDef after)
  | record (definition : Value) (fields : List Value) :
      Becomes added (.record definition fields) (.record definition fields)
  | exception (definition : Value) (message : Bytes) :
      Becomes added (.exception definition message) (.exception definition message)

theorem Object.Becomes.of_not_string {object : Object} (notString : ∀ s, object ≠ .string s)
    {added : Bytes} : object.Becomes added object := by
  cases object with
  | string s => exact absurd rfl (notString s)
  | array elements => exact .array elements
  | classDef c => exact .classDef rfl rfl rfl rfl
  | record definition fields => exact .record definition fields
  | exception definition message => exact .exception definition message

theorem Object.Becomes.refl (object : Object) : object.Becomes [] object := by
  cases object with
  | string s => exact .string (by simp) rfl id fun _ _ => rfl
  | _ => exact .of_not_string (by simp)

theorem Object.Becomes.trans {first second third : Object} {added more : Bytes}
    (left : first.Becomes added second) (right : second.Becomes more third) :
    first.Becomes (added ++ more) third := by
  cases left with
  | string bytes encoding frozen settled =>
      cases right with
      | string bytes' encoding' frozen' settled' =>
          refine .string (by rw [bytes', bytes, List.append_assoc]) (encoding'.trans encoding)
            (frozen' ∘ frozen) ?_
          intro wasFrozen known
          have same := settled wasFrozen known
          subst same
          exact settled' wasFrozen known
  | array elements =>
      cases right with
      | array => exact .array elements
  | classDef name superclass kind members =>
      cases right with
      | classDef name' superclass' kind' members' =>
          exact .classDef (name'.trans name) (superclass'.trans superclass) (kind'.trans kind)
            (members'.trans members)
  | record definition fields =>
      cases right with
      | record => exact .record definition fields
  | exception definition message =>
      cases right with
      | exception => exact .exception definition message

theorem exists_getElem?_push_iff {α : Type} (slots : Array α) (added a : α) (P : Nat → Prop) :
    (∃ position, P position ∧ (slots.push added)[position]? = some a) ↔
      (∃ position, P position ∧ slots[position]? = some a) ∨ P slots.size ∧ added = a := by
  simp only [Array.getElem?_push]
  constructor
  · rintro ⟨position, holds, stored⟩
    split at stored
    next last => exact .inr ⟨last ▸ holds, Option.some.inj stored⟩
    next => exact .inl ⟨position, holds, stored⟩
  · rintro (⟨position, holds, stored⟩ | ⟨holds, rfl⟩)
    · have inside := (Array.getElem?_eq_some_iff.mp stored).1
      exact ⟨position, holds, by simp [Nat.ne_of_lt inside, stored]⟩
    · exact ⟨slots.size, holds, by simp⟩

namespace ObjectTable

/-- Handles are told apart up to this number of objects, which is more than fit into memory. -/
def capacity : Nat := 2 ^ 61 - 8

theorem get?_eq_some_iff {table : ObjectTable} {v : Value} {object : Object} :
    table.get? v = some object ↔
      ∃ position, v.bits.toNat = (position + 8) * 8 ∧ table.slots[position]? = some object := by
  simp only [get?, Option.bind_eq_some_iff, Value.handleIndex?_eq_some_iff]
  constructor
  · rintro ⟨index, eq, stored⟩
    exact ⟨index.toNat, eq, stored⟩
  · rintro ⟨position, eq, stored⟩
    have bits_lt := v.bits.toNat_lt
    have exact : (UInt64.ofNat position).toNat = position :=
      UInt64.toNat_ofNat_of_lt' (by change position < 2 ^ 64; omega)
    exact ⟨UInt64.ofNat position, by rw [exact]; exact eq, by rw [exact]; exact stored⟩

theorem isSymbol_of_get? {table : ObjectTable} {v : Value} {object : Object}
    (found : table.get? v = some object) : v.isSymbol = false := by
  obtain ⟨position, bits, -⟩ := get?_eq_some_iff.mp found
  rw [← Bool.not_eq_true, Value.isSymbol_iff]
  omega

theorem get?_add (table : ObjectTable) (added : Object) (v : Value) (object : Object) :
    (table.add added).2.get? v = some object ↔
      table.get? v = some object ∨ v.bits.toNat = (table.size + 8) * 8 ∧ added = object := by
  simp only [get?_eq_some_iff]
  exact exists_getElem?_push_iff ..

theorem get?_handle {table : ObjectTable} {index : Nat} (inside : index < table.size)
    (small : index < capacity) :
    ∃ object, table.get? (.handle (UInt64.ofNat index)) = some object := by
  have inside : index < table.slots.size := inside
  exact ⟨table.slots[index], get?_eq_some_iff.mpr
    ⟨index, Value.toNat_bits_handle small, Array.getElem?_eq_getElem inside⟩⟩

theorem get?_add_self {table : ObjectTable} (room : table.size < capacity) (added : Object) :
    (table.add added).2.get? (table.add added).1 = some added :=
  (get?_add ..).mpr (.inr ⟨Value.toNat_bits_handle room, rfl⟩)

theorem get?_add_fresh {table : ObjectTable} (room : table.size < capacity) (added : Object) :
    table.get? (table.add added).1 = none := by
  rw [Option.eq_none_iff_forall_ne_some]
  intro object found
  obtain ⟨position, eq, stored⟩ := get?_eq_some_iff.mp found
  have inside := (Array.getElem?_eq_some_iff.mp stored).1
  have bits : (table.add added).1.bits.toNat = (table.size + 8) * 8 :=
    Value.toNat_bits_handle room
  rw [size] at bits
  omega

theorem get?_modify (table : ObjectTable) (v w : Value) (change : Object → Object) :
    (table.modify v change).get? w =
      if w = v then (table.get? w).map change else table.get? w := by
  unfold modify get?
  cases indexed : v.handleIndex? with
  | none =>
      by_cases same : w = v
      · subst w
        simp [indexed]
      · simp [same]
  | some i =>
      by_cases same : w = v
      · subst w
        simp [indexed, Array.getElem?_modify]
      · cases other : w.handleIndex? with
        | none => simp [same]
        | some j =>
            have distinct : i.toNat ≠ j.toNat := by
              intro eq
              rw [Value.handleIndex?_eq_some_iff] at indexed other
              have bits : w.bits = v.bits :=
                UInt64.toNat_inj.mp (by rw [indexed, other, eq])
              exact same (congrArg Value.mk bits)
            simp [same, Array.getElem?_modify, distinct]

theorem get?_modify_cases {table : ObjectTable} {v w : Value} {change : Object → Object}
    {object' : Object} (found : (table.modify v change).get? w = some object') :
    ∃ object, table.get? w = some object ∧ (object' = object ∨ object' = change object) := by
  rw [get?_modify] at found
  split at found
  · obtain ⟨object, stored, rfl⟩ := Option.map_eq_some_iff.mp found
    exact ⟨object, stored, .inr rfl⟩
  · exact ⟨object', found, .inl rfl⟩

theorem slots_modify {table : ObjectTable} {v : Value} {position : Nat}
    (bits : v.bits.toNat = (position + 8) * 8) (change : Object → Object) :
    (table.modify v change).slots = table.slots.modify position change := by
  have bits_lt := v.bits.toNat_lt
  have exact : (UInt64.ofNat position).toNat = position :=
    UInt64.toNat_ofNat_of_lt' (by change position < 2 ^ 64; omega)
  have indexed : v.handleIndex? = some (UInt64.ofNat position) :=
    Value.handleIndex?_eq_some_iff.mpr (by rw [exact]; exact bits)
  simp [modify, indexed, exact]

theorem string?_eq_some_iff {table : ObjectTable} {v : Value} {s : ManagedString} :
    table.string? v = some s ↔ table.get? v = some (.string s) := by
  unfold string?
  split <;> simp_all

theorem classDef?_eq_some_iff {table : ObjectTable} {v : Value} {c : ClassDef} :
    table.classDef? v = some c ↔ table.get? v = some (.classDef c) := by
  unfold classDef?
  split <;> simp_all

theorem string?_modifyString {table : ObjectTable} {v : Value} {s : ManagedString}
    (found : table.string? v = some s) (change : ManagedString → ManagedString) :
    (table.modifyString v change).string? v = some (change s) := by
  rw [string?_eq_some_iff] at found ⊢
  simp [modifyString, get?_modify, found]

@[simp] theorem size_add (table : ObjectTable) (added : Object) :
    (table.add added).2.size = table.size + 1 := by
  simp [add, size]

@[simp] theorem size_modify (table : ObjectTable) (v : Value) (change : Object → Object) :
    (table.modify v change).size = table.size := by
  unfold modify
  split <;> simp [size]

/-- Every object is still there, and nothing was appended to any string. -/
structure Extends (before after : ObjectTable) : Prop where
  size_le : before.size ≤ after.size
  object : ∀ v object, before.get? v = some object →
    ∃ object', after.get? v = some object' ∧ object.Becomes [] object'

theorem Extends.refl (table : ObjectTable) : table.Extends table where
  size_le := Nat.le_refl _
  object := fun _ object found => ⟨object, found, .refl object⟩

theorem Extends.trans {first second third : ObjectTable}
    (left : first.Extends second) (right : second.Extends third) : first.Extends third where
  size_le := Nat.le_trans left.size_le right.size_le
  object := by
    intro v object found
    obtain ⟨middle, foundMiddle, turned⟩ := left.object v object found
    obtain ⟨last, foundLast, turned'⟩ := right.object v middle foundMiddle
    exact ⟨last, foundLast, turned.trans turned'⟩

theorem extends_add (table : ObjectTable) (added : Object) :
    table.Extends (table.add added).2 where
  size_le := by simp
  object := fun v object found =>
    ⟨object, (get?_add ..).mpr (.inl found), .refl object⟩

theorem extends_modify (table : ObjectTable) (v : Value) {change : Object → Object}
    (harmless : ∀ object : Object, object.Becomes [] (change object)) :
    table.Extends (table.modify v change) where
  size_le := by simp
  object := by
    intro w object found
    rw [get?_modify]
    by_cases same : w = v
    · exact ⟨change object, by rw [if_pos same, found]; rfl, harmless object⟩
    · exact ⟨object, by rw [if_neg same, found], .refl object⟩

theorem extends_modifyString (table : ObjectTable) (v : Value)
    {change : ManagedString → ManagedString}
    (harmless : ∀ s, Object.Becomes [] (.string s) (.string (change s))) :
    table.Extends (table.modifyString v change) := by
  apply extends_modify
  intro object
  cases object with
  | string s => exact harmless s
  | _ => exact .refl _

theorem extends_freeze (table : ObjectTable) (v : Value) :
    table.Extends (table.modifyString v fun s => { s with frozen := true }) := by
  apply extends_modifyString
  intro s
  refine .string (by simp) rfl (fun _ => rfl) ?_
  intro frozen _
  simp [← frozen]

theorem extends_classify (table : ObjectTable) (v : Value) :
    table.Extends (table.modifyString v ManagedString.classified) := by
  apply extends_modifyString
  intro s
  have kept : s.classified = { s with coderange := s.classified.coderange } := by
    unfold ManagedString.classified
    split <;> rfl
  rw [kept]
  refine .string (by simp) rfl id ?_
  intro _ known
  rw [ManagedString.classified_of_known known]

theorem extends_bind (table : ObjectTable) (scope : Value) (name : Bytes) (value : Value) :
    table.Extends (table.modifyClass scope (·.bind name value)) := by
  apply extends_modify
  intro object
  cases object with
  | classDef c => exact .classDef rfl rfl rfl rfl
  | _ => exact .refl _

end ObjectTable

end NativeGate
