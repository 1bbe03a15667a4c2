import NativeGate.Proofs.NonAscii
import NativeGate.Proofs.Object
import NativeGate.Symbol.Table

namespace NativeGate.SymbolTable

open NativeGate

/-! The two halves of a symbol table, its entries and its index, say the same. -/

theorem normalize_eq (name : Bytes) (encoding : Encoding) :
    normalize name encoding = if name.IsAscii then .usAscii else encoding := by
  have found := NonAscii.search_eq_none_iff name
  by_cases ascii : name.IsAscii
  · simp [normalize, Encoding.isAsciiCompatible, ascii, found.mpr ascii]
  · have : NonAscii.search name ≠ none := fun missing => ascii (found.mp missing)
    simp [normalize, Encoding.isAsciiCompatible, ascii, this]

theorem normalize_eq_iff (name : Bytes) (first second : Encoding) :
    normalize name first = normalize name second ↔ name.IsAscii ∨ first = second := by
  rw [normalize_eq, normalize_eq]
  by_cases ascii : name.IsAscii <;> simp [ascii]

theorem entry?_eq_some_iff {table : SymbolTable} {id : Id} {entry : SymbolEntry} :
    table.entry? id = some entry ↔
      ∃ position, id.toNat = position + 1 ∧ table.entries[position]? = some entry := by
  unfold entry?
  split
  next zero =>
    subst id
    simp
  next nonzero =>
    have positive : id.toNat ≠ 0 := fun zero => nonzero (UInt64.toNat_inj.mp zero)
    constructor
    · intro stored
      exact ⟨id.toNat - 1, by omega, stored⟩
    · rintro ⟨position, eq, stored⟩
      simpa [eq] using stored

/-- IDs in use are those from one up to the number of symbols. -/
theorem entry?_isSome_iff (table : SymbolTable) (id : Id) :
    (table.entry? id).isSome ↔ 1 ≤ id.toNat ∧ id.toNat ≤ table.size := by
  rw [Option.isSome_iff_exists]
  constructor
  · rintro ⟨entry, found⟩
    obtain ⟨position, eq, stored⟩ := entry?_eq_some_iff.mp found
    have inside := (Array.getElem?_eq_some_iff.mp stored).1
    unfold size
    omega
  · rintro ⟨positive, inside⟩
    have bound : id.toNat - 1 < table.entries.size := by
      unfold size at inside
      omega
    exact ⟨table.entries[id.toNat - 1],
      entry?_eq_some_iff.mpr ⟨id.toNat - 1, by omega, Array.getElem?_eq_getElem bound⟩⟩

theorem entry?_push {table : SymbolTable} {id : Id} {entry added : SymbolEntry}
    {index : List ((Bytes × Encoding) × Id)} :
    entry? { entries := table.entries.push added, index } id = some entry ↔
      table.entry? id = some entry ∨ id.toNat = table.size + 1 ∧ added = entry := by
  simp only [entry?_eq_some_iff]
  exact exists_getElem?_push_iff ..

theorem entry?_setText (table : SymbolTable) (id other : Id) (text : Value) :
    entry? (table.setText id text) other =
      if other = id then (table.entry? id).map ({ · with text := some text })
      else table.entry? other := by
  unfold setText entry?
  by_cases zero : id = 0
  · subst id
    by_cases same : other = 0 <;> simp [same]
  · by_cases same : other = id
    · subst other
      simp [zero, Array.getElem?_modify]
    · by_cases otherZero : other = 0
      · simp [otherZero, Ne.symm zero]
      · have distinct : id.toNat - 1 ≠ other.toNat - 1 := by
          have left : id.toNat ≠ 0 := fun h => zero (UInt64.toNat_inj.mp h)
          have right : other.toNat ≠ 0 := fun h => otherZero (UInt64.toNat_inj.mp h)
          have : other.toNat ≠ id.toNat := fun h => same (UInt64.toNat_inj.mp h)
          omega
        simp [zero, same, otherZero, Array.getElem?_modify, distinct]

/-- Every entry is still there, with its name, its encoding and the string of its name. -/
structure Extends (before after : SymbolTable) : Prop where
  size_le : before.size ≤ after.size
  entry : ∀ id entry, before.entry? id = some entry →
    ∃ entry', after.entry? id = some entry' ∧ entry'.name = entry.name ∧
      entry'.encoding = entry.encoding ∧
        ∀ text, entry.text = some text → entry'.text = some text

theorem Extends.refl (table : SymbolTable) : table.Extends table where
  size_le := Nat.le_refl _
  entry := fun _ entry found => ⟨entry, found, rfl, rfl, fun _ kept => kept⟩

theorem Extends.trans {first second third : SymbolTable}
    (left : first.Extends second) (right : second.Extends third) : first.Extends third where
  size_le := Nat.le_trans left.size_le right.size_le
  entry := by
    intro id entry found
    obtain ⟨middle, foundMiddle, name, encoding, text⟩ := left.entry id entry found
    obtain ⟨last, foundLast, name', encoding', text'⟩ := right.entry id middle foundMiddle
    exact ⟨last, foundLast, name'.trans name, encoding'.trans encoding,
      fun v kept => text' v (text v kept)⟩

theorem extends_push (table : SymbolTable) (added : SymbolEntry)
    (index : List ((Bytes × Encoding) × Id)) :
    table.Extends { entries := table.entries.push added, index } where
  size_le := by simp [size]
  entry := fun _ entry found =>
    ⟨entry, entry?_push.mpr (.inl found), rfl, rfl, fun _ kept => kept⟩

theorem extends_intern (table : SymbolTable) (name : Bytes) (encoding : Encoding) :
    table.Extends (table.intern name encoding).2 := by
  unfold intern
  split
  · exact .refl table
  · exact extends_push table _ _

theorem size_intern_le (table : SymbolTable) (name : Bytes) (encoding : Encoding) :
    (table.intern name encoding).2.size ≤ table.size + 1 := by
  unfold intern
  split
  · exact Nat.le_succ _
  · simp [size]

theorem lt_size_intern_iff {table : SymbolTable} {name : Bytes} {encoding : Encoding} :
    table.size < (table.intern name encoding).2.size ↔ table.lookup? name encoding = none := by
  unfold intern
  split
  next known => simp [known]
  next missing => simp [missing, size]

theorem intern_congr (table : SymbolTable) {name : Bytes} {first second : Encoding}
    (same : normalize name first = normalize name second) :
    table.intern name first = table.intern name second := by
  unfold intern lookup?
  rw [same]

theorem extends_setText {table : SymbolTable} {id : Id} (text : Value)
    (fresh : ∀ entry, table.entry? id = some entry → entry.text = none) :
    table.Extends (table.setText id text) where
  size_le := by
    unfold setText
    split <;> simp [size]
  entry := by
    intro other entry found
    rw [entry?_setText]
    by_cases same : other = id
    · subst other
      exact ⟨{ entry with text := some text }, by simp [found], rfl, rfl,
        by simp [fresh entry found]⟩
    · exact ⟨entry, by simp [same, found], rfl, rfl, fun _ kept => kept⟩

structure Coherent (table : SymbolTable) : Prop where
  /-- The index maps a name and its encoding to the ID of their entry, and to no other. -/
  lookup_iff : ∀ name encoding id,
    table.index.lookup (name, encoding) = some id ↔
      ∃ entry, table.entry? id = some entry ∧ entry.name = name ∧ entry.encoding = encoding
  ascii : ∀ id entry, table.entry? id = some entry → entry.name.IsAscii →
    entry.encoding = .usAscii

theorem coherent_empty : Coherent {} where
  lookup_iff := by
    intro name encoding id
    simp [entry?_eq_some_iff]
  ascii := by
    intro id entry found
    simp [entry?_eq_some_iff] at found

theorem Coherent.unique {table : SymbolTable} (coherent : table.Coherent) {first second : Id}
    {left right : SymbolEntry} (foundLeft : table.entry? first = some left)
    (foundRight : table.entry? second = some right)
    (name : left.name = right.name) (encoding : left.encoding = right.encoding) :
    first = second := by
  have lookupLeft := (coherent.lookup_iff right.name right.encoding first).mpr
    ⟨left, foundLeft, name, encoding⟩
  have lookupRight := (coherent.lookup_iff right.name right.encoding second).mpr
    ⟨right, foundRight, rfl, rfl⟩
  exact Option.some.inj (lookupLeft.symm.trans lookupRight)

theorem Coherent.indexed_iff {table : SymbolTable} (coherent : table.Coherent) (id : Id) :
    (∃ key, table.index.lookup key = some id) ↔ 1 ≤ id.toNat ∧ id.toNat ≤ table.size := by
  rw [← entry?_isSome_iff, Option.isSome_iff_exists]
  constructor
  · rintro ⟨⟨name, encoding⟩, indexed⟩
    obtain ⟨entry, found, _⟩ := (coherent.lookup_iff name encoding id).mp indexed
    exact ⟨entry, found⟩
  · rintro ⟨entry, found⟩
    exact ⟨(entry.name, entry.encoding),
      (coherent.lookup_iff _ _ _).mpr ⟨entry, found, rfl, rfl⟩⟩

theorem Coherent.setText {table : SymbolTable} (coherent : table.Coherent) (id : Id)
    (text : Value) : (table.setText id text).Coherent := by
  have kept (other : Id) (entry' : SymbolEntry)
      (found : entry? (table.setText id text) other = some entry') :
      ∃ entry, table.entry? other = some entry ∧ entry'.name = entry.name ∧
        entry'.encoding = entry.encoding := by
    rw [entry?_setText] at found
    split at found
    next same =>
      subst other
      obtain ⟨entry, stored, rfl⟩ := Option.map_eq_some_iff.mp found
      exact ⟨entry, stored, rfl, rfl⟩
    next =>
      exact ⟨entry', found, rfl, rfl⟩
  have index : (table.setText id text).index = table.index := by
    unfold SymbolTable.setText
    split <;> rfl
  constructor
  · intro name encoding other
    rw [index, coherent.lookup_iff]
    constructor
    · rintro ⟨entry, found, rfl, rfl⟩
      rw [entry?_setText]
      by_cases same : other = id
      · subst other
        exact ⟨{ entry with text := some text }, by simp [found], rfl, rfl⟩
      · exact ⟨entry, by simp [same, found], rfl, rfl⟩
    · rintro ⟨entry', found, rfl, rfl⟩
      obtain ⟨entry, stored, name, encoding⟩ := kept other entry' found
      exact ⟨entry, stored, name.symm, encoding.symm⟩
  · intro other entry' found ascii
    obtain ⟨entry, stored, name, encoding⟩ := kept other entry' found
    rw [encoding]
    exact coherent.ascii other entry stored (name ▸ ascii)

theorem Coherent.push {table : SymbolTable} (coherent : table.Coherent)
    {name : Bytes} {encoding : Encoding} (missing : table.lookup? name encoding = none)
    (room : table.size + 1 < 2 ^ 64) :
    Coherent {
      entries := table.entries.push { name, encoding := normalize name encoding }
      index := ((name, normalize name encoding), UInt64.ofNat (table.entries.size + 1)) ::
        table.index } := by
  have number : (UInt64.ofNat (table.entries.size + 1)).toNat = table.size + 1 :=
    UInt64.toNat_ofNat_of_lt' room
  constructor
  · intro other otherEncoding id
    simp only [entry?_push]
    by_cases same : other = name ∧ otherEncoding = normalize name encoding
    · obtain ⟨rfl, rfl⟩ := same
      rw [List.lookup_cons_self, Option.some_inj]
      constructor
      · rintro rfl
        exact ⟨_, .inr ⟨number, rfl⟩, rfl, rfl⟩
      · rintro ⟨entry, old | ⟨last, rfl⟩, sameName, sameEncoding⟩
        · have indexed := (coherent.lookup_iff _ _ id).mpr ⟨entry, old, sameName, sameEncoding⟩
          rw [lookup?] at missing
          simp [missing] at indexed
        · exact UInt64.toNat_inj.mp (number.trans last.symm)
    · have miss : ((other, otherEncoding) == (name, normalize name encoding)) = false := by
        simpa [Prod.ext_iff] using same
      rw [List.lookup_cons, miss]
      change table.index.lookup (other, otherEncoding) = some id ↔ _
      rw [coherent.lookup_iff]
      constructor
      · rintro ⟨entry, found, rest⟩
        exact ⟨entry, .inl found, rest⟩
      · rintro ⟨entry, old | ⟨_, rfl⟩, sameName, sameEncoding⟩
        · exact ⟨entry, old, sameName, sameEncoding⟩
        · exact absurd ⟨sameName.symm, sameEncoding.symm⟩ same
  · intro id entry found ascii
    obtain old | ⟨_, rfl⟩ := entry?_push.mp found
    · exact coherent.ascii id entry old ascii
    · have ascii : name.IsAscii := ascii
      simp [normalize_eq, ascii]

section Interning

variable {table : SymbolTable} {name : Bytes} {encoding : Encoding}
  (coherent : table.Coherent) (room : (table.intern name encoding).2.size < 2 ^ 64)

include coherent room

theorem Coherent.intern : (table.intern name encoding).2.Coherent := by
  unfold SymbolTable.intern at room ⊢
  split
  next => exact coherent
  next missing =>
    simp only [missing, size, Array.size_push] at room
    exact coherent.push missing room

theorem Coherent.intern_entry :
    ∃ entry,
      entry? (table.intern name encoding).2 (table.intern name encoding).1 = some entry ∧
      entry.name = name ∧ entry.encoding = normalize name encoding := by
  unfold SymbolTable.intern at room ⊢
  split
  next id found =>
    rw [lookup?, coherent.lookup_iff] at found
    exact found
  next missing =>
    simp only [missing, size, Array.size_push] at room
    exact ⟨_, entry?_push.mpr (.inr ⟨UInt64.toNat_ofNat_of_lt' room, rfl⟩), rfl, rfl⟩

end Interning

theorem Coherent.intern_of_entry {table : SymbolTable} (coherent : table.Coherent) {id : Id}
    {entry : SymbolEntry} (found : table.entry? id = some entry) {encoding : Encoding}
    (stored : entry.encoding = normalize entry.name encoding) :
    table.intern entry.name encoding = (id, table) := by
  have known : table.lookup? entry.name encoding = some id :=
    (coherent.lookup_iff ..).mpr ⟨entry, found, rfl, stored⟩
  rw [SymbolTable.intern, known]

theorem Coherent.lookup?_eq {table : SymbolTable} (coherent : table.Coherent)
    (room : table.size + 1 < 2 ^ 64) (name : Bytes) (encoding : Encoding) :
    table.lookup? name encoding =
      if (table.entry? (table.intern name encoding).1).isSome then
        some (table.intern name encoding).1
      else none := by
  unfold SymbolTable.intern
  split
  next id known =>
    obtain ⟨entry, found, _⟩ := (coherent.lookup_iff ..).mp known
    simp [known, found]
  next missing =>
    have number : (UInt64.ofNat (table.entries.size + 1)).toNat = table.size + 1 :=
      UInt64.toNat_ofNat_of_lt' room
    rw [missing, if_neg]
    rw [entry?_isSome_iff, number]
    omega

end NativeGate.SymbolTable
