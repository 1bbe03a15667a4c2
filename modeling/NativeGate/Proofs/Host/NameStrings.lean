import NativeGate.Proofs.Host.Objects
import NativeGate.Proofs.Host.Symbols

namespace NativeGate

theorem Object.Becomes.eq_of_name {name : Bytes} {encoding : Encoding} {added : Bytes}
    {object : Object} (turned : Becomes added (.string (.ofName name encoding)) object) :
    object = .string (.ofName name encoding) := by
  cases turned with
  | string _ _ _ settled =>
      rw [settled rfl]
      exact Coderange.scan_ne_unknown name encoding

theorem SymbolTable.entry?_intern {table : SymbolTable} {name : Bytes} {encoding : Encoding}
    {id : Id} {entry : SymbolEntry}
    (found : entry? (table.intern name encoding).2 id = some entry) :
    table.entry? id = some entry ∨ entry.text = none := by
  unfold intern at found
  split at found
  · exact .inl found
  · obtain old | ⟨_, rfl⟩ := entry?_push.mp found
    · exact .inl old
    · exact .inr rfl

namespace Host

/-- The `text` of an entry is the frozen string of its name. -/
def NamesHeld (host : Host) : Prop :=
  ∀ id entry text, host.symbols.entry? id = some entry → entry.text = some text →
    host.objects.get? text = some (.string (.ofName entry.name entry.encoding))

theorem NamesHeld.of_extends {host after : Host} (held : host.NamesHeld)
    (symbols : after.symbols = host.symbols) (grown : host.objects.Extends after.objects) :
    after.NamesHeld := by
  intro id entry text found remembered
  rw [symbols] at found
  obtain ⟨object, found', turned⟩ := grown.object _ _ (held id entry text found remembered)
  rw [found', turned.eq_of_name]

theorem NamesHeld.intern {host : Host} (held : host.NamesHeld) (name : Bytes)
    (encoding : Encoding) : (host.carryOut (.intern name encoding)).2.NamesHeld := by
  intro id entry text found remembered
  obtain old | fresh := SymbolTable.entry?_intern found
  · exact held id entry text old remembered
  · rw [fresh] at remembered
    cases remembered

theorem createNameString_eq {host : Host} {id : Id} {entry : SymbolEntry}
    (found : host.symbols.entry? id = some entry) :
    host.createNameString id =
      ((host.objects.add (.string (.ofName entry.name entry.encoding))).1,
        { host with
          objects := (host.objects.add (.string (.ofName entry.name entry.encoding))).2
          symbols := host.symbols.setText id
            (host.objects.add (.string (.ofName entry.name entry.encoding))).1 }) := by
  simp [createNameString, symbolParts, found, create]

theorem NamesHeld.nameString {host : Host} (held : host.NamesHeld) {id : Id}
    {entry : SymbolEntry} (found : host.symbols.entry? id = some entry)
    (room : host.objects.size < ObjectTable.capacity) :
    (host.createNameString id).2.NamesHeld := by
  rw [createNameString_eq found]
  intro other entry' text found' remembered
  rw [SymbolTable.entry?_setText] at found'
  split at found'
  next same =>
    rw [found] at found'
    cases found'
    cases remembered
    exact ObjectTable.get?_add_self room _
  next =>
    exact (ObjectTable.get?_add ..).mpr (.inl (held other entry' text found' remembered))

theorem Move.namesHeld {host after : Host} (move : host.Move after) (held : host.NamesHeld)
    (room : after.objects.size < ObjectTable.capacity + 1) : after.NamesHeld := by
  have grown := move.objects_extend
  cases move with
  | aside _ symbols => exact held.of_extends symbols grown
  | effect justified =>
      cases justified with
      | intern name encoding => exact held.intern name encoding
      | nameString found =>
          refine held.nameString found ?_
          change (host.objects.add _).2.size < _ at room
          rw [ObjectTable.size_add] at room
          omega
      | define binding => cases binding <;> exact held.of_extends rfl grown
      | _ => exact held.of_extends rfl grown
  | exception kind message =>
      refine held.of_extends ?_ grown
      unfold newException
      split <;> rfl

theorem append_namesHeld {host : Host} (held : host.NamesHeld) (string : Value) (more : Bytes) :
    (host.append string more).2.NamesHeld := by
  intro id entry text found remembered
  rw [append_symbols] at found
  obtain ⟨object, found', turned⟩ :=
    host.append_becomes string more (held id entry text found remembered)
  rw [found', turned.eq_of_name]

theorem Leads.namesHeld {host later : Host} (leads : host.Leads later) (held : host.NamesHeld)
    (room : later.objects.size ≤ ObjectTable.capacity) : later.NamesHeld := by
  refine leads.keep NamesHeld (fun host => host.objects.size) ?_ ?_ (Nat.lt_succ_of_le room) held
  · intro host after move
    exact ⟨move.objects_extend.size_le, fun room held => move.namesHeld held room⟩
  · intro host string more
    exact ⟨append_size host string more, fun _ held => append_namesHeld held string more⟩

theorem new_namesHeld : new.NamesHeld := by
  intro id entry text found
  obtain ⟨position, _, stored⟩ := SymbolTable.entry?_eq_some_iff.mp found
  cases stored

/-- The operations that answer with the string of a symbol's name. -/
def nameOperations : List Operation :=
  [.symToString, .idToString]

theorem plan_nameString {host : Host} {op : Operation} (member : op ∈ nameOperations) {v : Value}
    {id : Id} (known : host.symbolId? v = some id) :
    host.plan op [v] = .ok (host.nameString id) := by
  have argument : host.symbolArgument op [v] 0 = .ok id :=
    symbolArgument_eq_ok.mpr ⟨v, rfl, known⟩
  simp only [nameOperations, List.mem_cons, List.not_mem_nil, or_false] at member
  obtain rfl | rfl := member <;> (unfold plan; rw [argument]; rfl)

theorem symbolId?_symbol {host : Host} {id : Id} {entry : SymbolEntry}
    (shown : (Value.symbol id).symbolId? = some id)
    (found : host.symbols.entry? id = some entry) : host.symbolId? (.symbol id) = some id := by
  simp [symbolId?, shown, found]

section Asking

variable {host : Host} {op : Operation} (member : op ∈ nameOperations) {id : Id}
  (shown : (Value.symbol id).symbolId? = some id) {entry : SymbolEntry}
  (found : host.symbols.entry? id = some entry)

include member shown found

theorem plan_name : (host.note op.name).plan op [.symbol id] =
    .ok (match entry.text with
      | some text => .reply text
      | none => .nameString id) := by
  have known : (host.note op.name).symbolId? (.symbol id) = some id :=
    symbolId?_symbol shown found
  have noted : (host.note op.name).symbols.entry? id = some entry := found
  rw [plan_nameString member known, nameString, noted]
  rfl

theorem invoke_name_remembered {text : Value} (remembered : entry.text = some text) :
    host.invoke op.name [.symbol id] = (.value text, host.note op.name) := by
  have planned := plan_name member shown found
  rw [remembered] at planned
  exact invoke_of_plan planned

theorem invoke_name_fresh (fresh : entry.text = none) :
    host.invoke op.name [.symbol id] =
      (.value ((host.note op.name).createNameString id).1,
        ((host.note op.name).createNameString id).2) := by
  have planned := plan_name member shown found
  rw [fresh] at planned
  exact invoke_of_plan planned

theorem invoke_name (held : host.NamesHeld) (room : host.objects.size < ObjectTable.capacity) :
    ∃ text after, host.invoke op.name [.symbol id] = (.value text, after) ∧
      after.objects.get? text = some (.string (.ofName entry.name entry.encoding)) ∧
      (∃ entry', after.symbols.entry? id = some entry' ∧ entry'.text = some text) ∧
      after.objects.size ≤ host.objects.size + 1 := by
  cases remembered : entry.text with
  | some text =>
      refine ⟨text, host.note op.name, invoke_name_remembered member shown found remembered,
        held id entry text found remembered, ⟨entry, found, remembered⟩, ?_⟩
      exact Nat.le_succ _
  | none =>
      have found' : (host.note op.name).symbols.entry? id = some entry := found
      have created := createNameString_eq found'
      refine ⟨_, _, invoke_name_fresh member shown found remembered, ?_, ?_, ?_⟩
      · rw [created]
        exact ObjectTable.get?_add_self room _
      · rw [created]
        refine ⟨{ entry with text := some _ }, ?_, rfl⟩
        change SymbolTable.entry? (host.symbols.setText id _) id = _
        rw [SymbolTable.entry?_setText, if_pos rfl, found]
        rfl
      · rw [created]
        exact Nat.le_of_eq (ObjectTable.size_add host.objects _)

end Asking

end Host

end NativeGate
