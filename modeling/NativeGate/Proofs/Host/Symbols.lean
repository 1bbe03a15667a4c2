import NativeGate.Proofs.Host.Run

namespace NativeGate

/-- IDs of a smaller table fit into the word of a symbol. -/
def SymbolTable.capacity : Nat := 2 ^ 56

theorem SymbolTable.symbolId?_symbol {table : SymbolTable} {id : Id} {entry : SymbolEntry}
    (few : table.size < capacity) (found : table.entry? id = some entry) :
    (Value.symbol id).symbolId? = some id := by
  obtain ⟨positive, inside⟩ :=
    (entry?_isSome_iff table id).mp (Option.isSome_iff_exists.mpr ⟨entry, found⟩)
  apply Value.symbolId?_symbol
  · rintro rfl
    simp at positive
  · unfold capacity at few
    omega

theorem SymbolTable.Coherent.symbolId?_intern {table : SymbolTable} (coherent : table.Coherent)
    {name : Bytes} {encoding : Encoding} (few : (table.intern name encoding).2.size < capacity) :
    (Value.symbol (table.intern name encoding).1).symbolId? =
      some (table.intern name encoding).1 := by
  obtain ⟨entry, found, _⟩ := coherent.intern_entry (Nat.lt_trans few (by decide))
  exact symbolId?_symbol few found

namespace Host

theorem Move.symbols_cases {host after : Host} (move : host.Move after) :
    after.symbols = host.symbols ∨
    (∃ name encoding, after.symbols = (host.symbols.intern name encoding).2) ∨
    (∃ id text entry, host.symbols.entry? id = some entry ∧ entry.text = none ∧
      after.symbols = host.symbols.setText id text) := by
  cases move with
  | aside _ symbols => exact .inl symbols
  | effect justified =>
      cases justified with
      | intern name encoding => exact .inr (.inl ⟨name, encoding, rfl⟩)
      | nameString found fresh => exact .inr (.inr ⟨_, _, _, found, fresh, rfl⟩)
      | define binding =>
          refine .inl ?_
          cases binding <;> rfl
      | _ => exact .inl rfl
  | exception kind message =>
      refine .inl ?_
      unfold newException
      split <;> rfl

theorem Move.symbols_extend {host after : Host} (move : host.Move after) :
    host.symbols.Extends after.symbols := by
  obtain same | ⟨name, encoding, same⟩ | ⟨id, text, entry, found, fresh, same⟩ :=
    move.symbols_cases
  · rw [same]
    exact .refl _
  · rw [same]
    exact SymbolTable.extends_intern _ name encoding
  · rw [same]
    apply SymbolTable.extends_setText
    intro other foundOther
    rw [found] at foundOther
    cases foundOther
    exact fresh

theorem Move.symbols_coherent {host after : Host} (move : host.Move after)
    (coherent : host.symbols.Coherent) (room : after.symbols.size < 2 ^ 64) :
    after.symbols.Coherent := by
  obtain same | ⟨name, encoding, same⟩ | ⟨id, text, _, _, _, same⟩ := move.symbols_cases
  · rw [same]
    exact coherent
  · rw [same] at room ⊢
    exact coherent.intern room
  · rw [same]
    exact coherent.setText id text

theorem append_symbols (host : Host) (string : Value) (more : Bytes) :
    (host.append string more).2.symbols = host.symbols := by
  unfold append
  cases host.objects.string? string with
  | none => rfl
  | some s =>
      dsimp only
      split <;> rfl

theorem Leads.symbols_extend {host later : Host} (leads : host.Leads later) :
    host.symbols.Extends later.symbols := by
  refine Leads.lift (R := fun host later => host.symbols.Extends later.symbols)
    (fun _ => .refl _) .trans Move.symbols_extend ?_ leads
  intro host string more
  rw [append_symbols]
  exact .refl _

theorem Leads.symbols_coherent {host later : Host} (leads : host.Leads later)
    (coherent : host.symbols.Coherent) (room : later.symbols.size < 2 ^ 64) :
    later.symbols.Coherent := by
  refine leads.keep (fun host => host.symbols.Coherent) (fun host => host.symbols.size)
    ?_ ?_ room coherent
  · intro host after move
    exact ⟨move.symbols_extend.size_le, fun room before => move.symbols_coherent before room⟩
  · intro host string more
    rw [append_symbols]
    exact ⟨rfl, fun _ before => before⟩

theorem Reachable.symbols_coherent {host : Host} (reached : host.Reachable)
    (few : host.symbols.size < SymbolTable.capacity) : host.symbols.Coherent :=
  Leads.symbols_coherent reached SymbolTable.coherent_empty
    (Nat.lt_trans few (by decide))

/-- By some operation the host interns a name, and answers with its symbol. -/
def Interns (host : Host) (name : Bytes) (encoding : Encoding) (symbol : Value) (after : Host) :
    Prop :=
  ∃ op args, (host.note op.name).plan op args = .ok (.intern name encoding) ∧
    host.invoke op.name args = (.value symbol, after)

section Interning

variable {host after : Host} {name : Bytes} {encoding : Encoding} {symbol : Value}

theorem Interns.leads (interns : host.Interns name encoding symbol after) : host.Leads after := by
  obtain ⟨op, args, _, invoked⟩ := interns
  exact ⟨[.invoke op.name args], congrArg Prod.snd invoked⟩

theorem Interns.spec (interns : host.Interns name encoding symbol after) :
    symbol = .symbol (host.symbols.intern name encoding).1 ∧
      after.symbols = (host.symbols.intern name encoding).2 := by
  obtain ⟨op, args, planned, invoked⟩ := interns
  rw [invoke_of_plan planned] at invoked
  cases invoked
  exact ⟨rfl, rfl⟩

variable (coherent : host.symbols.Coherent) (few : after.symbols.size < SymbolTable.capacity)

include coherent few

theorem Interns.symbols_coherent (interns : host.Interns name encoding symbol after) :
    after.symbols.Coherent :=
  interns.leads.symbols_coherent coherent (Nat.lt_trans few (by decide))

theorem Interns.entry (interns : host.Interns name encoding symbol after) :
    ∃ id entry, symbol.symbolId? = some id ∧ after.symbols.entry? id = some entry ∧
      entry.name = name ∧ entry.encoding = SymbolTable.normalize name encoding := by
  obtain ⟨rfl, same⟩ := interns.spec
  have room : (host.symbols.intern name encoding).2.size < 2 ^ 64 := by
    rw [← same]
    exact Nat.lt_trans few (by decide)
  obtain ⟨entry, found, hasName, hasEncoding⟩ := coherent.intern_entry room
  rw [← same] at found
  exact ⟨_, entry, SymbolTable.symbolId?_symbol few found, found, hasName, hasEncoding⟩

theorem Interns.same_iff (interns : host.Interns name encoding symbol after) {id : Id}
    {entry : SymbolEntry} (found : host.symbols.entry? id = some entry)
    {older : Encoding} (stored : entry.encoding = SymbolTable.normalize entry.name older) :
    symbol.symbolId? = some id ↔
      entry.name = name ∧ (entry.name.IsAscii ∨ older = encoding) := by
  obtain ⟨newId, new, shown, foundNew, hasName, hasEncoding⟩ := interns.entry coherent few
  obtain ⟨old, foundOld, oldName, oldEncoding, _⟩ :=
    interns.leads.symbols_extend.entry id entry found
  rw [shown, Option.some_inj, ← SymbolTable.normalize_eq_iff, ← stored]
  constructor
  · rintro rfl
    rw [foundNew] at foundOld
    cases foundOld
    have same : entry.name = name := oldName.symm.trans hasName
    exact ⟨same, by rw [same, ← hasEncoding, oldEncoding]⟩
  · rintro ⟨same, agree⟩
    apply (interns.symbols_coherent coherent few).unique foundNew foundOld
    · rw [hasName, oldName, same]
    · rw [hasEncoding, oldEncoding, agree, same]

end Interning

/-- At every moment of a run the entries and the index of the symbol table mirror each other.
Interning hands out IDs from one up to the number of entries, and the same ID exactly for the same
name, whatever the encoding of an ASCII one. -/
theorem symbols_of_run {host : Host} (reached : host.Reachable)
    (few : host.symbols.size < SymbolTable.capacity) :
    host.symbols.Coherent ∧
    (∀ first second left right, host.symbols.entry? first = some left →
      host.symbols.entry? second = some right → left.name = right.name →
      left.encoding = right.encoding → first = second) ∧
    (∀ id, (host.symbols.entry? id).isSome ↔ 1 ≤ id.toNat ∧ id.toNat ≤ host.symbols.size) ∧
    (∀ id, (∃ key, host.symbols.index.lookup key = some id) ↔
      1 ≤ id.toNat ∧ id.toNat ≤ host.symbols.size) ∧
    (∀ later id entry, host.Leads later → host.symbols.entry? id = some entry →
      ∃ entry', later.symbols.entry? id = some entry' ∧ entry'.name = entry.name ∧
        entry'.encoding = entry.encoding) ∧
    ∀ name encoding symbol after, host.Interns name encoding symbol after →
      after.symbols.size < SymbolTable.capacity →
      ∃ id, symbol = .symbol id ∧ symbol.symbolId? = some id ∧ ∀ later, after.Leads later →
        (∃ entry, later.symbols.entry? id = some entry ∧ entry.name = name ∧
          entry.encoding = if name.IsAscii then .usAscii else encoding) ∧
        ∀ name' encoding' symbol' last, later.Interns name' encoding' symbol' last →
          last.symbols.size < SymbolTable.capacity →
          (symbol'.symbolId? = some id ↔
            name = name' ∧ (name.IsAscii ∨ encoding = encoding')) := by
  have coherent := reached.symbols_coherent few
  refine ⟨coherent, ?_, SymbolTable.entry?_isSome_iff _, coherent.indexed_iff, ?_, ?_⟩
  · intro first second left right foundLeft foundRight
    exact coherent.unique foundLeft foundRight
  · intro later id entry leads found
    obtain ⟨entry', found', name, encoding, _⟩ := leads.symbols_extend.entry id entry found
    exact ⟨entry', found', name, encoding⟩
  · intro name encoding symbol after interns fewAfter
    obtain ⟨id, entry, shown, found, rfl, stored⟩ := interns.entry coherent fewAfter
    refine ⟨id, Value.eq_symbol_of_symbolId?_eq_some shown, shown, ?_⟩
    intro later leads
    obtain ⟨entry', found', sameName, sameEncoding, _⟩ :=
      leads.symbols_extend.entry id entry found
    rw [stored] at sameEncoding
    constructor
    · exact ⟨entry', found', sameName, sameEncoding.trans (SymbolTable.normalize_eq ..)⟩
    · intro name' encoding' symbol' last internsAgain fewLast
      have room : later.symbols.size < 2 ^ 64 :=
        Nat.lt_trans (Nat.lt_of_le_of_lt internsAgain.leads.symbols_extend.size_le fewLast)
          (by decide)
      have coherentLater := leads.symbols_coherent (interns.symbols_coherent coherent fewAfter) room
      rw [← sameName] at sameEncoding ⊢
      exact internsAgain.same_iff coherentLater fewLast found' sameEncoding

theorem symbols_of_run_utf8_then_binary :
    ∃ after last symbol symbol' id,
      (new.actAll [.newString (octets "each") .utf8, .newString (octets "each") .binary]).Interns
        (octets "each") .utf8 symbol after ∧
      after.Interns (octets "each") .binary symbol' last ∧
      symbol.symbolId? = some id ∧ symbol'.symbolId? = some id := by
  let start := new.actAll [.newString (octets "each") .utf8, .newString (octets "each") .binary]
  let after := start.act (.invoke "rb_intern" [.handle 20])
  let last := after.act (.invoke "rb_intern" [.handle 21])
  have reached : start.Reachable := ⟨_, rfl⟩
  have first : start.Interns (octets "each") .utf8 (.symbol 1) after :=
    ⟨.intern, [.handle 20], rfl, rfl⟩
  have second : after.Interns (octets "each") .binary (.symbol 1) last :=
    ⟨.intern, [.handle 21], rfl, rfl⟩
  obtain ⟨_, _, _, _, _, handedOut⟩ := symbols_of_run reached (by decide)
  obtain ⟨id, _, shown, along⟩ := handedOut _ _ _ _ first (by decide)
  obtain ⟨_, same⟩ := along after (.refl after)
  have shownAgain := (same _ _ _ _ second (by decide)).mpr ⟨rfl, .inl (by decide)⟩
  exact ⟨after, last, _, _, id, first, second, shown, shownAgain⟩

end Host

end NativeGate
