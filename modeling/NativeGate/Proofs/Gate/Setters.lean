import NativeGate.Proofs.Gate.Identifiers

namespace NativeGate

theorem Bytes.isAscii_append {front back : Bytes} :
    Bytes.IsAscii (front ++ back) ↔ front.IsAscii ∧ back.IsAscii :=
  List.forall_mem_append

namespace SymbolTable

variable {table : SymbolTable} {id : Id} {name : Bytes} {encoding : Encoding}

/-- The ID is in use for a name interned under this encoding; ASCII names are kept as US-ASCII. -/
def Denotes (table : SymbolTable) (id : Id) (name : Bytes) (encoding : Encoding) : Prop :=
  ∃ entry, table.entry? id = some entry ∧ entry.name = name ∧
    entry.encoding = if name.IsAscii then .usAscii else encoding

theorem Denotes.extends {later : SymbolTable} (denotes : table.Denotes id name encoding)
    (grown : table.Extends later) : later.Denotes id name encoding := by
  obtain ⟨entry, found, hasName, stored⟩ := denotes
  obtain ⟨entry', found', sameName, sameEncoding, -⟩ := grown.entry id entry found
  exact ⟨entry', found', sameName.trans hasName, sameEncoding.trans stored⟩

section Coherent

variable (coherent : table.Coherent)

include coherent

theorem Coherent.denotes {entry : SymbolEntry} (found : table.entry? id = some entry) :
    table.Denotes id entry.name entry.encoding := by
  refine ⟨entry, found, rfl, ?_⟩
  split
  next ascii => exact coherent.ascii id entry found ascii
  next => rfl

theorem Coherent.denotes_intern (room : (table.intern name encoding).2.size < 2 ^ 64) :
    (table.intern name encoding).2.Denotes (table.intern name encoding).1 name encoding := by
  obtain ⟨entry, found, hasName, stored⟩ := coherent.intern_entry room
  exact ⟨entry, found, hasName, stored.trans (normalize_eq name encoding)⟩

theorem Coherent.id_eq_iff {other : Id} {name' : Bytes} {encoding' : Encoding}
    (first : table.Denotes id name encoding) (second : table.Denotes other name' encoding') :
    id = other ↔ name = name' ∧ (name.IsAscii ∨ encoding = encoding') := by
  obtain ⟨entry, found, rfl, stored⟩ := first
  obtain ⟨entry', found', rfl, stored'⟩ := second
  rw [← normalize_eq] at stored stored'
  rw [← normalize_eq_iff, ← stored]
  constructor
  · rintro rfl
    rw [found] at found'
    cases found'
    exact ⟨rfl, stored'⟩
  · rintro ⟨sameName, sameEncoding⟩
    rw [sameName, ← stored'] at sameEncoding
    exact coherent.unique found found' sameName sameEncoding

end Coherent

theorem normalize_setter (name : Bytes) (encoding : Encoding) :
    normalize (name ++ octets "=") (if name.IsAscii then .usAscii else encoding) =
      normalize (name ++ octets "=") encoding := by
  have plain : Bytes.IsAscii (octets "=") := by decide
  rw [normalize_eq_iff, Bytes.isAscii_append]
  by_cases ascii : name.IsAscii
  · exact .inl ⟨ascii, plain⟩
  · exact .inr (if_neg ascii)

theorem Coherent.id_eq_iff_setter (coherent : table.Coherent) {setter other setter' : Id}
    {name' : Bytes} {encoding' : Encoding} (first : table.Denotes id name encoding)
    (second : table.Denotes other name' encoding')
    (firstSetter : table.Denotes setter (name ++ octets "=") encoding)
    (secondSetter : table.Denotes setter' (name' ++ octets "=") encoding') :
    setter = setter' ↔ id = other := by
  have plain : Bytes.IsAscii (octets "=") := by decide
  rw [coherent.id_eq_iff first second, coherent.id_eq_iff firstSetter secondSetter,
    List.append_left_inj, Bytes.isAscii_append, and_iff_left plain]

end SymbolTable

namespace Symbols

open Native (Answers raising)

variable {β ω : Type} {host : Host} {name : Bytes} {encoding : Encoding} {call : Native β ω Id}

def setterOf (id : Id) : Native β ω Id := do
  let id ← raising (checkId id)
  raising (setterId id)

/-- The answer is an ID in use for the name from then on, and at most `count` symbols are new. -/
def Identifies (count : Nat) (call : Native β ω Id) (host : Host) (name : Bytes)
    (encoding : Encoding) : Prop :=
  ∃ id after, Answers call host id after ∧ host.Leads after ∧
    after.symbols.size ≤ host.symbols.size + count ∧ after.symbols.Denotes id name encoding

theorem Delivers.identifies (delivers : Delivers call host name encoding)
    (coherent : host.symbols.Coherent) (few : host.symbols.size + 1 < SymbolTable.capacity) :
    Identifies 1 call host name encoding := by
  have size_le := host.symbols.size_intern_le name encoding
  obtain ⟨after, answers, leads, symbols⟩ := delivers
  refine ⟨_, after, answers, leads, ?_, ?_⟩
  · rw [symbols]
    exact size_le
  · rw [symbols]
    exact coherent.denotes_intern (Nat.lt_trans (Nat.lt_of_le_of_lt size_le few) (by decide))

theorem setterOf_identifies (coherent : host.symbols.Coherent)
    (few : host.symbols.size + 1 < SymbolTable.capacity) {id : Id}
    (denotes : host.symbols.Denotes id name encoding) :
    Identifies 1 (setterOf id : Native β ω Id) host (name ++ octets "=") encoding := by
  obtain ⟨entry, found, rfl, stored⟩ := denotes
  have shown := SymbolTable.symbolId?_symbol (Nat.lt_of_succ_lt few) found
  have small : (host.symbols.intern (entry.name ++ octets "=") entry.encoding).2.size <
      SymbolTable.capacity := Nat.lt_of_le_of_lt (SymbolTable.size_intern_le ..) few
  have same := host.symbols.intern_congr (SymbolTable.normalize_setter entry.name encoding)
  have delivers := (setterId_delivers (β := β) (ω := ω) coherent small shown found).raising
  rw [stored, Delivers, same] at delivers
  obtain ⟨after, answers, rest⟩ := delivers
  have checked := checkId_answers (β := β) (ω := ω) (Value.symbolId?_eq_some_iff.mp shown).1 host
  exact Delivers.identifies ⟨after, checked.bind answers, rest⟩ coherent few

/-- Ways to the setter of a name. -/
inductive Setting (host : Host) (name : Bytes) (encoding : Encoding) : Native β ω Id → Prop
  | marked {call : Native β ω Id}
      (interning : Interning host (name ++ octets "=") encoding call) :
      Setting host name encoding call
  | interned {call : Native β ω Id} (interning : Interning host name encoding call) :
      Setting host name encoding do
        let id ← call
        setterOf id
  | known {id : Id} (denotes : host.symbols.Denotes id name encoding) :
      Setting host name encoding (setterOf id)

theorem Setting.identifies (setting : Setting host name encoding call)
    (coherent : host.symbols.Coherent) (few : host.symbols.size + 2 < SymbolTable.capacity)
    (room : host.objects.size < ObjectTable.capacity) :
    Identifies 2 call host (name ++ octets "=") encoding := by
  have once := Nat.lt_of_succ_lt few
  have small (name : Bytes) : (host.symbols.intern name encoding).2.size < SymbolTable.capacity :=
    Nat.lt_of_le_of_lt (SymbolTable.size_intern_le ..) once
  cases setting with
  | marked interning =>
      obtain ⟨setter, after, answers, leads, size_le, denotes⟩ :=
        (interning.delivers coherent (small _) room).identifies coherent once
      exact ⟨setter, after, answers, leads, Nat.le_succ_of_le size_le, denotes⟩
  | interned interning =>
      obtain ⟨id, middle, answers, leads, size_le, denotes⟩ :=
        (interning.delivers coherent (small _) room).identifies coherent once
      have fewMiddle : middle.symbols.size + 1 < SymbolTable.capacity :=
        Nat.lt_of_le_of_lt (Nat.succ_le_succ size_le) few
      have coherentMiddle := leads.symbols_coherent coherent
        (Nat.lt_trans (Nat.lt_of_succ_lt fewMiddle) (by decide))
      obtain ⟨setter, after, asked, leadsAfter, size_le', denotes'⟩ :=
        setterOf_identifies (β := β) (ω := ω) coherentMiddle fewMiddle denotes
      exact ⟨setter, after, answers.bind asked, leads.trans leadsAfter,
        Nat.le_trans size_le' (Nat.succ_le_succ size_le), denotes'⟩
  | known denotes =>
      obtain ⟨setter, after, answers, leads, size_le, denotes⟩ :=
        setterOf_identifies (β := β) (ω := ω) coherent once denotes
      exact ⟨setter, after, answers, leads, Nat.le_succ_of_le size_le, denotes⟩

/-- `rb_id_attrset` of a name's ID and interning the name with `=` behind it give one ID, in either
order and in every later state; different IDs have different setters. -/
theorem setters_follow_names {host : Host} (reached : host.Reachable)
    (few : host.symbols.size + 2 < SymbolTable.capacity)
    (room : host.objects.size < ObjectTable.capacity) :
    (∀ (name : Bytes) (encoding : Encoding),
      (∀ call : Native β ω Id, Interning host name encoding call →
        ∃ id after, Answers call host id after ∧ host.Leads after ∧
          ∀ later, after.Leads later →
            Setting later name encoding (setterOf id : Native β ω Id)) ∧
      ∀ call : Native β ω Id, Setting host name encoding call →
        ∃ setter after, Answers call host setter after ∧ host.Leads after ∧
          after.symbols.Denotes setter (name ++ octets "=") encoding ∧
          ∀ (later : Host) (again : Native β ω Id), after.Leads later →
            later.symbols.size + 2 < SymbolTable.capacity →
            later.objects.size < ObjectTable.capacity → Setting later name encoding again →
            ∃ last, Answers again later setter last ∧ later.Leads last) ∧
    ∀ first : Id, 1 ≤ first.toNat → first.toNat ≤ host.symbols.size →
      ∃ setter after, Answers (setterOf first : Native β ω Id) host setter after ∧
        host.Leads after ∧
        ∀ (later : Host) (second : Id), after.Leads later →
          later.symbols.size + 2 < SymbolTable.capacity →
          1 ≤ second.toNat → second.toNat ≤ later.symbols.size →
          ∃ setter' last, Answers (setterOf second : Native β ω Id) later setter' last ∧
            later.Leads last ∧ (setter = setter' ↔ first = second) := by
  have coherent {host : Host} (reached : host.Reachable)
      (few : host.symbols.size + 2 < SymbolTable.capacity) : host.symbols.Coherent :=
    reached.symbols_coherent (Nat.lt_of_le_of_lt (Nat.le_add_right _ 2) few)
  refine ⟨fun name encoding => ⟨?_, ?_⟩, ?_⟩
  · intro call interning
    have small : (host.symbols.intern name encoding).2.size < SymbolTable.capacity :=
      Nat.lt_of_le_of_lt (SymbolTable.size_intern_le ..) (Nat.lt_of_succ_lt few)
    obtain ⟨id, after, answers, leads, -, denotes⟩ :=
      (interning.delivers (coherent reached few) small room).identifies (coherent reached few)
        (Nat.lt_of_succ_lt few)
    exact ⟨id, after, answers, leads, fun later leadsLater =>
      .known (denotes.extends leadsLater.symbols_extend)⟩
  · intro call setting
    obtain ⟨setter, after, answers, leads, -, denotes⟩ :=
      setting.identifies (coherent reached few) few room
    refine ⟨setter, after, answers, leads, denotes, ?_⟩
    intro later again leadsLater fewLater roomLater settingAgain
    have reachedLater := reached.leads (leads.trans leadsLater)
    obtain ⟨setter', last, answersAgain, leadsLast, size_le, denotesAgain⟩ :=
      settingAgain.identifies (coherent reachedLater fewLater) fewLater roomLater
    have coherentLast := (reachedLater.leads leadsLast).symbols_coherent
      (Nat.lt_of_le_of_lt size_le fewLater)
    have kept := denotes.extends (leadsLater.trans leadsLast).symbols_extend
    obtain rfl : setter = setter' := (coherentLast.id_eq_iff kept denotesAgain).mpr ⟨rfl, .inr rfl⟩
    exact ⟨last, answersAgain, leadsLast⟩
  · intro first least most
    obtain ⟨entry, found⟩ := Option.isSome_iff_exists.mp
      ((SymbolTable.entry?_isSome_iff host.symbols first).mpr ⟨least, most⟩)
    have denotes := (coherent reached few).denotes found
    obtain ⟨setter, after, answers, leads, -, setterDenotes⟩ :=
      setterOf_identifies (β := β) (ω := ω) (coherent reached few) (Nat.lt_of_succ_lt few) denotes
    refine ⟨setter, after, answers, leads, ?_⟩
    intro later second leadsLater fewLater leastSecond mostSecond
    have reachedLater := reached.leads (leads.trans leadsLater)
    obtain ⟨entry', found'⟩ := Option.isSome_iff_exists.mp
      ((SymbolTable.entry?_isSome_iff later.symbols second).mpr ⟨leastSecond, mostSecond⟩)
    have denotes' := (coherent reachedLater fewLater).denotes found'
    obtain ⟨setter', last, answers', leadsLast, size_le, setterDenotes'⟩ :=
      setterOf_identifies (β := β) (ω := ω) (coherent reachedLater fewLater)
        (Nat.lt_of_succ_lt fewLater) denotes'
    have coherentLast := (reachedLater.leads leadsLast).symbols_coherent
      (Nat.lt_of_le_of_lt size_le (Nat.lt_of_succ_lt fewLater))
    refine ⟨setter', last, answers', leadsLast, ?_⟩
    exact coherentLast.id_eq_iff_setter
      (denotes.extends ((leads.trans leadsLater).trans leadsLast).symbols_extend)
      (denotes'.extends leadsLast.symbols_extend)
      (setterDenotes.extends (leadsLater.trans leadsLast).symbols_extend) setterDenotes'

def accented : Host :=
  Host.new.actAll
    [.newString (octets "\u00e9") .utf8, .invoke "rb_intern" [.handle 20],
      .newString (octets "\u00e9") .binary, .invoke "rb_intern" [.handle 21]]

theorem setters_follow_names_accented :
    (∃ setter after last, Answers (setterOf 1 : Native Unit Unit Id) accented setter after ∧
      Answers (do
          let encoding ← raising (Strings.encodingOf (.known .utf8))
          raising (intern (octets "\u00e9" ++ octets "=") encoding) : Native Unit Unit Id)
        after setter last) ∧
    ∃ setter other after last, Answers (setterOf 1 : Native Unit Unit Id) accented setter after ∧
      Answers (setterOf 2 : Native Unit Unit Id) after other last ∧ setter ≠ other := by
  have reached : accented.Reachable := ⟨_, rfl⟩
  obtain ⟨byName, byId⟩ :=
    setters_follow_names (β := Unit) (ω := Unit) reached (by decide) (by decide)
  -- Running the call tells what becomes of the host.
  have becomes {setter : Id} {after : Host}
      (answers : Answers (setterOf 1 : Native Unit Unit Id) accented setter after) :
      2 ≤ after.symbols.size ∧ after.symbols.size + 2 < SymbolTable.capacity ∧
        after.objects.size < ObjectTable.capacity := by
    obtain ⟨gate, ran, scope, current, rfl, -⟩ :=
      answers ((Gate.installed ()).changeHost 0 fun _ => accented) ⟨_, rfl, rfl, rfl⟩
    obtain rfl := congrArg Prod.snd ran
    cases current
    decide
  constructor
  · have denotes : accented.symbols.Denotes 1 (octets "\u00e9") .utf8 := ⟨_, rfl, rfl, rfl⟩
    have known : (EncodingPointer.known .utf8).resolve? = some .utf8 := rfl
    obtain ⟨setter, after, answers, -, -, later⟩ :=
      (byName (octets "\u00e9") .utf8).2 _ (.known denotes)
    obtain ⟨-, few, room⟩ := becomes answers
    obtain ⟨last, interned, -⟩ := later _ _ (.refl after) few room (.marked (.encoded known))
    exact ⟨setter, after, last, answers, interned⟩
  · obtain ⟨setter, after, answers, -, later⟩ := byId 1 (by decide) (by decide)
    obtain ⟨both, few, -⟩ := becomes answers
    obtain ⟨other, last, asked, -, same⟩ := later after 2 (.refl after) few (by decide) both
    exact ⟨setter, other, after, last, answers, asked, mt same.mp (by decide)⟩

end Symbols

end NativeGate
