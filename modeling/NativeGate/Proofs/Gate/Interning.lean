import Mathlib.Data.List.TakeWhile
import NativeGate.Gate.Strings
import NativeGate.Proofs.Gate.Symbols

namespace NativeGate

theorem Bytes.beforeNul_eq_self {bytes : Bytes} (noNul : 0 ∉ bytes) :
    Bytes.beforeNul bytes = bytes := by
  apply List.takeWhile_eq_self_iff.mpr
  intro b member
  simpa using ne_of_mem_of_not_mem member noNul

namespace Host

theorem invokePredicate_symbolP (host : Host) (v : Value) :
    host.invokePredicate Query.symbolP.name [v] =
      (.value (host.symbolId? v).isSome, host.note Query.symbolP.name) :=
  invokePredicate_of_answer rfl

section Holds

variable {host : Host} {v : Value} {name : Bytes} {encoding : Encoding}
  (holds : host.Holds v name encoding)

include holds

theorem Holds.isSymbol_eq_false : v.isSymbol = false := by
  obtain ⟨s, found, _⟩ := holds
  exact ObjectTable.isSymbol_of_get? (ObjectTable.string?_eq_some_iff.mp found)

theorem Holds.symbolId?_eq_none : host.symbolId? v = none := by
  rw [symbolId?, Value.symbolId?_of_untagged holds.isSymbol_eq_false]
  rfl

theorem Holds.invoke_toSymbol :
    host.invoke Operation.toSymbol.name [v] =
      (.value (.symbol (host.symbols.intern name encoding).1),
        { host.note Operation.toSymbol.name with
          symbols := (host.symbols.intern name encoding).2 }) := by
  have unknown : (host.note Operation.toSymbol.name).symbolId? v = none := holds.symbolId?_eq_none
  obtain ⟨s, found, rfl, rfl⟩ := holds
  have planned : (host.note Operation.toSymbol.name).plan .toSymbol [v] =
      .ok (.intern s.bytes s.encoding) := by
    simp [plan, argument, unknown, found, bind, Except.bind]
  exact invoke_of_plan planned

theorem Holds.invoke_checkSymbol :
    host.invoke Operation.checkSymbol.name [v] =
      (.value ((host.symbols.lookup? name encoding).elim .nil .symbol),
        host.note Operation.checkSymbol.name) := by
  obtain ⟨s, found, rfl, rfl⟩ := holds
  have planned : (host.note Operation.checkSymbol.name).plan .checkSymbol [v] =
      .ok (.reply ((host.symbols.lookup? s.bytes s.encoding).elim .nil .symbol)) := by
    cases known : host.symbols.lookup? s.bytes s.encoding <;>
      simp [plan, stringArgument_note found, known, bind, Except.bind, pure, Except.pure]
  exact invoke_of_plan planned

theorem Holds.leads_checked : host.Leads (host.note Operation.checkSymbol.name) :=
  ⟨[.invoke _ _], congrArg Prod.snd holds.invoke_checkSymbol⟩

theorem Holds.asked_symbol :
    host.invokePredicate Query.symbolP.name [v] = (.value false, host.note Query.symbolP.name) := by
  rw [invokePredicate_symbolP, holds.symbolId?_eq_none]
  rfl

theorem Holds.asked_string :
    host.invokePredicate Query.stringP.name [v] = (.value true, host.note Query.stringP.name) := by
  obtain ⟨s, found, rfl, rfl⟩ := holds
  apply invokePredicate_of_answer
  simp [answer, argument, found, bind, Except.bind, pure, Except.pure]

end Holds

end Host

namespace Symbols

open Native (Answers raising)

variable {β ω : Type} {host : Host}

theorem encodingOf_answers {pointer : EncodingPointer} {encoding : Encoding}
    (known : pointer.resolve? = some encoding) (host : Host) :
    Answers (Strings.encodingOf pointer : Native β ω Encoding) host encoding host := by
  rw [Strings.encodingOf, known]
  exact .pure host encoding

theorem toId_answers {v : Value} {id : Id} (shown : v.symbolId? = some id) (host : Host) :
    Answers (toId v : Native β ω Id) host id host := by
  rw [toId, shown]
  exact .pure host id

/-- The call answers with the ID the table has for the name, or now gives it. -/
def Delivers (call : Native β ω Id) (host : Host) (name : Bytes) (encoding : Encoding) : Prop :=
  ∃ after, Answers call host (host.symbols.intern name encoding).1 after ∧ host.Leads after ∧
    after.symbols = (host.symbols.intern name encoding).2

theorem Delivers.raising {call : Native β ω Id} {name : Bytes} {encoding : Encoding}
    (delivers : Delivers call host name encoding) : Delivers (raising call) host name encoding := by
  obtain ⟨after, answers, rest⟩ := delivers
  exact ⟨after, answers.raising, rest⟩

section Strings

variable {v : Value} {name : Bytes} {encoding : Encoding} (holds : host.Holds v name encoding)

include holds

theorem symbol?_answers :
    Answers (symbol? v : Native β ω Bool) host false (host.note Query.symbolP.name) := by
  rw [symbol?, holds.isSymbol_eq_false]
  exact Native.onEngine_answers (Engine.ask_answers holds.asked_symbol)

theorem stringOf_answers :
    Engine.Answers (stringOf v : Proc (Engine β) Value) host v (host.note Query.stringP.name) :=
  .bind (Engine.ask_answers holds.asked_string) (.pure _ v)

theorem leads_asked :
    host.Leads ((host.note Query.symbolP.name).note Query.stringP.name) := by
  have asked : (host.note Query.symbolP.name).Holds v name encoding := holds
  exact Host.Leads.trans ⟨[.invokePredicate _ _], congrArg Prod.snd holds.asked_symbol⟩
    ⟨[.invokePredicate _ _], congrArg Prod.snd asked.asked_string⟩

section Delivers

variable (coherent : host.symbols.Coherent)
  (few : (host.symbols.intern name encoding).2.size < SymbolTable.capacity)

include coherent few

theorem internString_delivers :
    Delivers (internString v : Native β ω Id) host name encoding := by
  have replied := holds.invoke_intern
  refine ⟨_, ?_, ⟨[.invoke _ _], congrArg Prod.snd replied⟩, rfl⟩
  apply Answers.bind (Native.onEngine_answers (Engine.perform_answers replied))
  exact toId_answers (coherent.symbolId?_intern few) _

theorem idOf_delivers : Delivers (idOf v : Native β ω Id) host name encoding := by
  have asked : (host.note Query.symbolP.name).Holds v name encoding := holds
  have askedAgain :
    ((host.note Query.symbolP.name).note Query.stringP.name).Holds v name encoding := holds
  obtain ⟨after, answers, leads, symbols⟩ :=
    internString_delivers (β := β) (ω := ω) askedAgain coherent few
  refine ⟨after, ?_, (leads_asked holds).trans leads, symbols⟩
  apply Answers.bind (symbol?_answers holds)
  exact .bind (Native.onEngine_answers (stringOf_answers asked)) answers

theorem toSymbol_delivers :
    Delivers (do
        let symbol ← raising (toSymbol v)
        raising (toId symbol) : Native β ω Id) host name encoding := by
  have replied := holds.invoke_toSymbol
  refine ⟨_, ?_, ⟨[.invoke _ _], congrArg Prod.snd replied⟩, rfl⟩
  apply Answers.bind (Native.onEngine_answers (Engine.perform_answers replied)).raising
  exact (toId_answers (coherent.symbolId?_intern few) _).raising

end Delivers

end Strings

theorem intern_delivers {name : Bytes} {encoding : Encoding} (coherent : host.symbols.Coherent)
    (few : (host.symbols.intern name encoding).2.size < SymbolTable.capacity)
    (room : host.objects.size < ObjectTable.capacity) :
    Delivers (intern name encoding : Native β ω Id) host name encoding := by
  obtain ⟨after, answers, leads, symbols⟩ :=
    internString_delivers (β := β) (ω := ω) (Host.newString_holds room name encoding) coherent few
  refine ⟨after, ?_, (host.leads_act (.newString name encoding)).trans leads, symbols⟩
  exact .bind (Native.onEngine_answers (Engine.newString_answers host name encoding)) answers

theorem isNil_symbol {id : Id} (shown : (Value.symbol id).symbolId? = some id) :
    (Value.symbol id).isNil = false := by
  apply decide_eq_false
  intro same
  rw [same] at shown
  cases shown

theorem existing_answers (room : host.objects.size < ObjectTable.capacity) (name : Bytes)
    (encoding : Encoding) :
    Answers (existing name encoding : Native β ω Value) host
      ((host.symbols.lookup? name encoding).elim .nil .symbol)
      ((host.newString name encoding).2.note Operation.checkSymbol.name) := by
  have replied := (Host.newString_holds room name encoding).invoke_checkSymbol
  apply Native.onEngine_answers
  exact .bind (Engine.newString_answers host name encoding) (Engine.perform_answers replied)

theorem existingId?_answers {v : Value} {name : Bytes} {encoding : Encoding}
    (holds : host.Holds v name encoding) (coherent : host.symbols.Coherent)
    (few : host.symbols.size < SymbolTable.capacity) :
    Answers (existingId? v : Native β ω (Option Id)) host (host.symbols.lookup? name encoding)
      (((host.note Query.symbolP.name).note Query.stringP.name).note
        Operation.checkSymbol.name) := by
  have asked : (host.note Query.symbolP.name).Holds v name encoding := holds
  have askedAgain :
    ((host.note Query.symbolP.name).note Query.stringP.name).Holds v name encoding := holds
  have replied := askedAgain.invoke_checkSymbol
  apply Answers.bind (symbol?_answers holds)
  cases known : host.symbols.lookup? name encoding with
  | none =>
      simp only [Host.note_symbols, known, Option.elim_none] at replied
      apply Answers.bind (Native.onEngine_answers
        (.bind (stringOf_answers asked) (Engine.perform_answers replied)))
      exact .pure _ none
  | some id =>
      obtain ⟨entry, found, _⟩ := (coherent.lookup_iff ..).mp known
      have shown := SymbolTable.symbolId?_symbol few found
      simp only [Host.note_symbols, known, Option.elim_some] at replied
      apply Answers.bind (Native.onEngine_answers
        (.bind (stringOf_answers asked) (Engine.perform_answers replied)))
      rw [isNil_symbol shown]
      exact .bind (toId_answers shown _) (.pure _ (some id))

/-- `rb_intern3`, `rb_intern2`, `rb_intern`, `rb_intern_str`, `rb_to_id`, and `rb_to_symbol` before
`SYM2ID`.  ASCII names are the same under every encoding, and C strings end at their first zero
octet. -/
inductive Interning (host : Host) (name : Bytes) (encoding : Encoding) : Native β ω Id → Prop
  | encoded {pointer : EncodingPointer} (known : pointer.resolve? = some encoding) :
      Interning host name encoding do
        let encoding ← raising (Strings.encodingOf pointer)
        raising (intern name encoding)
  | octets (plain : name.IsAscii ∨ encoding = .binary) :
      Interning host name encoding (raising (intern name .binary))
  | text (plain : name.IsAscii ∨ encoding = .binary) (noNul : 0 ∉ name) :
      Interning host name encoding (raising (intern name.beforeNul .binary))
  | string {v : Value} (holds : host.Holds v name encoding) :
      Interning host name encoding (raising (internString v))
  | idOf {v : Value} (holds : host.Holds v name encoding) :
      Interning host name encoding (raising (idOf v))
  | symbol {v : Value} (holds : host.Holds v name encoding) :
      Interning host name encoding do
        let symbol ← raising (toSymbol v)
        raising (toId symbol)

/-- `rb_check_id` and `rb_check_symbol_cstr`, with their answers on a hit and on a miss. -/
inductive Checking (host : Host) (name : Bytes) (encoding : Encoding) (id : Id) :
    {α : Type} → Native β ω α → α → α → Prop
  | string {v : Value} (holds : host.Holds v name encoding) :
      Checking host name encoding id (do return (← raising (existingId? v)).getD 0) id 0
  | encoded {pointer : EncodingPointer} (known : pointer.resolve? = some encoding) :
      Checking host name encoding id
        (do
          let encoding ← raising (Strings.encodingOf pointer)
          raising (existing name encoding))
        (.symbol id) .nil

theorem Interning.delivers {call : Native β ω Id} {name : Bytes} {encoding : Encoding}
    (interning : Interning host name encoding call) (coherent : host.symbols.Coherent)
    (few : (host.symbols.intern name encoding).2.size < SymbolTable.capacity)
    (room : host.objects.size < ObjectTable.capacity) :
    Delivers call host name encoding := by
  have inBinary (plain : name.IsAscii ∨ encoding = .binary) :
      Delivers (intern name .binary : Native β ω Id) host name encoding := by
    have same := host.symbols.intern_congr
      ((SymbolTable.normalize_eq_iff name encoding .binary).mpr plain)
    rw [same] at few
    rw [Delivers, same]
    exact intern_delivers coherent few room
  cases interning with
  | encoded known =>
      obtain ⟨after, answers, rest⟩ := (intern_delivers coherent few room).raising
      exact ⟨after, .bind (encodingOf_answers known host).raising answers, rest⟩
  | octets plain => exact (inBinary plain).raising
  | text plain noNul =>
      rw [Bytes.beforeNul_eq_self noNul]
      exact (inBinary plain).raising
  | string holds => exact (internString_delivers holds coherent few).raising
  | idOf holds => exact (idOf_delivers holds coherent few).raising
  | symbol holds => exact toSymbol_delivers holds coherent few

theorem Interning.answers_known {call : Native β ω Id} {name : Bytes} {encoding : Encoding}
    (interning : Interning host name encoding call) (coherent : host.symbols.Coherent)
    (few : host.symbols.size < SymbolTable.capacity)
    (room : host.objects.size < ObjectTable.capacity) {id : Id} {entry : SymbolEntry}
    (found : host.symbols.entry? id = some entry) (hasName : entry.name = name)
    (stored : entry.encoding = SymbolTable.normalize name encoding) :
    ∃ after, Answers call host id after ∧ host.Leads after ∧ after.symbols = host.symbols := by
  subst hasName
  have same := coherent.intern_of_entry found stored
  have small : (host.symbols.intern entry.name encoding).2.size < SymbolTable.capacity := by
    rw [same]
    exact few
  have delivers := interning.delivers coherent small room
  rw [Delivers, same] at delivers
  exact delivers

section Checking

variable {α : Type} {call : Native β ω α} {hit miss : α} {name : Bytes} {encoding : Encoding}

theorem Checking.apart {id : Id} (checking : Checking host name encoding id call hit miss)
    (shown : (Value.symbol id).symbolId? = some id) : hit ≠ miss := by
  cases checking with
  | string => exact (Value.symbolId?_eq_some_iff.mp shown).1
  | encoded => exact of_decide_eq_false (isNil_symbol shown)

theorem Checking.answers
    (checking : Checking host name encoding (host.symbols.intern name encoding).1 call hit miss)
    (coherent : host.symbols.Coherent) (few : host.symbols.size + 1 < SymbolTable.capacity)
    (room : host.objects.size < ObjectTable.capacity) :
    ∃ after,
      Answers call host
        (if (host.symbols.entry? (host.symbols.intern name encoding).1).isSome then hit else miss)
        after ∧
      host.Leads after ∧ after.symbols = host.symbols ∧
        after.objects.size ≤ host.objects.size + 1 := by
  have looked := coherent.lookup?_eq (Nat.lt_trans few (by decide)) name encoding
  cases checking with
  | string holds =>
      have askedAgain :
        ((host.note Query.symbolP.name).note Query.stringP.name).Holds _ name encoding := holds
      have answers :=
        existingId?_answers (β := β) (ω := ω) holds coherent (Nat.lt_of_succ_lt few)
      rw [looked] at answers
      refine ⟨_, .bind answers.raising ?_, (leads_asked holds).trans askedAgain.leads_checked, rfl,
        Nat.le_succ _⟩
      split <;> exact .pure _ _
  | encoded known =>
      have answers := existing_answers (β := β) (ω := ω) room name encoding
      have holds := Host.newString_holds room name encoding
      rw [looked, apply_ite fun known : Option Id => known.elim Value.nil .symbol] at answers
      exact ⟨_, .bind (encodingOf_answers known host).raising answers.raising,
        (host.leads_act (.newString name encoding)).trans holds.leads_checked, rfl,
        Nat.le_of_eq (ObjectTable.size_add _ _)⟩

end Checking

/-- Every way to intern a name hands out the same ID, before and after.  `rb_check_id` and
`rb_check_symbol_cstr` make no symbol, and find that ID unless interning would add the name to the
table. -/
theorem interning_agrees {host : Host} (reached : host.Reachable)
    (few : host.symbols.size + 1 < SymbolTable.capacity)
    (room : host.objects.size + 1 < ObjectTable.capacity) (name : Bytes) (encoding : Encoding) :
    ∃ id,
      (∀ call : Native β ω Id, Interning host name encoding call →
        ∃ after, Answers call host id after ∧ host.Leads after ∧
          (∃ entry, after.symbols.entry? id = some entry ∧ entry.name = name ∧
            entry.encoding = if name.IsAscii then .usAscii else encoding) ∧
          ∀ (later : Host) (again : Native β ω Id), after.Leads later →
            later.symbols.size < SymbolTable.capacity →
            later.objects.size < ObjectTable.capacity → Interning later name encoding again →
            ∃ last, Answers again later id last ∧ later.Leads last ∧
              last.symbols = later.symbols) ∧
      ∀ {α : Type} (call : Native β ω α) (hit miss : α),
        Checking host name encoding id call hit miss →
        ∃ answer after, Answers call host answer after ∧ host.Leads after ∧
          after.symbols = host.symbols ∧
          answer = (if (host.symbols.entry? id).isSome then hit else miss) ∧
          ∀ next : Native β ω Id, Interning after name encoding next →
            ∃ last, Answers next after id last ∧ after.Leads last ∧
              (answer = miss ↔ after.symbols.size < last.symbols.size) := by
  have coherent := reached.symbols_coherent (Nat.lt_of_succ_lt few)
  have small : (host.symbols.intern name encoding).2.size < SymbolTable.capacity :=
    Nat.lt_of_le_of_lt (SymbolTable.size_intern_le ..) few
  refine ⟨(host.symbols.intern name encoding).1, ?_, ?_⟩
  · intro call interning
    obtain ⟨after, answers, leads, symbols⟩ :=
      interning.delivers coherent small (Nat.lt_of_succ_lt room)
    obtain ⟨entry, found, rfl, stored⟩ := coherent.intern_entry (Nat.lt_trans small (by decide))
    rw [← symbols] at found
    refine ⟨after, answers, leads, ⟨entry, found, rfl, ?_⟩, ?_⟩
    · rw [stored, SymbolTable.normalize_eq]
    · intro later again leadsLater fewLater roomLater interningAgain
      have coherentLater := (reached.leads (leads.trans leadsLater)).symbols_coherent fewLater
      obtain ⟨entry', found', sameName, sameEncoding, _⟩ :=
        leadsLater.symbols_extend.entry _ entry found
      exact interningAgain.answers_known coherentLater fewLater roomLater found' sameName
        (sameEncoding.trans stored)
  · intro α call hit miss checking
    have apart := checking.apart (coherent.symbolId?_intern small)
    obtain ⟨after, answers, leads, symbols, size_le⟩ :=
      checking.answers coherent few (Nat.lt_of_succ_lt room)
    refine ⟨_, after, answers, leads, symbols, rfl, ?_⟩
    intro next interning
    rw [← symbols] at coherent small
    obtain ⟨last, delivered, leadsLast, symbolsLast⟩ :=
      interning.delivers coherent small (Nat.lt_of_le_of_lt size_le room)
    rw [symbols] at delivered symbolsLast coherent
    refine ⟨last, delivered, leadsLast, ?_⟩
    rw [symbols, symbolsLast, SymbolTable.lt_size_intern_iff,
      coherent.lookup?_eq (Nat.lt_trans few (by decide))]
    split
    next => simp [apart]
    next => simp

theorem interning_agrees_accent :
    ∃ (id : Id) (asked last after : Host),
      Answers (do return (← raising (existingId? (.handle 20))).getD 0 : Native Unit Unit Id)
        (Host.new.act (.newString (octets "\u00e9") .utf8)) 0 asked ∧
      Answers (do
          let encoding ← raising (Strings.encodingOf (.known .utf8))
          raising (intern (octets "\u00e9") encoding) : Native Unit Unit Id) asked id last ∧
      asked.symbols.size < last.symbols.size ∧
      Answers (raising (idOf (.handle 20)) : Native Unit Unit Id)
        (Host.new.act (.newString (octets "\u00e9") .utf8)) id after := by
  let host := Host.new.act (.newString (octets "\u00e9") .utf8)
  have reached : host.Reachable := Host.leads_act _ _
  have holds : host.Holds (.handle 20) (octets "\u00e9") .utf8 := ⟨_, rfl, rfl, rfl⟩
  obtain ⟨id, interned, looked⟩ := interning_agrees (β := Unit) (ω := Unit) reached (by decide)
    (by decide) (octets "\u00e9") .utf8
  obtain ⟨after, answersAfter, _⟩ := interned _ (.idOf holds)
  obtain ⟨answer, asked, answersAsked, _, _, unknown, following⟩ := looked _ _ _ (.string holds)
  have known : (EncodingPointer.known .utf8).resolve? = some .utf8 := rfl
  obtain ⟨last, answersLast, _, grows⟩ := following _ (.encoded known)
  have empty : host.symbols.entry? id = none := by
    change SymbolTable.entry? {} id = none
    simp [SymbolTable.entry?]
  rw [empty] at unknown
  subst unknown
  exact ⟨id, asked, last, after, answersAsked, answersLast, grows.mp rfl, answersAfter⟩

end Symbols

end NativeGate
