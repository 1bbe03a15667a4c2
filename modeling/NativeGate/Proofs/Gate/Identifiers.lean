import NativeGate.Proofs.Gate.Interning
import NativeGate.Proofs.Gate.Protected

namespace NativeGate

/-! IDs passed as numbers.  They go to the engine in the word of a symbol, which has no room for
their topmost octet. -/

namespace Host

theorem symbolId?_symbol_eq {host : Host} {raw : UInt64} :
    host.symbolId? (.symbol raw) =
      (host.symbols.entry? (Value.keptId raw)).map fun _ => Value.keptId raw := by
  cases found : host.symbols.entry? (Value.keptId raw) with
  | some entry =>
      have positive : Value.keptId raw ≠ 0 := by
        intro zero
        rw [zero] at found
        simp [SymbolTable.entry?] at found
      have shown := Value.symbolId?_symbol_eq_some_iff.mpr ⟨positive, rfl⟩
      simp [symbolId?, shown, found]
  | none =>
      rw [Option.map_none, symbolId?, Option.filter_eq_none_iff]
      intro id shown
      obtain ⟨-, rfl⟩ := Value.symbolId?_symbol_eq_some_iff.mp shown
      simp [found]

section Stranger

variable {host : Host} {raw : UInt64}
  (stranger : host.symbols.entry? (Value.keptId raw) = none)

include stranger

theorem inspect?_stranger :
    host.inspect? (.symbol raw) =
      some (octets "#<Object:" ++ Numeral.address (Value.symbol raw).bits ++ octets ">") := by
  have bits := Value.toNat_bits_symbol raw
  have other (v : Value) (low : v.bits.toNat % 256 ≠ 12) : Value.symbol raw ≠ v := by
    rintro rfl
    omega
  have unknown : host.symbolId? (.symbol raw) = none := by
    rw [symbolId?_symbol_eq, stranger, Option.map_none]
  have notFixnum : (Value.symbol raw).asFixnum? = none := by
    rw [Value.asFixnum?, if_neg]
    rw [Value.isFixnum_iff, bits]
    omega
  have leaf : host.inspectLeaf? (.symbol raw) = none := by
    rw [inspectLeaf?, if_neg (other _ (by decide)), if_neg (other _ (by decide)),
      if_neg (other _ (by decide)), if_neg (other _ (by decide)), notFixnum, unknown]
  have noObject : host.objects.get? (.symbol raw) = none := by
    rw [Option.eq_none_iff_forall_ne_some]
    intro object found
    obtain ⟨position, multiple, -⟩ := ObjectTable.get?_eq_some_iff.mp found
    omega
  rw [inspect?, inspectWithin]
  simp only [leaf, noObject]

def strangerText (raw : UInt64) : Bytes :=
  octets "#<Object:" ++ Numeral.address (Value.symbol raw).bits ++ octets ">" ++
    octets " is not a symbol"

theorem symbolArgument_stranger (op : Operation) :
    host.symbolArgument op [.symbol raw] 0 = .error (.raise .typeError (strangerText raw)) := by
  have unknown : host.symbolId? (.symbol raw) = none := by
    rw [symbolId?_symbol_eq, stranger, Option.map_none]
  simp [symbolArgument, argument, asSymbol, unknown, complainOf, inspected,
    inspect?_stranger stranger, typeError, strangerText, bind, Except.bind]

end Stranger

theorem invoke_idAttrset {host : Host} {id : Id} {entry : SymbolEntry}
    (shown : (Value.symbol id).symbolId? = some id)
    (found : host.symbols.entry? id = some entry) :
    host.invoke Operation.idAttrset.name [.symbol id] =
      (.value (.symbol (host.symbols.intern (entry.name ++ octets "=") entry.encoding).1),
        { host.note Operation.idAttrset.name with
          symbols := (host.symbols.intern (entry.name ++ octets "=") entry.encoding).2 }) := by
  have known : (host.note Operation.idAttrset.name).symbolId? (.symbol id) = some id :=
    symbolId?_symbol shown found
  have argument : (host.note Operation.idAttrset.name).symbolArgument .idAttrset [.symbol id] 0 =
      .ok id := symbolArgument_eq_ok.mpr ⟨_, rfl, known⟩
  have planned : (host.note Operation.idAttrset.name).plan .idAttrset [.symbol id] =
      .ok (.intern (entry.name ++ octets "=") entry.encoding) := by
    simp [plan, argument, symbolParts, found, bind, Except.bind, pure, Except.pure]
  exact invoke_of_plan planned

end Host

namespace Engine

variable {α β : Type}

/-- With nothing pinned the call hands back this exception, and what it does to the host is all it
does. -/
def Refuses (p : Proc (Engine β) α) (host : Host) (exception : Value) (after : Host) : Prop :=
  ∀ engine : Engine β, engine.host = host → engine.pinned = [] →
    p.runOn engine = (.error (.failed (.raised exception)), { engine with host := after })

variable {host after : Host} {exception : Value} {args : List Value}

theorem readString_answers {string : Value} {s : ManagedString}
    (found : host.objects.string? string = some s) :
    Answers (readString string : Proc (Engine β) Bytes) host s.bytes host := by
  intro engine hasHost _
  rw [readString, runOn_asking, hasHost, Host.readString, found]

theorem perform_refuses {op : Operation}
    (raised : host.invoke op.name args = (.raised exception, after)) :
    Refuses (perform op args : Proc (Engine β) Value) host exception after := by
  intro engine hasHost unpinned
  rw [runOn_perform unpinned, runOn_asking, hasHost, raised]

theorem ask_refuses {query : Query}
    (raised : host.invokePredicate query.name args = (.raised exception, after)) :
    Refuses (ask query args : Proc (Engine β) Bool) host exception after := by
  intro engine hasHost unpinned
  rw [ask, predicateNamed, runOn_unlessPinned unpinned, runOn_asking, hasHost, raised]

end Engine

namespace Native

variable {α γ β ω : Type}

/-- Through any gate to the host the call ends this way, and the gate then leads to `after`. -/
def Exits (call : Native β ω α) (host : Host) (exit : Exit) (after : Host) : Prop :=
  ∀ gate : Gate β ω, gate.Routes host →
    ∃ gate', call.runOn gate = (.error exit, gate') ∧ gate'.Routes after

section Exits

variable {call : Native β ω α} {host middle after : Host} {exit : Exit} {exception : Value}

theorem onEngine_exits {p : Proc (Engine β) α} (refuses : Engine.Refuses p host exception after) :
    Exits (onEngine p : Native β ω α) host (.failed (.raised exception)) after :=
  fun _ routed => onEngine_of_routes routed refuses

theorem Exits.bind (exits : Exits call host exit after) (next : α → Native β ω γ) :
    Exits (call >>= next) host exit after := by
  intro gate routed
  obtain ⟨gate', ran, routedAfter⟩ := exits gate routed
  exact ⟨gate', Proc.runOn_bind_of_error ran, routedAfter⟩

theorem Answers.bind_exits {a : α} {next : α → Native β ω γ} (first : Answers call host a middle)
    (rest : Exits (next a) middle exit after) : Exits (call >>= next) host exit after := by
  intro gate routed
  obtain ⟨between, ran, routedBetween⟩ := first gate routed
  rw [Proc.runOn_bind_of_ok ran]
  exact rest between routedBetween

theorem Exits.raising (exits : Exits call host (.failed (.raised exception)) after) :
    Exits (raising call) host (.raised exception) after := by
  intro gate routed
  obtain ⟨gate', ran, routedAfter⟩ := exits gate routed
  refine ⟨gate', ?_, routedAfter⟩
  obtain ⟨scope, current, -⟩ := routedAfter
  rw [runOn_raising, ran]
  dsimp only
  rw [runOn_raiseFault_raised, Gate.raisedAgain, current]
  rfl

theorem Exits.raising_fresh {fault : Fault} {kind : ErrorKind} {message : Bytes}
    (exits : Exits call host (.failed fault) after)
    (counterpart : fault.counterpart = .fresh kind message) :
    Exits (Native.raising call) host (.raised (after.newException kind message).1)
      (after.newException kind message).2 := by
  intro gate routed
  obtain ⟨between, ran, scope, current, rfl, unpinned⟩ := exits gate routed
  refine ⟨between.changeHost scope.engine (·.newException kind message |>.2), ?_, scope, current,
    by rw [Gate.engine_changeHost], by simpa using unpinned⟩
  rw [runOn_raising, ran]
  dsimp only
  rw [runOn_raiseFault current, counterpart]

end Exits

end Native

namespace Symbols

open Native (Answers Exits raising)

variable {α β ω : Type} {host : Host} {raw : UInt64}

def nameTest? : Query → Option (Bytes → Bool)
  | .isClassId => some SymbolName.isClassVariable
  | .isConstId => some SymbolName.isConstant
  | .isInstanceId => some SymbolName.isInstanceVariable
  | .symbolP | .stringP | .categoryEnabledP | .isKindOf => none

/-- Calls that are passed an ID as a number, and what their answer has to be if it is one in use. -/
inductive Asking (raw : UInt64) :
    {α : Type} → Native β ω α → (SymbolEntry → Host → α → Prop) → Prop
  | string : Asking raw (raising (nameStringOfId raw)) fun entry after text =>
      after.objects.string? text = some (.ofName entry.name entry.encoding)
  | name : Asking raw (raising (name? raw)) fun entry _ name =>
      name = some entry.name.beforeNul
  | setter :
      Asking raw
        (do
          let id ← raising (checkId raw)
          raising (setterId id))
        fun entry after id => ∃ setter, after.symbols.entry? id = some setter ∧
          setter.name = entry.name ++ octets "=" ∧
          setter.encoding = SymbolTable.normalize setter.name entry.encoding
  | query {query : Query} {test : Bytes → Bool} (tests : nameTest? query = some test) :
      Asking raw
        (do
          let id ← raising (checkId raw)
          raising (classify query id))
        fun entry _ b => b = test entry.name

theorem checkId_answers (nonzero : raw ≠ 0) (host : Host) :
    Answers (raising (checkId raw) : Native β ω Id) host raw host := by
  rw [checkId, if_neg nonzero]
  exact (Answers.pure host raw).raising

theorem answer_nameTest? {query : Query} {test : Bytes → Bool} (tests : nameTest? query = some test)
    {args : List Value} {id : Id}
    (passed : host.symbolArgument (.ask query) args 0 = .ok id) :
    host.answer query args = .ok (test (host.symbolName id)) := by
  cases query <;> cases tests <;> simp [Host.answer, passed, bind, Except.bind, pure, Except.pure]

theorem classify_answers {query : Query} {test : Bytes → Bool}
    (tests : nameTest? query = some test) {id : Id} {entry : SymbolEntry}
    (shown : (Value.symbol id).symbolId? = some id)
    (found : host.symbols.entry? id = some entry) :
    Answers (classify query id : Native β ω Bool) host (test entry.name)
      (host.note query.name) := by
  have known : (host.note query.name).symbolId? (.symbol id) = some id :=
    Host.symbolId?_symbol shown found
  have answered := answer_nameTest? tests
    (Host.symbolArgument_eq_ok.mpr ⟨_, rfl, known⟩ :
      (host.note query.name).symbolArgument (.ask query) [.symbol id] 0 = .ok id)
  have named : (host.note query.name).symbolName id = entry.name := by
    simp [Host.symbolName, SymbolTable.name?, found]
  rw [named] at answered
  exact Native.onEngine_answers (Engine.ask_answers (Host.invokePredicate_of_answer answered))

theorem setterId_delivers {id : Id} {entry : SymbolEntry} (coherent : host.symbols.Coherent)
    (small : (host.symbols.intern (entry.name ++ octets "=") entry.encoding).2.size <
      SymbolTable.capacity)
    (shown : (Value.symbol id).symbolId? = some id)
    (found : host.symbols.entry? id = some entry) :
    Delivers (setterId id : Native β ω Id) host (entry.name ++ octets "=") entry.encoding := by
  have replied := Host.invoke_idAttrset shown found
  refine ⟨_, ?_, ⟨[.invoke _ _], congrArg Prod.snd replied⟩, rfl⟩
  exact (Native.onEngine_answers (Engine.perform_answers replied)).bind
    (toId_answers (coherent.symbolId?_intern small) _)

section Known

variable (reached : host.Reachable) (few : host.symbols.size + 1 < SymbolTable.capacity)
  (room : host.objects.size < ObjectTable.capacity) {id : Id} {entry : SymbolEntry}
  (shown : (Value.symbol id).symbolId? = some id) (found : host.symbols.entry? id = some entry)

include reached room shown found in
theorem nameStringOfId_answers :
    ∃ text after, Answers (nameStringOfId id : Native β ω Value) host text after ∧
      host.Leads after ∧ after.objects.string? text = some (.ofName entry.name entry.encoding) := by
  have held : host.NamesHeld :=
    Host.Leads.namesHeld reached Host.new_namesHeld (Nat.le_of_lt room)
  obtain ⟨text, after, replied, stored, -, -⟩ :=
    Host.invoke_name (show .idToString ∈ Host.nameOperations by simp [Host.nameOperations]) shown
      found held room
  refine ⟨text, after, ?_, ⟨[.invoke _ _], congrArg Prod.snd replied⟩,
    ObjectTable.string?_eq_some_iff.mpr stored⟩
  rw [nameStringOfId, if_neg (Value.symbolId?_eq_some_iff.mp shown).1]
  exact Native.onEngine_answers (Engine.perform_answers replied)

include reached room shown found in
theorem name?_answers :
    ∃ after, Answers (name? id : Native β ω (Option Bytes)) host (some entry.name.beforeNul) after ∧
      host.Leads after := by
  obtain ⟨text, after, answers, leads, stored⟩ :=
    nameStringOfId_answers (β := β) (ω := ω) reached room shown found
  refine ⟨after, ?_, leads⟩
  rw [name?, if_neg (Value.symbolId?_eq_some_iff.mp shown).1]
  exact answers.bind ((Native.onEngine_answers (Engine.readString_answers stored)).bind
    (.pure after _))

include reached few shown found in
theorem setterId_answers :
    ∃ setterId' after, Answers (setterId id : Native β ω Id) host setterId' after ∧
      host.Leads after ∧ ∃ setter, after.symbols.entry? setterId' = some setter ∧
        setter.name = entry.name ++ octets "=" ∧
        setter.encoding = SymbolTable.normalize setter.name entry.encoding := by
  have coherent := reached.symbols_coherent (Nat.lt_of_succ_lt few)
  have small : (host.symbols.intern (entry.name ++ octets "=") entry.encoding).2.size <
      SymbolTable.capacity := Nat.lt_of_le_of_lt (SymbolTable.size_intern_le ..) few
  obtain ⟨after, answers, leads, symbols⟩ :=
    setterId_delivers (β := β) (ω := ω) coherent small shown found
  obtain ⟨setter, foundSetter, hasName, hasEncoding⟩ :=
    coherent.intern_entry (Nat.lt_trans small (by decide))
  rw [← symbols] at foundSetter
  rw [← hasName] at hasEncoding
  exact ⟨_, after, answers, leads, setter, foundSetter, hasName, hasEncoding⟩

end Known

section Asking

variable {call : Native β ω α} {tells : SymbolEntry → Host → α → Prop}
  (asking : Asking raw call tells) (nonzero : raw ≠ 0)

include asking nonzero

theorem Asking.answers (reached : host.Reachable)
    (few : host.symbols.size + 1 < SymbolTable.capacity)
    (room : host.objects.size < ObjectTable.capacity) {entry : SymbolEntry}
    (found : host.symbols.entry? (Value.keptId raw) = some entry) :
    ∃ a after, Answers call host a after ∧ host.Leads after ∧ tells entry after a := by
  have known : (Value.symbol raw).symbolId? = some (Value.keptId raw) := by
    have stands : host.symbolId? (.symbol raw) = some (Value.keptId raw) := by
      rw [Host.symbolId?_symbol_eq, found, Option.map_some]
    exact (Host.symbolId?_eq_some stands).1
  have positive := (Value.symbolId?_eq_some_iff.mp known).1
  rw [← Value.symbol_keptId] at known
  have sameString :
      (nameStringOfId raw : Native β ω Value) = nameStringOfId (Value.keptId raw) := by
    rw [nameStringOfId, nameStringOfId, if_neg nonzero, if_neg positive, Value.symbol_keptId]
  cases asking with
  | string =>
      obtain ⟨text, after, answers, leads, stored⟩ :=
        nameStringOfId_answers (β := β) (ω := ω) reached room known found
      rw [sameString]
      exact ⟨text, after, answers.raising, leads, stored⟩
  | name =>
      have same : (name? raw : Native β ω (Option Bytes)) = name? (Value.keptId raw) := by
        rw [name?, name?, if_neg nonzero, if_neg positive, sameString]
      obtain ⟨after, answers, leads⟩ := name?_answers (β := β) (ω := ω) reached room known found
      rw [same]
      exact ⟨_, after, answers.raising, leads, rfl⟩
  | setter =>
      have same : (setterId raw : Native β ω Id) = setterId (Value.keptId raw) := by
        rw [setterId, setterId, Value.symbol_keptId]
      obtain ⟨id, after, answers, leads, names⟩ :=
        setterId_answers (β := β) (ω := ω) reached few known found
      rw [← same] at answers
      exact ⟨id, after, (checkId_answers nonzero host).bind answers.raising, leads, names⟩
  | @query query test tests =>
      have same : (classify query raw : Native β ω Bool) = classify query (Value.keptId raw) := by
        rw [classify, classify, Value.symbol_keptId]
      have answers := classify_answers (β := β) (ω := ω) tests known found
      rw [← same] at answers
      have passed : (host.note query.name).symbolArgument (.ask query)
          [.symbol (Value.keptId raw)] 0 = .ok (Value.keptId raw) :=
        Host.symbolArgument_eq_ok.mpr ⟨_, rfl, Host.symbolId?_symbol known found⟩
      have replied := Host.invokePredicate_of_answer (answer_nameTest? tests passed)
      exact ⟨_, _, (checkId_answers nonzero host).bind answers.raising,
        ⟨[.invokePredicate _ _], congrArg Prod.snd replied⟩, rfl⟩

theorem Asking.exits (room : host.objects.size < ObjectTable.capacity)
    (stranger : host.symbols.entry? (Value.keptId raw) = none) :
    ∃ exception after, Exits call host (.raised exception) after ∧ host.Leads after ∧
      after.objects.get? exception =
        some (.exception ErrorKind.typeError.value (Host.strangerText raw)) ∧
      after.symbols = host.symbols := by
  have created (name : String) :=
    (host.note name).newException_get? room (show ErrorKind.typeError ≠ .noMemoryError from nofun)
      (Host.strangerText raw)
  have performed (op : Operation)
      (planned : ∀ host : Host, host.symbols.entry? (Value.keptId raw) = none →
        host.plan op [.symbol raw] = .error (.raise .typeError (Host.strangerText raw))) :
      host.invoke op.name [.symbol raw] =
        (host.note op.name).complain (.raise .typeError (Host.strangerText raw)) :=
    Host.invoke_of_complaint (planned _ stranger)
  cases asking with
  | string =>
      have refused := performed .idToString fun host stranger => by
        simp [Host.plan, Host.symbolArgument_stranger stranger, bind, Except.bind]
      refine ⟨_, _, ?_, ⟨[.invoke _ _], congrArg Prod.snd refused⟩, created _, rfl⟩
      rw [nameStringOfId, if_neg nonzero]
      exact (Native.onEngine_exits (Engine.perform_refuses refused)).raising
  | name =>
      have refused := performed .idToString fun host stranger => by
        simp [Host.plan, Host.symbolArgument_stranger stranger, bind, Except.bind]
      refine ⟨_, _, ?_, ⟨[.invoke _ _], congrArg Prod.snd refused⟩, created _, rfl⟩
      rw [name?, nameStringOfId, if_neg nonzero, if_neg nonzero]
      exact ((Native.onEngine_exits (Engine.perform_refuses refused)).bind _).raising
  | setter =>
      have refused := performed .idAttrset fun host stranger => by
        simp [Host.plan, Host.symbolArgument_stranger stranger, bind, Except.bind]
      refine ⟨_, _, ?_, ⟨[.invoke _ _], congrArg Prod.snd refused⟩, created _, rfl⟩
      refine (checkId_answers nonzero host).bind_exits ?_
      exact ((Native.onEngine_exits (Engine.perform_refuses refused)).bind _).raising
  | @query query test tests =>
      have answered : (host.note query.name).answer query [.symbol raw] =
          .error (.raise .typeError (Host.strangerText raw)) := by
        have unknown : (host.note query.name).symbols.entry? (Value.keptId raw) = none := stranger
        have passed := Host.symbolArgument_stranger unknown (.ask query)
        cases query <;> cases tests <;> simp [Host.answer, passed, bind, Except.bind]
      have refused := Host.invokePredicate_of_complaint answered
      refine ⟨_, _, ?_, ⟨[.invokePredicate _ _], congrArg Prod.snd refused⟩, created _, rfl⟩
      refine (checkId_answers nonzero host).bind_exits ?_
      exact (Native.onEngine_exits (Engine.ask_refuses refused)).raising

end Asking

/-- The six calls answer a number by the ID its symbol word keeps, and succeed exactly if that ID is
in use.  The number itself is meant only as long as its topmost octet is zero. -/
theorem ids_of_numbers {host : Host} (reached : host.Reachable)
    (few : host.symbols.size + 1 < SymbolTable.capacity)
    (room : host.objects.size < ObjectTable.capacity) {raw : UInt64} (nonzero : raw ≠ 0)
    {call : Native β ω α} {tells : SymbolEntry → Host → α → Prop} (asking : Asking raw call tells)
    {gate : Gate β ω} (routed : gate.Routes host) :
    ∃ result gate' after, call.runOn gate = (result, gate') ∧ gate'.Routes after ∧
      host.Leads after ∧
      ((∃ a, result = .ok a) ↔
        1 ≤ (Value.keptId raw).toNat ∧ (Value.keptId raw).toNat ≤ host.symbols.size) ∧
      (∀ a, result = .ok a → ∃ entry, host.symbols.entry? (Value.keptId raw) = some entry ∧
        tells entry after a) ∧
      (∀ exit, result = .error exit → after.symbols = host.symbols ∧
        ∃ exception, exit = .raised exception ∧ after.objects.get? exception =
          some (.exception ErrorKind.typeError.value (Host.strangerText raw))) ∧
      (raw.toNat < 2 ^ 56 → Value.keptId raw = raw) := by
  have inUse := SymbolTable.entry?_isSome_iff host.symbols (Value.keptId raw)
  cases found : host.symbols.entry? (Value.keptId raw) with
  | some entry =>
      obtain ⟨a, after, answers, leads, told⟩ := asking.answers nonzero reached few room found
      obtain ⟨gate', ran, routedAfter⟩ := answers gate routed
      rw [found] at inUse
      refine ⟨.ok a, gate', after, ran, routedAfter, leads, ?_, ?_, nofun, Value.keptId_eq_self⟩
      · exact iff_of_true ⟨a, rfl⟩ (inUse.mp rfl)
      · rintro _ ⟨⟩
        exact ⟨entry, rfl, told⟩
  | none =>
      obtain ⟨exception, after, exits, leads, created, symbols⟩ :=
        asking.exits nonzero room found
      obtain ⟨gate', ran, routedAfter⟩ := exits gate routed
      rw [found] at inUse
      refine ⟨.error _, gate', after, ran, routedAfter, leads, ?_, nofun, ?_,
        Value.keptId_eq_self⟩
      · exact iff_of_false nofun (mt inUse.mpr nofun)
      · rintro _ ⟨⟩
        exact ⟨symbols, exception, rfl, created⟩

theorem ids_of_numbers_one_handed_out :
    ∃ (interned known unknown : Gate Unit Unit) (text exception : Value),
      (raising (intern (octets "each") .utf8)).runOn (.installed ()) = (.ok 1, interned) ∧
      (raising (nameStringOfId 1)).runOn interned = (.ok text, known) ∧
      (raising (nameStringOfId 2)).runOn interned = (.error (.raised exception), unknown) := by
  let host := Host.new.actAll [.newString (octets "each") .utf8, .invoke "rb_intern" [.handle 20]]
  let interned : Gate Unit Unit :=
    ((raising (intern (octets "each") .utf8)).runOn (.installed ())).2
  have returned : (raising (intern (octets "each") .utf8)).runOn (.installed ()) =
      (.ok 1, interned) := Prod.ext rfl rfl
  have reached : host.Reachable := ⟨_, rfl⟩
  have routed : interned.Routes host := ⟨_, rfl, rfl, rfl⟩
  obtain ⟨result, known, _, ran, _, _, one, _⟩ :=
    ids_of_numbers reached (by decide) (by decide) (by decide : (1 : UInt64) ≠ 0) .string routed
  obtain ⟨text, rfl⟩ := one.mpr (by decide)
  obtain ⟨result, unknown, _, ranNext, _, _, two, _, refused, _⟩ :=
    ids_of_numbers reached (by decide) (by decide) (by decide : (2 : UInt64) ≠ 0) .string routed
  cases result with
  | ok a => exact absurd (two.mp ⟨a, rfl⟩) (by decide)
  | error exit =>
      obtain ⟨_, exception, rfl, _⟩ := refused exit rfl
      exact ⟨interned, known, unknown, text, exception, returned, ran, ranNext⟩

/-- `rb_id2str` answers for the ID one when asked about `2 ^ 56 + 1`. -/
theorem number_aliases_id :
    ∃ (interned answered : Gate Unit Unit) (host after : Host) (text : Value),
      (raising (intern (octets "each") .utf8)).runOn (.installed ()) = (.ok 1, interned) ∧
      interned.Routes host ∧ host.Reachable ∧ host.symbols.size = 1 ∧
      (raising (nameStringOfId 0x100000000000001)).runOn interned = (.ok text, answered) ∧
      answered.Routes after ∧
      after.objects.string? text = some (.ofName (octets "each") .usAscii) ∧
      ¬ (0x100000000000001 : UInt64).toNat ≤ host.symbols.size := by
  let host := Host.new.actAll [.newString (octets "each") .utf8, .invoke "rb_intern" [.handle 20]]
  let interned : Gate Unit Unit :=
    ((raising (intern (octets "each") .utf8)).runOn (.installed ())).2
  have reached : host.Reachable := ⟨_, rfl⟩
  have routed : interned.Routes host := ⟨_, rfl, rfl, rfl⟩
  have kept : Value.keptId 0x100000000000001 = 1 := by decide
  have found : host.symbols.entry? (Value.keptId 0x100000000000001) =
      some ⟨octets "each", .usAscii, none⟩ := by
    rw [kept]
    rfl
  obtain ⟨text, after, answers, _, stored⟩ :=
    Asking.string.answers (β := Unit) (ω := Unit) (by decide) reached (by decide) (by decide) found
  obtain ⟨answered, ran, routedAfter⟩ := answers interned routed
  exact ⟨interned, answered, host, after, text, Prod.ext rfl rfl, routed, reached, rfl, ran,
    routedAfter, stored, by decide⟩

end Symbols

end NativeGate
