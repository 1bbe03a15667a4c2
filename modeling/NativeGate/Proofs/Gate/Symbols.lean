import NativeGate.Gate.Symbols
import NativeGate.Proofs.Gate.Basic
import NativeGate.Proofs.Host.NameStrings

namespace NativeGate

namespace Host

/-- A string with these octets under this encoding, frozen or not. -/
def Holds (host : Host) (v : Value) (name : Bytes) (encoding : Encoding) : Prop :=
  ∃ s, host.objects.string? v = some s ∧ s.bytes = name ∧ s.encoding = encoding

theorem newString_holds {host : Host} (room : host.objects.size < ObjectTable.capacity)
    (name : Bytes) (encoding : Encoding) :
    (host.newString name encoding).2.Holds (host.newString name encoding).1 name encoding :=
  ⟨_, newString_string? room name encoding, rfl, rfl⟩

theorem Holds.invoke_intern {host : Host} {v : Value} {name : Bytes} {encoding : Encoding}
    (holds : host.Holds v name encoding) :
    host.invoke Operation.intern.name [v] =
      (.value (.symbol (host.symbols.intern name encoding).1),
        { host.note Operation.intern.name with
          symbols := (host.symbols.intern name encoding).2 }) := by
  obtain ⟨s, found, rfl, rfl⟩ := holds
  have planned : (host.note Operation.intern.name).plan .intern [v] =
      .ok (.intern s.bytes s.encoding) := by
    rw [plan, stringArgument_note found]
    rfl
  exact invoke_of_plan planned

theorem complain_ne_value {α : Type} (host : Host) (complaint : Complaint) (a : α) :
    (host.complain complaint).1 ≠ Reply.value a := by
  cases complaint <;> simp [complain]

theorem invoke_symToId_ne_value {host : Host} {v : Value} (hidden : v.symbolId? = none)
    (answer : Value) : (host.invoke Operation.symToId.name [v]).1 ≠ .value answer := by
  cases planned : (host.note Operation.symToId.name).plan .symToId [v] with
  | ok effect =>
      simp only [plan, Planned.bind_eq_ok, symbolArgument_eq_ok] at planned
      obtain ⟨id, ⟨_, passed, known⟩, _⟩ := planned
      cases passed
      rw [(symbolId?_eq_some known).1] at hidden
      cases hidden
  | error complaint =>
      simp only [invoke, Operation.ofName?_name, perform, planned]
      exact complain_ne_value _ complaint answer

end Host

namespace Symbols

variable {β ω : Type} {gate gate' : Gate β ω} {host : Host}

theorem lookUpId_ne_ok {v : Value} (hidden : v.symbolId? = none) {engine engine' : Engine β}
    (unpinned : engine.pinned = []) (id : Id) :
    (lookUpId v).runOn engine ≠ (.ok id, engine') := by
  intro returned
  rw [lookUpId, Proc.runOn_bind_eq_ok] at returned
  obtain ⟨answer, _, answered, _⟩ := returned
  rw [Engine.runOn_perform unpinned, Engine.runOn_asking] at answered
  split at answered
  next a _ replied =>
      exact Host.invoke_symToId_ne_value hidden a (congrArg Prod.fst replied)
  next => cases answered
  next => cases answered

theorem toId_eq_ok (routed : gate.Routes host) {v : Value} {id : Id} :
    (toId v : Native β ω Id).runOn gate = (.ok id, gate') ↔
      v.symbolId? = some id ∧ gate' = gate := by
  unfold toId
  cases shown : v.symbolId? with
  | some other =>
      simp [eq_comm]
  | none =>
      obtain ⟨scope, current, _, unpinned⟩ := routed
      rw [Native.runOn_onEngine current]
      simp only [reduceCtorEq, false_and, iff_false]
      intro returned
      obtain ⟨result, _⟩ := Prod.ext_iff.mp returned
      exact lookUpId_ne_ok shown unpinned id (Prod.ext result rfl)

theorem symbolId?_symbol_eq_some {raw id : Id} (small : raw.toNat ≤ 2 ^ 56)
    (shown : (Value.symbol raw).symbolId? = some id) : raw = id := by
  obtain ⟨positive, bits⟩ := Value.symbolId?_eq_some_iff.mp shown
  have nonzero : id.toNat ≠ 0 := fun zero => positive (UInt64.toNat_inj.mp zero)
  rw [Value.toNat_bits_symbol] at bits
  rw [← UInt64.toNat_inj]
  omega

theorem intern_returned (routed : gate.Routes host) (coherent : host.symbols.Coherent)
    (few : host.symbols.size < SymbolTable.capacity)
    (room : host.objects.size < ObjectTable.capacity) {name : Bytes} {encoding : Encoding} {id : Id}
    (returned : (intern name encoding : Native β ω Id).runOn gate = (.ok id, gate')) :
    ∃ after, gate'.Routes after ∧ host.Leads after ∧ (Value.symbol id).symbolId? = some id ∧
      ∃ entry, after.symbols.entry? id = some entry ∧ entry.name = name ∧
        entry.encoding = SymbolTable.normalize name encoding := by
  have replied := (Host.newString_holds room name encoding).invoke_intern
  obtain ⟨_, made, routedMade⟩ := Native.onEngine_newString (ω := ω) routed name encoding
  obtain ⟨_, interned, routedInterned⟩ := Native.onEngine_perform (ω := ω) routedMade replied
  rw [intern, Proc.runOn_bind_of_ok made, internString, Proc.runOn_bind_of_ok interned,
    toId_eq_ok routedInterned] at returned
  obtain ⟨shown, rfl⟩ := returned
  have size_le := SymbolTable.size_intern_le host.symbols name encoding
  have fits : (host.symbols.intern name encoding).2.size ≤ 2 ^ 56 := by
    unfold SymbolTable.capacity at few
    omega
  obtain ⟨entry, found, hasName, hasEncoding⟩ :=
    coherent.intern_entry (Nat.lt_of_le_of_lt fits (by decide))
  obtain ⟨_, inside⟩ := (SymbolTable.entry?_isSome_iff _ _).mp
    (Option.isSome_iff_exists.mpr ⟨entry, found⟩)
  have same := symbolId?_symbol_eq_some (Nat.le_trans inside fits) shown
  refine ⟨_, routedInterned, ?_, same ▸ shown, entry, ?_, hasName, hasEncoding⟩
  · exact (host.leads_act (.newString name encoding)).trans
      ⟨[.invoke _ _], congrArg Prod.snd replied⟩
  · rw [← same]
    exact found

/-- `rb_id2str`, and `rb_sym2str` on the symbol. -/
def nameCalls (id : UInt64) : List (Native β ω Value) :=
  [Native.raising (nameStringOfId id),
    do
      let id ← Native.raising (checkId id)
      Native.raising (nameString (.symbol id))]

theorem runOn_nameCall {call : Native β ω Value} {id : UInt64} (member : call ∈ nameCalls id)
    (positive : id ≠ 0) :
    ∃ op ∈ Host.nameOperations, ∀ {gate gate' : Gate β ω} {text : Value},
      (Native.onEngine (Engine.perform op [.symbol id])).runOn gate = (.ok text, gate') →
      call.runOn gate = (.ok text, gate') := by
  simp only [nameCalls, List.mem_cons, List.not_mem_nil, or_false] at member
  obtain rfl | rfl := member
  · refine ⟨.idToString, by simp [Host.nameOperations], fun answered => ?_⟩
    rw [Native.raising_eq_ok, nameStringOfId, if_neg positive]
    exact answered
  · refine ⟨.symToString, by simp [Host.nameOperations], fun {gate _ _} answered => ?_⟩
    have checked : (Native.raising (checkId id) : Native β ω Id).runOn gate = (.ok id, gate) := by
      rw [Native.raising_eq_ok, checkId, if_neg positive]
      rfl
    rw [Proc.runOn_bind_of_ok checked, Native.raising_eq_ok]
    exact answered

/-- `rb_id2str` and `rb_sym2str` answer with the same frozen string in every later state, and only
the first call makes it. -/
theorem name_round_trip (reached : host.Reachable) (routed : gate.Routes host)
    (few : host.symbols.size < SymbolTable.capacity)
    (room : host.objects.size < ObjectTable.capacity) {name : Bytes} {encoding : Encoding} {id : Id}
    (interned : (Native.raising (intern name encoding)).runOn gate = (.ok id, gate')) :
    ∃ after, gate'.Routes after ∧ host.Leads after ∧
      ∀ (first : Host) (asked : Gate β ω) (call : Native β ω Value), after.Leads first →
        asked.Routes first → first.objects.size < ObjectTable.capacity → call ∈ nameCalls id →
        ∃ text called answered, call.runOn asked = (.ok text, answered) ∧
          answered.Routes called ∧ first.Leads called ∧
          called.objects.size ≤ first.objects.size + 1 ∧
          ∀ second, called.Leads second →
            second.objects.string? text = some {
              bytes := name
              encoding := if name.IsAscii then .usAscii else encoding
              coderange := Coderange.scan name (if name.IsAscii then .usAscii else encoding)
              frozen := true } ∧
            ∀ (askedAgain : Gate β ω) (again : Native β ω Value), askedAgain.Routes second →
              again ∈ nameCalls id →
              ∃ last answeredAgain, again.runOn askedAgain = (.ok text, answeredAgain) ∧
                answeredAgain.Routes last ∧ second.Leads last ∧
                last.objects = second.objects := by
  have coherent := reached.symbols_coherent few
  obtain ⟨after, routedAfter, leads, shown, entry, found, rfl, hasEncoding⟩ :=
    intern_returned routed coherent few room (Native.raising_eq_ok.mp interned)
  have positive := (Value.symbolId?_eq_some_iff.mp shown).1
  refine ⟨after, routedAfter, leads, ?_⟩
  intro first asked call leadsFirst routedFirst roomFirst member
  obtain ⟨op, asksName, answers⟩ := runOn_nameCall member positive
  obtain ⟨entryFirst, foundFirst, nameFirst, encodingFirst, _⟩ :=
    leadsFirst.symbols_extend.entry id entry found
  have held : first.NamesHeld :=
    Host.Leads.namesHeld (reached.leads (leads.trans leadsFirst)) Host.new_namesHeld
      (Nat.le_of_lt roomFirst)
  obtain ⟨text, called, replied, stored, ⟨entryCalled, foundCalled, remembered⟩, small⟩ :=
    Host.invoke_name asksName shown foundFirst held roomFirst
  obtain ⟨answered, ran, routedCalled⟩ := Native.onEngine_perform (ω := ω) routedFirst replied
  have leadsCalled : first.Leads called :=
    ⟨[.invoke op.name [.symbol id]], congrArg Prod.snd replied⟩
  refine ⟨text, called, answered, answers ran, routedCalled, leadsCalled, small, ?_⟩
  intro second leadsSecond
  constructor
  · -- Nothing that happened in between could change the string.
    obtain ⟨_, _, storedSecond, turned⟩ := leadsSecond.becomes stored
    rw [turned.eq_of_name] at storedSecond
    rw [ObjectTable.string?, storedSecond, ManagedString.ofName_eq, nameFirst, encodingFirst,
      hasEncoding, SymbolTable.normalize_eq]
  · intro askedAgain again routedSecond memberAgain
    obtain ⟨opAgain, asksNameAgain, answersAgain⟩ := runOn_nameCall memberAgain positive
    obtain ⟨entrySecond, foundSecond, _, _, kept⟩ :=
      leadsSecond.symbols_extend.entry id entryCalled foundCalled
    have repliedAgain :=
      Host.invoke_name_remembered asksNameAgain shown foundSecond (kept text remembered)
    obtain ⟨answeredAgain, ranAgain, routedLast⟩ :=
      Native.onEngine_perform (ω := ω) routedSecond repliedAgain
    exact ⟨second.note opAgain.name, answeredAgain, answersAgain ranAgain, routedLast,
      ⟨[.invoke opAgain.name [.symbol id]], congrArg Prod.snd repliedAgain⟩, rfl⟩

theorem name_round_trip_asked_twice :
    ∃ (interned answered answeredAgain : Gate Unit Unit) (text : Value),
      (Native.raising (intern (octets "each") .utf8)).runOn (.installed ()) = (.ok 1, interned) ∧
      (Native.raising (nameStringOfId 1)).runOn interned = (.ok text, answered) ∧
      (do
        let id ← Native.raising (checkId 1)
        Native.raising (nameString (.symbol id))).runOn answered = (.ok text, answeredAgain) := by
  let interned : Gate Unit Unit :=
    ((Native.raising (intern (octets "each") .utf8)).runOn (.installed ())).2
  have returned :
      (Native.raising (intern (octets "each") .utf8)).runOn (.installed ()) = (.ok 1, interned) :=
    Prod.ext rfl rfl
  obtain ⟨after, routedAfter, _, asking⟩ :=
    name_round_trip (Host.Leads.refl _) (Gate.installed_routes () {}) (by decide) (by decide)
      returned
  have room : after.objects.size < ObjectTable.capacity := by
    obtain ⟨scope, current, rfl, _⟩ := routedAfter
    cases current
    decide
  obtain ⟨text, called, answered, ran, routedCalled, _, _, later⟩ :=
    asking after interned _ (.refl after) routedAfter room (.head _)
  obtain ⟨_, again⟩ := later called (.refl called)
  obtain ⟨_, answeredAgain, ranAgain, _⟩ := again answered _ routedCalled (.tail _ (.head _))
  exact ⟨interned, answered, answeredAgain, text, returned, ran, ranAgain⟩

end Symbols

end NativeGate
