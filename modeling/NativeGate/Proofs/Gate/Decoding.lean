import NativeGate.Proofs.Gate.Arrays
import NativeGate.Proofs.Gate.Identifiers
import NativeGate.Proofs.Tags

namespace NativeGate

namespace Value

def embeddedId (v : Value) : Id :=
  v.bits >>> 8

theorem toNat_embeddedId (v : Value) : v.embeddedId.toNat = v.bits.toNat / 256 := by
  simp [embeddedId, Nat.shiftRight_eq_div_pow]

section Tagged

variable {v : Value} (tagged : v.isSymbol = true)

include tagged

theorem symbolId?_of_tagged :
    v.symbolId? = if v.embeddedId = 0 then none else some v.embeddedId := by
  by_cases zero : v.embeddedId = 0 <;> simp_all [symbolId?, embeddedId]

theorem symbol_embeddedId : symbol v.embeddedId = v := by
  have low := (isSymbol_iff v).mp tagged
  have bits_lt := v.bits.toNat_lt
  rw [eq_iff_toNat, toNat_bits_symbol, toNat_embeddedId]
  omega

end Tagged

theorem toNat_embeddedId_lt (v : Value) : v.embeddedId.toNat < 2 ^ 56 := by
  have bits_lt := v.bits.toNat_lt
  rw [toNat_embeddedId]
  omega

theorem keptId_embeddedId (v : Value) : keptId v.embeddedId = v.embeddedId :=
  keptId_eq_self v.toNat_embeddedId_lt

end Value

namespace Host

variable {host : Host} {v : Value}

/-- The tag of a symbol, on an ID that is not in use. -/
def Forged (host : Host) (v : Value) : Prop :=
  v.isSymbol = true ∧ ¬ (1 ≤ v.embeddedId.toNat ∧ v.embeddedId.toNat ≤ host.symbols.size)

theorem symbolId?_of_genuine (tagged : v.isSymbol = true) (genuine : ¬ host.Forged v) :
    v.symbolId? = some v.embeddedId ∧ host.symbolId? v = some v.embeddedId := by
  have inUse : 1 ≤ v.embeddedId.toNat ∧ v.embeddedId.toNat ≤ host.symbols.size := by
    by_contra unused
    exact genuine ⟨tagged, unused⟩
  have shown : v.symbolId? = some v.embeddedId := by
    rw [Value.symbolId?_of_tagged tagged, if_neg]
    intro zero
    rw [zero] at inUse
    exact absurd inUse.1 (by decide)
  refine ⟨shown, ?_⟩
  simp [symbolId?, shown, (SymbolTable.entry?_isSome_iff _ _).mpr inUse]

theorem Forged.stranger (forged : host.Forged v) :
    host.symbols.entry? (Value.keptId v.embeddedId) = none := by
  rw [Value.keptId_embeddedId, ← Option.not_isSome_iff_eq_none]
  exact mt (SymbolTable.entry?_isSome_iff _ _).mp forged.2

theorem symbolId?_of_not_genuine (notGenuine : v.isSymbol = false ∨ host.Forged v) :
    host.symbolId? v = none := by
  obtain untagged | forged := notGenuine
  · rw [symbolId?, Value.symbolId?_of_untagged untagged]
    rfl
  · rw [← Value.symbol_embeddedId forged.1, symbolId?_symbol_eq, forged.stranger, Option.map_none]

theorem invoke_symToId_of_known {id : Id} (known : host.symbolId? v = some id) :
    host.invoke Operation.symToId.name [v] =
      (.value (Symbols.idArgument id), host.note Operation.symToId.name) := by
  have passed : (host.note Operation.symToId.name).symbolArgument .symToId [v] 0 = .ok id :=
    symbolArgument_eq_ok.mpr ⟨v, rfl, known⟩
  have planned : (host.note Operation.symToId.name).plan .symToId [v] =
      .ok (.reply (Symbols.idArgument id)) := by
    rw [plan, passed]
    rfl
  exact invoke_of_plan planned

theorem Forged.symToId_refused (forged : host.Forged v) :
    ∃ exception, (host.invoke Operation.symToId.name [v]).1 = .raised exception ∧
      host.Gains (.exception ErrorKind.typeError.value (strangerText v.embeddedId))
        [Operation.symToId.name] exception (host.invoke Operation.symToId.name [v]).2 := by
  have unknown : (host.note Operation.symToId.name).symbols.entry?
      (Value.keptId v.embeddedId) = none := forged.stranger
  have passed := symbolArgument_stranger unknown .symToId
  rw [Value.symbol_embeddedId forged.1] at passed
  have planned : (host.note Operation.symToId.name).plan .symToId [v] =
      .error (.raise .typeError (strangerText v.embeddedId)) := by
    rw [plan, passed]
    rfl
  rw [invoke_of_complaint planned]
  exact ⟨_, rfl, host.note_create_gains _ _⟩

theorem symbols_invoke_symToId (host : Host) (v : Value) :
    (host.invoke Operation.symToId.name [v]).2.symbols = host.symbols := by
  cases planned : (host.note Operation.symToId.name).plan .symToId [v] with
  | ok effect =>
      rw [invoke_of_plan planned]
      simp only [plan, Planned.bind_eq_ok, Planned.pure_eq_ok] at planned
      obtain ⟨id, -, rfl⟩ := planned
      rfl
  | error complaint =>
      rw [invoke_of_complaint planned]
      cases complaint with
      | raise kind message =>
          simp only [complain, newException]
          split <;> rfl
      | outOfMemory => rfl
      | endless => rfl

end Host

namespace Symbols

open Native (raising)

variable {β ω : Type} {host : Host} {v : Value}

theorem idResult?_idArgument {id : Id} (positive : id ≠ 0) (small : id.toNat < 2 ^ 56) :
    idResult? (idArgument id) = some id := by
  have signed : id.toInt64.toInt = id.toNat := by
    rw [Value.toInt_toInt64, Int.bmod]
    omega
  have read : (Value.fixnum id.toInt64).asFixnum? = some id.toInt64 := by
    rw [Value.asFixnum?_fixnum_iff, Value.fixnumRange_iff, signed]
    omega
  have nonzero : id.toInt64 ≠ 0 := by
    rintro zero
    exact positive (congrArg Int64.toUInt64 zero)
  rw [idResult?, idArgument, read, Option.bind_some, if_neg nonzero, UInt64.toUInt64_toInt64]

section Routed

variable {gate : Gate β ω} (routed : gate.Routes host)

include routed

/-- Native code goes by the tag alone. -/
theorem runOn_symbol? (v : Value) :
    let asked := (raising (symbol? v) : Native β ω Bool).runOn gate
    ∃ after, asked.2.Routes after ∧ asked.1 = .ok v.isSymbol ∧
      (after = host ∨ after = host.note Query.symbolP.name) := by
  intro asked
  cases tagged : v.isSymbol with
  | true =>
      have askedIs : asked = (.ok true, gate) := by
        rw [show asked = (raising (symbol? v) : Native β ω Bool).runOn gate from rfl, symbol?,
          if_pos tagged]
        rfl
      rw [askedIs]
      exact ⟨host, routed, rfl, .inl rfl⟩
  | false =>
      have answered := host.invokePredicate_symbolP v
      rw [Host.symbolId?_of_not_genuine (.inl tagged)] at answered
      have answers : Native.Answers (symbol? v : Native β ω Bool) host false
          (host.note Query.symbolP.name) := by
        rw [symbol?, tagged]
        exact Native.onEngine_answers (Engine.ask_answers answered)
      obtain ⟨gate', ran, routedAfter⟩ := answers.raising gate routed
      have askedIs : asked = (.ok false, gate') := ran
      rw [askedIs]
      exact ⟨_, routedAfter, rfl, .inr rfl⟩

theorem runOn_toId_of_hidden (hidden : v.symbolId? = none) :
    ∃ exit gate', (raising (toId v) : Native β ω Id).runOn gate = (.error exit, gate') ∧
      gate'.Routes (host.invoke Operation.symToId.name [v]).2 ∧
      ∀ exception, (host.invoke Operation.symToId.name [v]).1 = .raised exception →
        exit = .raised exception := by
  rw [toId, hidden]
  cases replied : host.invoke Operation.symToId.name [v] with
  | mk reply after =>
      cases reply with
      | value w => exact absurd (congrArg Prod.fst replied) (Host.invoke_symToId_ne_value hidden w)
      | raised exception =>
          have refuses : Engine.Refuses (lookUpId v : Proc (Engine β) Id) host exception after :=
            fun engine hasHost unpinned => Proc.runOn_bind_of_error
              (Engine.perform_refuses replied engine hasHost unpinned)
          obtain ⟨gate', ran, routedAfter⟩ := (Native.onEngine_exits refuses).raising gate routed
          exact ⟨_, gate', ran, routedAfter, by rintro _ ⟨⟩; rfl⟩
      | endless =>
          have aborts (engine : Engine β) (hasHost : engine.host = host)
              (unpinned : engine.pinned = []) :
              (lookUpId v).runOn engine = (.error .aborted, { engine with host := after }) := by
            apply Proc.runOn_bind_of_error
            rw [Engine.runOn_perform unpinned, Engine.runOn_asking, hasHost, replied]
          obtain ⟨gate', ran, routedAfter⟩ := Native.onEngine_of_routes (ω := ω) routed aborts
          refine ⟨.aborted, gate', ?_, routedAfter, ?_⟩
          · rw [Native.runOn_raising, ran]
          · rintro _ ⟨⟩

theorem runOn_toId_of_shown {id : Id} (shown : v.symbolId? = some id) :
    (raising (toId v) : Native β ω Id).runOn gate = (.ok id, gate) :=
  Native.raising_eq_ok.mpr ((toId_eq_ok routed).mpr ⟨shown, rfl⟩)

theorem runOn_toId_of_genuine (genuine : ¬ host.Forged v) :
    let decoded := (raising (toId v) : Native β ω Id).runOn gate
    let reply := host.invoke Operation.symToId.name [v]
    ∃ after, decoded.2.Routes after ∧ after.symbols = host.symbols ∧
      (∀ id, decoded.1 = .ok id → after = host) ∧
      (∀ id, decoded.1 = .ok id ↔ ∃ w, reply.1 = .value w ∧ idResult? w = some id) ∧
      ∀ w, reply.1 = .value w →
        (idResult? w).isSome ∧ reply.2 = host.note Operation.symToId.name := by
  intro decoded reply
  cases tagged : v.isSymbol with
  | true =>
      obtain ⟨shown, known⟩ := Host.symbolId?_of_genuine tagged genuine
      have decodedIs : decoded = (.ok v.embeddedId, gate) := runOn_toId_of_shown routed shown
      have replyIs : reply = (.value (idArgument v.embeddedId), host.note Operation.symToId.name) :=
        Host.invoke_symToId_of_known known
      have read : idResult? (idArgument v.embeddedId) = some v.embeddedId :=
        idResult?_idArgument (Value.symbolId?_eq_some_iff.mp shown).1 v.toNat_embeddedId_lt
      rw [decodedIs, replyIs]
      refine ⟨host, routed, rfl, fun _ _ => rfl, fun id => ?_, ?_⟩
      · constructor
        · rintro ⟨⟩
          exact ⟨_, rfl, read⟩
        · rintro ⟨_, ⟨⟩, same⟩
          rw [read] at same
          cases same
          rfl
      · rintro _ ⟨⟩
        exact ⟨Option.isSome_of_eq_some read, rfl⟩
  | false =>
      have hidden := Value.symbolId?_of_untagged tagged
      obtain ⟨exit, gate', ran, routedAfter, -⟩ := runOn_toId_of_hidden routed hidden
      have decodedIs : decoded = (.error exit, gate') := ran
      have noValue (w : Value) : reply.1 ≠ .value w := Host.invoke_symToId_ne_value hidden w
      rw [decodedIs]
      exact ⟨reply.2, routedAfter, host.symbols_invoke_symToId v, nofun,
        fun id => iff_of_false nofun fun ⟨w, same, _⟩ => noValue w same,
        fun w same => absurd same (noValue w)⟩

theorem runOn_toId_of_forged (forged : host.Forged v) :
    let decoded := (raising (toId v) : Native β ω Id).runOn gate
    let reply := host.invoke Operation.symToId.name [v]
    ∃ after, decoded.2.Routes after ∧ after.symbols = host.symbols ∧
      (∀ id, decoded.1 = .ok id → after = host) ∧
      (v.embeddedId ≠ 0 → decoded.1 = .ok v.embeddedId) ∧
      (v.embeddedId = 0 → after = reply.2 ∧
        ∀ exception, reply.1 = .raised exception → decoded.1 = .error (.raised exception)) := by
  intro decoded reply
  have shown := Value.symbolId?_of_tagged forged.1
  by_cases zero : v.embeddedId = 0
  · rw [if_pos zero] at shown
    obtain ⟨exit, gate', ran, routedAfter, raised⟩ := runOn_toId_of_hidden routed shown
    have decodedIs : decoded = (.error exit, gate') := ran
    rw [decodedIs]
    exact ⟨reply.2, routedAfter, host.symbols_invoke_symToId v, nofun,
      fun nonzero => absurd zero nonzero,
      fun _ => ⟨rfl, fun exception same => congrArg _ (raised exception same)⟩⟩
  · rw [if_neg zero] at shown
    have decodedIs : decoded = (.ok v.embeddedId, gate) := runOn_toId_of_shown routed shown
    rw [decodedIs]
    exact ⟨host, routed, rfl, fun _ _ => rfl, fun _ => rfl, fun isZero => absurd isZero zero⟩

/-- `SYMBOL_P` and `SYM2ID`, done here, agree with the engine's answers for every word that is not
`Forged`.  A forged word is a symbol here and not to the engine, and its ID is handed out unless it
is zero.  Neither side makes a symbol, and only a refusal makes an object. -/
theorem decoding_agrees_unless_forged (v : Value) :
    let asked := (raising (symbol? v) : Native β ω Bool).runOn gate
    let decoded := (raising (toId v) : Native β ω Id).runOn gate
    let answer := host.invokePredicate "SYMBOL_P" [v]
    let reply := host.invoke "rb_tr_sym2id" [v]
    let refused := host.Gains
      (.exception ErrorKind.typeError.value (Host.strangerText v.embeddedId)) ["rb_tr_sym2id"]
    ∃ afterAsked afterDecoded, asked.2.Routes afterAsked ∧ decoded.2.Routes afterDecoded ∧
      (¬ host.Forged v →
        (∃ b, asked.1 = .ok b ∧ answer.1 = .value b) ∧
        (∀ id, decoded.1 = .ok id ↔ ∃ w, reply.1 = .value w ∧ idResult? w = some id) ∧
        ∀ w, reply.1 = .value w → (idResult? w).isSome) ∧
      (host.Forged v →
        asked.1 = .ok true ∧ answer.1 = .value false ∧
        (∃ exception, reply.1 = .raised exception ∧ refused exception reply.2) ∧
        (v.embeddedId ≠ 0 → decoded.1 = .ok v.embeddedId) ∧
        (v.embeddedId = 0 →
          ∃ exception, decoded.1 = .error (.raised exception) ∧ refused exception afterDecoded)) ∧
      (afterAsked = host ∨ afterAsked = host.note "SYMBOL_P") ∧
      answer.2 = host.note "SYMBOL_P" ∧
      (afterDecoded.symbols = host.symbols ∧ reply.2.symbols = host.symbols) ∧
      (∀ id, decoded.1 = .ok id → afterDecoded = host) ∧
      ∀ w, reply.1 = .value w → reply.2 = host.note "rb_tr_sym2id" := by
  intro asked decoded answer reply refused
  obtain ⟨afterAsked, routedAsked, askedIs, unchanged⟩ := runOn_symbol? routed v
  have answerIs : answer = (.value (host.symbolId? v).isSome, host.note "SYMBOL_P") :=
    host.invokePredicate_symbolP v
  have symbols : reply.2.symbols = host.symbols := host.symbols_invoke_symToId v
  by_cases forged : host.Forged v
  · obtain ⟨afterDecoded, routedDecoded, sameSymbols, returned, nonzero, zero⟩ :=
      runOn_toId_of_forged routed forged
    obtain ⟨exception, raised, gains⟩ := forged.symToId_refused
    have noValue (w : Value) : reply.1 ≠ .value w := by
      rw [show reply.1 = _ from raised]
      nofun
    refine ⟨afterAsked, afterDecoded, routedAsked, routedDecoded,
      fun genuine => absurd forged genuine, fun _ => ⟨?_, ?_, ⟨exception, raised, gains⟩, nonzero,
        fun isZero => ?_⟩, unchanged, congrArg Prod.snd answerIs, ⟨sameSymbols, symbols⟩, returned,
      fun w same => absurd same (noValue w)⟩
    · exact askedIs.trans (congrArg Except.ok forged.1)
    · rw [answerIs, Host.symbolId?_of_not_genuine (.inr forged)]
      rfl
    · obtain ⟨rfl, raises⟩ := zero isZero
      exact ⟨exception, raises exception raised, gains⟩
  · obtain ⟨afterDecoded, routedDecoded, sameSymbols, returned, sameIds, known⟩ :=
      runOn_toId_of_genuine routed forged
    refine ⟨afterAsked, afterDecoded, routedAsked, routedDecoded,
      fun _ => ⟨⟨v.isSymbol, askedIs, ?_⟩, sameIds, fun w same => (known w same).1⟩,
      fun isForged => absurd isForged forged, unchanged, congrArg Prod.snd answerIs,
      ⟨sameSymbols, symbols⟩, returned, fun w same => (known w same).2⟩
    rw [answerIs]
    cases tagged : v.isSymbol with
    | true => rw [(Host.symbolId?_of_genuine tagged forged).2]; rfl
    | false => rw [Host.symbolId?_of_not_genuine (.inl tagged)]; rfl

end Routed

theorem decoding_agrees_unless_forged_zero_to_two :
    ∃ (interned : Gate Unit Unit) (host : Host),
      (raising (intern (octets "each") .utf8)).runOn (.installed ()) = (.ok 1, interned) ∧
      interned.Routes host ∧
      ((raising (toId (.symbol 1))).runOn interned).1 = .ok 1 ∧
      (host.invoke "rb_tr_sym2id" [.symbol 1]).1 = .value (.fixnum 1) ∧
      ((raising (symbol? (.symbol 2))).runOn interned).1 = .ok true ∧
      (host.invokePredicate "SYMBOL_P" [.symbol 2]).1 = .value false ∧
      ((raising (toId (.symbol 2))).runOn interned).1 = .ok 2 ∧
      ∃ exception, ((raising (toId (.symbol 0))).runOn interned).1 =
        .error (.raised exception) := by
  let host := Host.new.actAll [.newString (octets "each") .utf8, .invoke "rb_intern" [.handle 20]]
  let interned : Gate Unit Unit :=
    ((raising (intern (octets "each") .utf8)).runOn (.installed ())).2
  have returned : (raising (intern (octets "each") .utf8)).runOn (.installed ()) =
      (.ok 1, interned) := Prod.ext rfl rfl
  have routed : interned.Routes host := ⟨_, rfl, rfl, rfl⟩
  have genuine : ¬ host.Forged (.symbol 1) := fun forged => forged.2 (by decide)
  have second : host.Forged (.symbol 2) := ⟨by decide, by decide⟩
  have zero : host.Forged (.symbol 0) := ⟨by decide, by decide⟩
  have replied : (host.invoke "rb_tr_sym2id" [.symbol 1]).1 = .value (.fixnum 1) := by decide
  obtain ⟨_, _, _, _, agree, _⟩ := decoding_agrees_unless_forged routed (.symbol 1)
  obtain ⟨_, _, _, _, _, differ, _⟩ := decoding_agrees_unless_forged routed (.symbol 2)
  obtain ⟨_, _, _, _, _, refuse, _⟩ := decoding_agrees_unless_forged routed (.symbol 0)
  obtain ⟨_, sameIds, _⟩ := agree genuine
  obtain ⟨asked, answered, _, handedOut, _⟩ := differ second
  obtain ⟨_, _, _, _, raised⟩ := refuse zero
  obtain ⟨exception, decoded, _⟩ := raised (by decide)
  exact ⟨interned, host, returned, routed, (sameIds 1).mpr ⟨_, replied, by decide⟩, replied, asked,
    answered, handedOut (by decide), exception, decoded⟩

end Symbols

end NativeGate
