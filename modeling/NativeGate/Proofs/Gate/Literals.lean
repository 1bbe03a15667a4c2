import NativeGate.Proofs.Gate.Coderange
import NativeGate.Proofs.Gate.Identifiers
import NativeGate.Proofs.Host.Additions
import NativeGate.Proofs.Host.NameStrings

namespace NativeGate

theorem Bytes.view_eq (bytes : Bytes) (isNull : Bool) (length : Int) :
    bytes.view isNull length =
      if isNull ∨ length ≤ 0 then [] else bytes.take length.toNat := by
  cases isNull with
  | true => simp [view]
  | false =>
      by_cases positive : length ≤ 0
      · simp [view, positive, Int.toNat_of_nonpos]
      · simp [view, positive]

namespace Host

theorem invoke_freeze {host : Host} {v : Value} {s : ManagedString}
    (found : host.objects.string? v = some s) :
    host.invoke Operation.freeze.name [v] =
      (.value v,
        { host.note Operation.freeze.name with
          objects := host.objects.modifyString v fun s => { s with frozen := true } }) := by
  have isString : (host.note Operation.freeze.name).asString v = .ok s := by
    simp [asString, found]
  have planned : (host.note Operation.freeze.name).plan .freeze [v] = .ok (.freeze v) := by
    simp [plan, argument, isString, bind, Except.bind, pure, Except.pure]
  exact invoke_of_plan planned

end Host

namespace Strings

open Native (Answers Exits raising)

variable {β ω : Type} {call : Native β ω Value} {host after : Host} {s : ManagedString}
  {names : List String} {string : Value}

/-- The answer is the handle of a new string, and nothing else has happened but for these names in
the log. -/
structure Makes (call : Native β ω Value) (host : Host) (s : ManagedString) (names : List String)
    (string : Value) (after : Host) : Prop where
  answers : Answers call host string after
  leads : host.Leads after
  gains : host.Gains (.string s) names string after

theorem Makes.raising (makes : Makes call host s names string after) :
    Makes (raising call) host s names string after :=
  { makes with answers := makes.answers.raising }

section Known

variable {pointer : EncodingPointer} {encoding : Encoding}
  (resolved : pointer.resolve? = some encoding) (host : Host) (bytes : Bytes)

include resolved

theorem ofLiteral_makes :
    Makes (ofLiteral bytes pointer : Native β ω Value) host { bytes, encoding } []
      (host.newString bytes encoding).1 (host.newString bytes encoding).2 where
  answers := by
    have same : (ofLiteral bytes pointer : Native β ω Value) =
        Native.onEngine (Engine.newString bytes encoding) := by
      simp [ofLiteral, encodingOf, resolved, Native.onEngine]
    rw [same]
    exact Native.onEngine_answers (Engine.newString_answers host bytes encoding)
  leads := host.leads_act (.newString bytes encoding)
  gains := host.create_gains _

theorem frozenLiteral_makes (room : host.objects.size < ObjectTable.capacity) :
    ∃ string after, Makes (frozenLiteral bytes pointer : Native β ω Value) host
      (.ofName bytes encoding) [Operation.freeze.name, Operation.coderange.name] string after := by
  have made := ofLiteral_makes (β := β) (ω := ω) resolved host bytes
  have thawed := ObjectTable.string?_eq_some_iff.mpr (made.gains.stored room)
  have froze := Host.invoke_freeze thawed
  have gains := made.gains.modifyString room Operation.freeze.name fun s =>
    { s with frozen := true }
  have frozen := ObjectTable.string?_eq_some_iff.mpr (gains.stored room)
  have classified := Host.invoke_coderange frozen
  refine ⟨_, _, ?_, ?_, gains.modifyString room Operation.coderange.name ManagedString.classified⟩
  · refine made.answers.bind (Native.onEngine_answers ?_)
    exact (Engine.perform_answers froze).bind
      ((Engine.perform_answers classified).bind (.pure _ _))
  · exact made.leads.trans (.trans ⟨[.invoke _ _], congrArg Prod.snd froze⟩
      ⟨[.invoke _ _], congrArg Prod.snd classified⟩)

end Known

theorem Makes.fixed {bytes : Bytes} {encoding : Encoding}
    (makes : Makes call host (.ofName bytes encoding) names string after)
    (room : host.objects.size < ObjectTable.capacity) {later : Host} (leads : after.Leads later) :
    later.objects.string? string = some (.ofName bytes encoding) := by
  obtain ⟨_, object, found, turned⟩ := leads.becomes (makes.gains.stored room)
  rw [turned.eq_of_name] at found
  exact ObjectTable.string?_eq_some_iff.mpr found

theorem Makes.grows (makes : Makes call host s names string after)
    (room : host.objects.size < ObjectTable.capacity) (actions : List Host.Action) :
    ∃ s', (after.actAll actions).objects.string? string = some s' ∧
      s'.bytes = s.bytes ++ after.appendedTo string actions ∧ s'.encoding = s.encoding := by
  obtain ⟨object, found, turned⟩ := Host.actAll_becomes actions (makes.gains.stored room)
  cases turned with
  | string bytes encoding _ _ =>
      exact ⟨_, ObjectTable.string?_eq_some_iff.mpr found, bytes, encoding⟩

theorem Makes.append_accepted (makes : Makes call host s names string after)
    (room : host.objects.size < ObjectTable.capacity) {later : Host} (leads : after.Leads later)
    (more : Bytes) (thawed : later.isFrozen string = false) :
    (later.append string more).1 = true := by
  obtain ⟨_, _, found, turned⟩ := leads.becomes (makes.gains.stored room)
  cases turned with
  | string =>
      rw [Host.isFrozen_of_string found] at thawed
      exact (Host.append_of_thawed found thawed more).1

theorem ofLiteral_foreign_exits (host : Host) (bytes : Bytes) :
    Exits (ofLiteral bytes .foreign : Native β ω Value) host
      (.failed (.unknownEncoding (-1))) host := by
  intro gate routed
  have kept := routed
  obtain ⟨scope, current, -⟩ := routed
  refine ⟨gate, ?_, kept⟩
  rw [ofLiteral, Proc.runOn_bind_of_ok (Native.runOn_engineNumber current)]
  rfl

/-- `rb_str_new_parser_string` and its mutable twin copy exactly the octets in view.  The literal
stays what it is in every later state, and appending to the copy changes no other object.  An
encoding that is none of the library's raises and makes nothing but the exception. -/
theorem literals_fixed_copies_free {host : Host} (room : host.objects.size < ObjectTable.capacity)
    (bytes : Bytes) (isNull : Bool) (length : Int) :
    ∃ content, content = (if isNull ∨ length ≤ 0 then [] else bytes.take length.toNat) ∧
      (∀ pointer encoding, pointer = .null ∧ encoding = .binary ∨ pointer = .known encoding →
        (∃ literal after,
          Makes (raising (frozenLiteral (bytes.view isNull length) pointer) : Native β ω Value) host
            { bytes := content, encoding, coderange := Coderange.scan content encoding,
              frozen := true }
            ["rb_str_freeze", "rb_enc_str_coderange"] literal after ∧
          ∀ later, after.Leads later → later.objects.string? literal = some
            { bytes := content, encoding, coderange := Coderange.scan content encoding,
              frozen := true }) ∧
        ∃ copy after,
          Makes (raising (ofLiteral (bytes.view isNull length) pointer) : Native β ω Value) host
            { bytes := content, encoding, coderange := .unknown, frozen := false } [] copy after ∧
          (∀ actions, ∃ s, (after.actAll actions).objects.string? copy = some s ∧
            s.bytes = content ++ after.appendedTo copy actions ∧ s.encoding = encoding) ∧
          ∀ later more, after.Leads later →
            (later.isFrozen copy = false → (later.append copy more).1 = true) ∧
            ∀ other, other ≠ copy →
              (later.append copy more).2.objects.get? other = later.objects.get? other) ∧
      ∀ call : Native β ω Value,
        call = frozenLiteral (bytes.view isNull length) .foreign ∨
          call = ofLiteral (bytes.view isNull length) .foreign →
        ∃ exception after, Exits (raising call) host (.raised exception) after ∧
          host.Leads after ∧
          host.Gains
            (.exception ErrorKind.argumentError.value (Fault.unknownEncoding (-1)).message) []
            exception after := by
  refine ⟨_, Bytes.view_eq bytes isNull length, ?_, ?_⟩
  · intro pointer encoding named
    have resolved : pointer.resolve? = some encoding := by
      obtain ⟨rfl, rfl⟩ | rfl := named <;> rfl
    constructor
    · obtain ⟨literal, after, makes⟩ := frozenLiteral_makes (β := β) (ω := ω) resolved host
        (bytes.view isNull length) room
      exact ⟨literal, after, makes.raising, fun later leads => makes.fixed room leads⟩
    · have makes := ofLiteral_makes (β := β) (ω := ω) resolved host (bytes.view isNull length)
      refine ⟨_, _, makes.raising, makes.grows room, ?_⟩
      intro later more leads
      exact ⟨makes.append_accepted room leads more,
        fun other distinct => later.append_get?_of_ne distinct more⟩
  · intro call named
    have failed := ofLiteral_foreign_exits (β := β) (ω := ω) host (bytes.view isNull length)
    have exits : Exits call host (.failed (.unknownEncoding (-1))) host := by
      obtain rfl | rfl := named
      · exact failed.bind _
      · exact failed
    exact ⟨_, _, exits.raising_fresh rfl, host.leads_act (.newException _ _),
      host.create_gains _⟩

theorem literals_fixed_copies_free_accented :
    (∃ literal after,
      Answers (raising (frozenLiteral (Bytes.view (octets "\u00e9!") false 2) (.known .utf8)) :
        Native Unit Unit Value) .new literal after ∧
      (after.actAll [.append literal [0xff]]).objects.string? literal = some
        { bytes := octets "\u00e9", encoding := .utf8, coderange := .valid, frozen := true }) ∧
    (∃ copy after s,
      Answers (raising (ofLiteral (Bytes.view [] true 3) .null) : Native Unit Unit Value) .new copy
        after ∧
      (after.actAll [.append copy [0xff]]).objects.string? copy = some s ∧ s.bytes = [0xff]) ∧
    ∃ exception after,
      Exits (raising (ofLiteral (Bytes.view [0x61] false (-1)) .foreign) : Native Unit Unit Value)
        .new (.raised exception) after ∧
      after.objects.string? exception = none := by
  have room : Host.new.objects.size < ObjectTable.capacity := by decide
  refine ⟨?_, ?_, ?_⟩
  · obtain ⟨_, rfl, known, -⟩ := literals_fixed_copies_free (β := Unit) (ω := Unit) room
      (octets "\u00e9!") false 2
    obtain ⟨⟨literal, after, makes, fixed⟩, -⟩ := known (.known .utf8) .utf8 (.inr rfl)
    exact ⟨literal, after, makes.answers, fixed _ ⟨_, rfl⟩⟩
  · obtain ⟨_, rfl, known, -⟩ := literals_fixed_copies_free (β := Unit) (ω := Unit) room [] true 3
    obtain ⟨-, copy, after, makes, grows, -⟩ := known .null .binary (.inl ⟨rfl, rfl⟩)
    obtain ⟨s, stored, bytes, -⟩ := grows [.append copy [0xff]]
    have thawed : after.isFrozen copy = false :=
      Host.isFrozen_of_string (makes.gains.stored room)
    refine ⟨copy, after, s, makes.answers, stored, ?_⟩
    simpa [Host.appendedTo, Host.appendedNow, thawed] using bytes
  · obtain ⟨_, -, -, foreign⟩ := literals_fixed_copies_free (β := Unit) (ω := Unit) room
      [0x61] false (-1)
    obtain ⟨exception, after, exits, -, gains⟩ := foreign _ (.inr rfl)
    refine ⟨exception, after, exits, ?_⟩
    rw [ObjectTable.string?, gains.stored room]

end Strings

end NativeGate
