import NativeGate.Proofs.Coderange
import NativeGate.Proofs.Gate.Coderange
import NativeGate.Proofs.Host.Additions
import NativeGate.Proofs.Host.Cycles
import NativeGate.Proofs.Host.Inspect
import NativeGate.Proofs.Text.Numeral

namespace NativeGate

namespace Quotation

/-- Octets with a letter of their own behind the backslash, the letter first. -/
def shortEscapes : List (UInt8 × UInt8) :=
  [(0x22, 0x22), (0x5c, 0x5c), (0x6e, 0x0a), (0x74, 0x09)]

theorem shortEscapes_ascii : ∀ pair ∈ shortEscapes, pair.1 < 0x80 ∧ pair.2 < 0x80 := by
  simp [shortEscapes]

/-- The forms in which an octet stands between quotes. -/
inductive Form (keepHigh : Bool) (b : UInt8) : Bytes → Prop
  | plain (notQuote : b ≠ 0x22) (notBackslash : b ≠ 0x5c) (kept : 0x80 ≤ b → keepHigh = true) :
      Form keepHigh b [b]
  | short {letter : UInt8} (listed : (letter, b) ∈ shortEscapes) : Form keepHigh b [0x5c, letter]
  | hex (dropped : keepHigh = true → b < 0x80) : Form keepHigh b
      [0x5c, 0x78, Numeral.digitOctet .upper (b.toNat / 16),
        Numeral.digitOctet .upper (b.toNat % 16)]

theorem padded_hex {n : Nat} (octet : n < 256) :
    Numeral.padded 2 (Numeral.inBase 16 .upper n) =
      [Numeral.digitOctet .upper (n / 16), Numeral.digitOctet .upper (n % 16)] := by
  have two : Numeral.Writes 16 2 n [n / 16, n % 16] :=
    { lt_base := by
        simp only [List.forall_mem_cons, List.not_mem_nil, false_implies, implies_true, and_true]
        omega
      value_eq := by
        simp only [Numeral.value, List.foldl_cons, List.foldl_nil]
        omega
      least_le := Nat.le_refl 2
      head_ne_zero := fun more => absurd more (Nat.lt_irrefl 2) }
  rw [Numeral.inBase, Numeral.padded_map,
    (Numeral.writes_padded (by decide) (fun _ => by decide)).unique (by decide) two]
  rfl

theorem escape_form (keepHigh : Bool) (b : UInt8) : Form keepHigh b (escape keepHigh b) := by
  unfold escape
  split
  next isQuote => exact .short (isQuote ▸ by decide)
  next notQuote =>
    split
    next isBackslash => exact .short (isBackslash ▸ by decide)
    next notBackslash =>
      split
      next isNewline => exact .short (isNewline ▸ by decide)
      split
      next isTab => exact .short (isTab ▸ by decide)
      split
      next shown =>
        simp only [Bool.and_eq_true, decide_eq_true_eq] at shown
        exact .plain notQuote notBackslash fun high =>
          absurd (UInt8.le_trans high shown.2) (by decide)
      split
      next kept =>
        simp only [Bool.and_eq_true] at kept
        exact .plain notQuote notBackslash fun _ => kept.1
      next dropped =>
        rw [padded_hex b.toNat_lt]
        refine .hex fun keeps => ?_
        simpa [keeps] using dropped

def hexDigit? (b : UInt8) : Option Nat :=
  if 0x30 ≤ b && b ≤ 0x39 then some (b.toNat - 0x30)
  else if 0x41 ≤ b && b ≤ 0x46 then some (b.toNat - 0x37)
  else none

/-- Read up to the closing quote, which has to be the last octet. -/
def unescape? : Bytes → Option Bytes
  | [0x22] => some []
  | 0x5c :: 0x22 :: rest => (unescape? rest).map (0x22 :: ·)
  | 0x5c :: 0x5c :: rest => (unescape? rest).map (0x5c :: ·)
  | 0x5c :: 0x6e :: rest => (unescape? rest).map (0x0a :: ·)
  | 0x5c :: 0x74 :: rest => (unescape? rest).map (0x09 :: ·)
  | 0x5c :: 0x78 :: high :: low :: rest => do
      let high ← hexDigit? high
      let low ← hexDigit? low
      (unescape? rest).map (UInt8.ofNat (high * 16 + low) :: ·)
  | 0x22 :: _ | 0x5c :: _ | [] => none
  | b :: rest => (unescape? rest).map (b :: ·)

def unquote? : Bytes → Option Bytes
  | 0x22 :: rest => unescape? rest
  | _ => none

theorem hexDigit?_digitOctet {d : Nat} (small : d < 16) :
    hexDigit? (Numeral.digitOctet .upper d) = some d := by
  have all : ∀ d < 16, hexDigit? (Numeral.digitOctet .upper d) = some d := by decide
  exact all d small

theorem Form.unescape? {keepHigh : Bool} {b : UInt8} {written : Bytes}
    (form : Form keepHigh b written) (rest : Bytes) :
    Quotation.unescape? (written ++ rest) = (Quotation.unescape? rest).map (b :: ·) := by
  cases form with
  | plain notQuote notBackslash kept =>
      rw [List.singleton_append, Quotation.unescape?] <;> simp [notQuote, notBackslash]
  | short listed =>
      simp only [shortEscapes, List.mem_cons, Prod.mk.injEq, List.not_mem_nil, or_false] at listed
      obtain ⟨rfl, rfl⟩ | ⟨rfl, rfl⟩ | ⟨rfl, rfl⟩ | ⟨rfl, rfl⟩ := listed <;> rfl
  | hex =>
      have octet := b.toNat_lt
      have whole : b.toNat / 16 * 16 + b.toNat % 16 = b.toNat := by omega
      simp only [List.cons_append, List.nil_append, Quotation.unescape?, Option.bind_eq_bind,
        Option.bind_some, hexDigit?_digitOctet (show b.toNat / 16 < 16 by omega),
        hexDigit?_digitOctet (show b.toNat % 16 < 16 by omega), whole, UInt8.ofNat_toNat]

theorem unescape?_escapes (keepHigh : Bool) (bytes : Bytes) :
    unescape? (bytes.flatMap (escape keepHigh) ++ [0x22]) = some bytes := by
  induction bytes with
  | nil => rfl
  | cons b rest ih =>
      rw [List.flatMap_cons, List.append_assoc, (escape_form keepHigh b).unescape?, ih]
      rfl

theorem unquote?_quote (bytes : Bytes) (encoding : Encoding) :
    unquote? (quote bytes encoding) = some bytes :=
  unescape?_escapes _ bytes

theorem Form.isAscii {keepHigh : Bool} {b : UInt8} {written : Bytes}
    (form : Form keepHigh b written) (low : keepHigh = true → b < 0x80) : written.IsAscii := by
  cases form with
  | plain _ _ kept =>
      have ascii : b < 0x80 := by
        by_contra high
        exact high (low (kept (UInt8.not_lt.mp high)))
      simpa [Bytes.IsAscii] using ascii
  | short listed => simp [Bytes.IsAscii, (shortEscapes_ascii _ listed).1]
  | hex =>
      have digit : ∀ d < 16, Numeral.digitOctet .upper d < 0x80 := by decide
      have octet := b.toNat_lt
      have high := digit (b.toNat / 16) (by omega)
      have low := digit (b.toNat % 16) (by omega)
      simp [Bytes.IsAscii, high, low]

theorem Form.eq_singleton {b : UInt8} {written : Bytes} (form : Form true b written)
    (high : 0x80 ≤ b) : written = [b] := by
  cases form with
  | plain => rfl
  | short listed => exact absurd high (UInt8.not_le.mpr (shortEscapes_ascii _ listed).2)
  | hex dropped => exact absurd (dropped rfl) (UInt8.not_lt.mpr high)

theorem escapes_isAscii {keepHigh : Bool} {bytes : Bytes}
    (low : keepHigh = true → bytes.IsAscii) : Bytes.IsAscii (bytes.flatMap (escape keepHigh)) := by
  intro octet member
  obtain ⟨b, among, written⟩ := List.mem_flatMap.mp member
  exact (escape_form keepHigh b).isAscii (fun keeps => low keeps b among) octet written

theorem escapes_char_wellFormed (c : Char) :
    Utf8.WellFormed ((String.utf8EncodeChar c).flatMap (escape true)) := by
  obtain ascii | high := (Utf8.spells_utf8EncodeChar c).isAscii_or_high
  · exact Utf8.wellFormed_of_isAscii (escapes_isAscii fun _ => ascii)
  · have kept : (String.utf8EncodeChar c).flatMap (escape true) = String.utf8EncodeChar c := by
      have plain : ∀ b ∈ String.utf8EncodeChar c, escape true b = [b] :=
        fun b among => (escape_form true b).eq_singleton (high b among)
      rw [List.flatMap_congr plain, List.flatMap_singleton']
    exact ⟨[c], by rw [kept, List.flatMap_singleton]⟩

theorem escapes_wellFormed {bytes : Bytes} (sound : Utf8.WellFormed bytes) :
    Utf8.WellFormed (bytes.flatMap (escape true)) := by
  obtain ⟨text, rfl⟩ := sound
  induction text with
  | nil => exact ⟨[], rfl⟩
  | cons c text ih =>
      rw [List.flatMap_cons, List.flatMap_append]
      exact (escapes_char_wellFormed c).append ih

theorem quote_wellFormed (bytes : Bytes) (encoding : Encoding) :
    Utf8.WellFormed (quote bytes encoding) := by
  have quoteMark : Utf8.WellFormed [0x22] := Utf8.wellFormed_of_isAscii (by decide)
  refine quoteMark.append (Utf8.WellFormed.append ?_ quoteMark)
  cases keeps : decide (encoding = .utf8) && Utf8.isValid bytes with
  | false => exact Utf8.wellFormed_of_isAscii (escapes_isAscii nofun)
  | true =>
      simp only [Bool.and_eq_true] at keeps
      exact escapes_wellFormed ((Utf8.isValid_iff bytes).mp keeps.2)

end Quotation

namespace Host

theorem inspect?_string {host : Host} {v : Value} {s : ManagedString}
    (found : host.objects.string? v = some s) :
    host.inspect? v = some (Quotation.quote s.bytes s.encoding) := by
  have stored := ObjectTable.string?_eq_some_iff.mp found
  rw [inspect?, inspectWithin, inspectLeaf?_of_stored stored, stored]

theorem invoke_inspect {host : Host} {v : Value} {text : Bytes}
    (written : host.inspect? v = some text) :
    host.invoke Operation.inspect.name [v] =
      (.value ((host.note Operation.inspect.name).newString text .utf8).1,
        ((host.note Operation.inspect.name).newString text .utf8).2) := by
  have same : (host.note Operation.inspect.name).inspect? v = some text :=
    (host.inspect?_note _ v).trans written
  have planned : (host.note Operation.inspect.name).plan .inspect [v] =
      .ok (.create (.string { bytes := text, encoding := .utf8 })) := by
    simp [plan, argument, inspected, same, bind, Except.bind, pure, Except.pure]
  exact invoke_of_plan planned

/-- `unquote?` reads the octets of a string off its inspection, whatever its encoding.  The
inspection is well-formed UTF-8 and tagged so, and neither a scan nor `rb_enc_str_coderange` finds
it broken. -/
theorem inspection_tells_string {host : Host} {v : Value} {s : ManagedString}
    (found : host.objects.string? v = some s) :
    ∃ text shown after,
      host.invoke "rb_inspect" [v] = (.value shown, after) ∧
      host.Gains (.string { bytes := text, encoding := .utf8 }) ["rb_inspect"] shown after ∧
      Quotation.unquote? text = some s.bytes ∧
      (∀ (other : Host) w t, other.objects.string? w = some t → other.inspect? w = some text →
        t.bytes = s.bytes) ∧
      Utf8.WellFormed text ∧
      (Coderange.scan text .utf8 = .sevenBit ∨ Coderange.scan text .utf8 = .valid) ∧
      ∀ (later : Host) w kept, later.Reachable → later.objects.string? w = some kept →
        kept.bytes = text → kept.encoding = .utf8 →
          (kept.coderange = .unknown ∨ kept.coderange = Coderange.scan text .utf8) ∧
          (later.invoke "rb_enc_str_coderange" [w]).1 =
            .value (.fixnum (Coderange.scan text .utf8).flags.toInt64) := by
  let text := Quotation.quote s.bytes s.encoding
  have read : Quotation.unquote? text = some s.bytes := Quotation.unquote?_quote _ _
  have sound : Utf8.WellFormed text := Quotation.quote_wellFormed _ _
  refine ⟨text, _, _, invoke_inspect (inspect?_string found), host.note_create_gains _ _, read, ?_,
    sound, Coderange.scan_of_wellFormed sound, ?_⟩
  · intro other w t stored same
    have quoted : Quotation.quote t.bytes t.encoding = text :=
      Option.some.inj ((inspect?_string stored).symm.trans same)
    rw [← quoted, Quotation.unquote?_quote] at read
    exact Option.some.inj read
  · intro later w kept reached stored sameBytes utf8
    have upToDate : kept.UpToDate :=
      reached.upToDate w (.string kept) (ObjectTable.string?_eq_some_iff.mp stored)
    have asked := invoke_coderange stored
    rw [upToDate.classified_eq, sameBytes, utf8] at asked
    refine ⟨?_, congrArg Prod.fst asked⟩
    rw [← sameBytes, ← utf8]
    exact upToDate

theorem inspection_tells_string_broken :
    let host := Host.new.actAll [.newString [0xc3, 0xa9, 0xff] .utf8]
    ∃ text shown after flags,
      host.invoke "rb_inspect" [.handle 20] = (.value shown, after) ∧
      after.objects.string? shown = some { bytes := text, encoding := .utf8 } ∧
      Quotation.unquote? text = some [0xc3, 0xa9, 0xff] ∧
      (after.invoke "rb_enc_str_coderange" [shown]).1 = .value (.fixnum flags) ∧
      flags ≠ Coderange.broken.flags.toInt64 := by
  let host := Host.new.actAll [.newString [0xc3, 0xa9, 0xff] .utf8]
  have reached : host.Reachable := ⟨_, rfl⟩
  have found : host.objects.string? (.handle 20) =
      some { bytes := [0xc3, 0xa9, 0xff], encoding := .utf8 } := rfl
  obtain ⟨text, shown, after, ran, gains, read, -, -, clean, asking⟩ :=
    inspection_tells_string found
  have later : after.Reachable :=
    reached.leads ⟨[.invoke "rb_inspect" [.handle 20]], congrArg Prod.snd ran⟩
  have stored : after.objects.string? shown = some { bytes := text, encoding := .utf8 } :=
    ObjectTable.string?_eq_some_iff.mpr (gains.stored (by decide))
  obtain ⟨-, told⟩ := asking after shown _ later stored rfl rfl
  refine ⟨text, shown, after, _, ran, stored, read, told, ?_⟩
  obtain sevenBit | valid := clean
  · rw [sevenBit]
    decide
  · rw [valid]
    decide

end Host

end NativeGate
