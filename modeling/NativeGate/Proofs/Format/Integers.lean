import NativeGate.Format.Render
import NativeGate.Proofs.Text.Numeral
import NativeGate.Proofs.Trailing
import NativeGate.Proofs.Value

namespace NativeGate.Format

open NativeGate Numeral

/-! Fields of integers, as the C standard prescribes them. -/

inductive IntegerConversion
  | d
  | i
  | u
  | x
  | upperX
  | o
deriving DecidableEq, Repr

namespace IntegerConversion

def isSigned : IntegerConversion → Bool
  | .d | .i => true
  | _ => false

def base : IntegerConversion → Nat
  | .d | .i | .u => 10
  | .x | .upperX => 16
  | .o => 8

def letters : IntegerConversion → LetterCase
  | .upperX => .upper
  | _ => .lower

def mark : IntegerConversion → Bytes
  | .x => octets "0x"
  | .upperX => octets "0X"
  | _ => []

def letter : IntegerConversion → UInt8
  | .d => 0x64
  | .i => 0x69
  | .u => 0x75
  | .x => 0x78
  | .upperX => 0x58
  | .o => 0x6f

def conversion : IntegerConversion → Conversion
  | .d | .i => .signed
  | .u => .unsigned .decimal
  | .x => .unsigned (.hexadecimal .lower)
  | .upperX => .unsigned (.hexadecimal .upper)
  | .o => .unsigned .octal

theorem one_lt_base (conversion : IntegerConversion) : 1 < conversion.base := by
  cases conversion <;> decide

end IntegerConversion

namespace Layout

def reduced (layout : Layout) (conversion : IntegerConversion) (n : Int64) : Int :=
  if conversion.isSigned then n.toInt.bmod (2 ^ layout.length.bits)
  else n.toInt % 2 ^ layout.length.bits

def before (layout : Layout) (conversion : IntegerConversion) (v : Int) : Bytes :=
  if conversion.isSigned then
    if v < 0 then octets "-"
    else if layout.flags.plus then octets "+"
    else if layout.flags.space then octets " "
    else []
  else if layout.flags.alternate ∧ v ≠ 0 then conversion.mark
  else []

/-- The least number of digits is the precision, and one without it.  The alternate octal form
increases it as far as it takes for the first digit to be a zero. -/
def Asks (layout : Layout) (conversion : IntegerConversion) (n least : Nat) : Prop :=
  if conversion = .o ∧ layout.flags.alternate then
    IsLeast {q | layout.precision.getD 1 ≤ q ∧ ∃ ds, Writes 8 q n ds ∧ ds.head? = some 0} least
  else least = layout.precision.getD 1

/-- Padding goes behind the digits, or between what stands before them and the digits as zeros, or
before all. -/
def filled (layout : Layout) (before digits : Bytes) (pad : Nat) : Bytes :=
  if layout.flags.left then before ++ digits ++ List.replicate pad 0x20
  else if layout.flags.zero ∧ layout.precision = none then
    before ++ List.replicate pad 0x30 ++ digits
  else List.replicate pad 0x20 ++ before ++ digits

/-- The field that is prescribed for a number. -/
inductive Prescribes (layout : Layout) (conversion : IntegerConversion) (v : Int) : Bytes → Prop
  | mk {least pad : Nat} {ds : List Nat} (asks : layout.Asks conversion v.natAbs least)
      (writes : Writes conversion.base least v.natAbs ds)
      (wide : (layout.before conversion v).length + ds.length + pad =
        max layout.width ((layout.before conversion v).length + ds.length)) :
      Prescribes layout conversion v
        (layout.filled (layout.before conversion v) (ds.map (digitOctet conversion.letters)) pad)

section Prescribes

variable {layout : Layout} {conversion : IntegerConversion} {v : Int}

theorem Asks.unique {n least other : Nat} (asks : layout.Asks conversion n least)
    (others : layout.Asks conversion n other) : least = other := by
  unfold Asks at asks others
  split at asks
  next octal =>
    rw [if_pos octal] at others
    exact asks.unique others
  next ordinary =>
    rw [if_neg ordinary] at others
    exact asks.trans others.symm

theorem Asks.precision_le {n least : Nat} (asks : layout.Asks conversion n least) :
    layout.precision.getD 1 ≤ least := by
  unfold Asks at asks
  split at asks
  · exact asks.1.1
  · exact asks.ge

theorem length_filled (layout : Layout) (before digits : Bytes) (pad : Nat) :
    (layout.filled before digits pad).length = before.length + digits.length + pad := by
  unfold filled
  split
  · simp [Nat.add_assoc]
  · split <;> simp <;> omega

theorem Prescribes.exists_digits {text : Bytes} (prescribes : layout.Prescribes conversion v text) :
    ∃ ds pad, text = layout.filled (layout.before conversion v)
        (ds.map (digitOctet conversion.letters)) pad ∧
      (∀ digit ∈ ds, digit < conversion.base) ∧ value conversion.base ds = v.natAbs ∧
      layout.precision.getD 1 ≤ ds.length ∧
      text.length = max layout.width ((layout.before conversion v).length + ds.length) := by
  obtain @⟨least, pad, ds, asks, writes, wide⟩ := prescribes
  refine ⟨ds, pad, rfl, writes.lt_base, writes.value_eq,
    asks.precision_le.trans writes.least_le, ?_⟩
  rw [length_filled, List.length_map, wide]

theorem Prescribes.unique {text other : Bytes} (prescribes : layout.Prescribes conversion v text)
    (others : layout.Prescribes conversion v other) : text = other := by
  obtain @⟨least, pad, ds, asks, writes, wide⟩ := prescribes
  obtain @⟨least', pad', ds', asks', writes', wide'⟩ := others
  obtain rfl := asks.unique asks'
  obtain rfl := writes.unique conversion.one_lt_base writes'
  obtain rfl : pad = pad' := by omega
  rfl

end Prescribes

variable {layout : Layout}

theorem digits_eq_map (layout : Layout) {base : Nat} (two : 1 < base) (letters : LetterCase)
    (n : Nat) :
    layout.digits base letters n =
      (atLeast base (layout.precision.getD 1) n).map (digitOctet letters) := by
  have nonempty := List.length_pos_of_ne_nil (digits_ne_nil two n)
  unfold Layout.digits atLeast
  split
  next zero =>
    by_cases isZero : n = 0 <;> simp [zero, isZero, inBase]
  next least wanted given =>
    rw [given, Option.getD_some, if_neg (fun none => wanted none.2), inBase, padded_map]
  next none =>
    have one : 1 - (Numeral.digits base n).length = 0 := by omega
    simp [none, inBase, one]

theorem write_eq_filled {field : Field} (zeroFill : field.zeroFill = layout.precision.isNone) :
    field.write layout =
      layout.filled field.lead field.body
        (layout.width - (field.lead.length + field.body.length)) := by
  simp [Field.write, filled, zeroFill, spaces]

theorem modulus_dvd (length : Length) : length.modulus ∣ 2 ^ 64 :=
  Nat.pow_dvd_pow 2 (by cases length <;> decide)

theorem signedOf_eq (layout : Layout) (n : Int64) :
    layout.signedOf n.toUInt64 = n.toInt.bmod (2 ^ layout.length.bits) := by
  rw [Value.toInt_eq_bmod]
  exact (Int.bmod_bmod_of_dvd (modulus_dvd layout.length)).symm

theorem unsignedOf_eq (layout : Layout) (n : Int64) :
    (layout.unsignedOf n.toUInt64 : Int) = n.toInt % 2 ^ layout.length.bits := by
  have power : (2 : Int) ^ layout.length.bits = (layout.length.modulus : Int) := by
    simp [Length.modulus]
  calc (layout.unsignedOf n.toUInt64 : Int)
      = (n.toUInt64.toNat : Int) % layout.length.modulus := Int.natCast_emod _ _
    _ = (n.toUInt64.toNat : Int).bmod layout.length.modulus % layout.length.modulus :=
        Int.bmod_emod.symm
    _ = n.toInt.bmod layout.length.modulus % layout.length.modulus := by
        rw [Value.toInt_eq_bmod, Int.bmod_bmod_of_dvd (modulus_dvd layout.length)]
    _ = n.toInt % 2 ^ layout.length.bits := by rw [Int.bmod_emod, power]

section Writes

variable {conversion : IntegerConversion} {v : Int} {least : Nat} {ds : List Nat}
  (asks : layout.Asks conversion v.natAbs least)
  (writes : Writes conversion.base least v.natAbs ds)

include asks writes

theorem prescribes_filled {lead body : Bytes} (isLead : lead = layout.before conversion v)
    (isBody : body = ds.map (digitOctet conversion.letters)) {pad : Nat}
    (wide : lead.length + body.length + pad = max layout.width (lead.length + body.length)) :
    layout.Prescribes conversion v (layout.filled lead body pad) := by
  subst isLead isBody
  rw [List.length_map] at wide
  exact .mk asks writes wide

theorem prescribes_write {field : Field} (zeroFill : field.zeroFill = layout.precision.isNone)
    (lead : field.lead = layout.before conversion v)
    (body : field.body = ds.map (digitOctet conversion.letters)) :
    layout.Prescribes conversion v (field.write layout) := by
  rw [write_eq_filled zeroFill]
  exact prescribes_filled asks writes lead body (by omega)

end Writes

theorem prescribes_signed {conversion : IntegerConversion} (signed : conversion.isSigned = true)
    (v : Int) : layout.Prescribes conversion v ((layout.signed v).write layout) := by
  have asks : layout.Asks conversion v.natAbs (layout.precision.getD 1) := by
    rw [Asks, if_neg]
    rintro ⟨rfl, -⟩
    cases signed
  refine prescribes_write asks (writes_atLeast conversion.one_lt_base _ _) rfl ?_ ?_
  · simp [Layout.signed, Layout.sign, before, signed]
  · cases conversion with
    | d | i => exact digits_eq_map layout (by decide) .lower v.natAbs
    | _ => cases signed

theorem filled_zero (layout : Layout) (digits : Bytes) (pad : Nat) :
    layout.filled [0x30] digits pad = layout.filled [] (0x30 :: digits) pad := by
  have moved : (0x30 :: List.replicate pad 0x30 : Bytes) = List.replicate pad 0x30 ++ [0x30] := by
    rw [← List.replicate_succ, List.replicate_succ']
  unfold filled
  split
  · rfl
  · split
    · rw [List.singleton_append, moved]
      simp
    · simp

theorem head?_map_digitOctet {ds : List Nat} (small : ∀ d ∈ ds, d < 8) :
    (ds.map (digitOctet .lower)).head? = some 0x30 ↔ ds.head? = some 0 := by
  cases ds with
  | nil => simp
  | cons d rest =>
      have below : d < 16 := (small d List.mem_cons_self).trans (by decide)
      simpa using @digitOctet_eq_zero_iff .lower d below

theorem prescribes_octal (alternate : layout.flags.alternate = true) (n : Nat) :
    layout.Prescribes .o n ((layout.unsigned .octal n).write layout) := by
  obtain ⟨ds, writes, body⟩ : ∃ ds, Writes 8 (layout.precision.getD 1) n ds ∧
      layout.digitsIn .octal n = ds.map (digitOctet .lower) :=
    ⟨_, writes_atLeast (by decide) _ n, digits_eq_map layout (by decide) .lower n⟩
  have before : layout.before .o n = [] := by
    simp [Layout.before, IntegerConversion.isSigned, IntegerConversion.mark]
  have lead : (layout.unsigned .octal n).lead =
      if (ds.map (digitOctet .lower)).head? = some 0x30 then [] else [0x30] := by
    simp only [Layout.unsigned, radixMark, alternate, if_true, body]
    rfl
  have zero_iff := head?_map_digitOctet writes.lt_base
  by_cases zero : ds.head? = some 0
  · rw [if_pos (zero_iff.mpr zero)] at lead
    have asks : layout.Asks .o n (layout.precision.getD 1) := by
      rw [Asks, if_pos ⟨rfl, alternate⟩]
      exact ⟨⟨Nat.le_refl _, ds, writes, zero⟩, fun q above => above.1⟩
    exact prescribes_write (v := n) asks writes rfl (lead.trans before.symm) body
  · rw [if_neg fun front => zero (zero_iff.mp front)] at lead
    have asks : layout.Asks .o n (ds.length + 1) := by
      rw [Asks, if_pos ⟨rfl, alternate⟩]
      exact writes.isLeast_length_succ (by decide) zero
    have same : (layout.unsigned .octal n).body = ds.map (digitOctet .lower) := body
    rw [write_eq_filled rfl, lead, same, filled_zero]
    refine prescribes_filled (v := n) asks (writes.cons_zero (by decide)) before.symm rfl ?_
    simp only [List.length_nil, List.length_cons, List.length_map]
    omega

theorem radixMark_eq_before {conversion : IntegerConversion} {radix : Radix}
    (unsigned : conversion.conversion = .unsigned radix)
    (ordinary : ¬ (conversion = .o ∧ layout.flags.alternate)) (n : Nat) (body : Bytes) :
    layout.radixMark radix n body = layout.before conversion n := by
  have unmarked (plain : layout.flags.alternate = false) :
      layout.radixMark radix n body = layout.before conversion n := by
    cases conversion <;> cases unsigned <;>
      simp [radixMark, Layout.before, IntegerConversion.isSigned, plain]
  have marked (alternate : layout.flags.alternate = true) :
      layout.radixMark radix n body = layout.before conversion n := by
    cases conversion <;> cases unsigned
    case u =>
      simp [radixMark, Layout.before, IntegerConversion.isSigned, IntegerConversion.mark]
    case o => exact absurd ⟨rfl, alternate⟩ ordinary
    all_goals
      by_cases zero : n = 0 <;>
        simp [radixMark, Layout.before, IntegerConversion.isSigned, IntegerConversion.mark,
          alternate, zero]
  cases alternate : layout.flags.alternate with
  | false => exact unmarked alternate
  | true => exact marked alternate

theorem prescribes_unsigned {conversion : IntegerConversion} {radix : Radix}
    (unsigned : conversion.conversion = .unsigned radix) (n : Nat) :
    layout.Prescribes conversion n ((layout.unsigned radix n).write layout) := by
  by_cases octal : conversion = .o ∧ layout.flags.alternate
  · obtain ⟨rfl, alternate⟩ := octal
    cases unsigned
    exact prescribes_octal alternate n
  · have asks : layout.Asks conversion n (layout.precision.getD 1) := by
      rw [Asks, if_neg octal]
    refine prescribes_write asks (writes_atLeast conversion.one_lt_base _ _) rfl
      (radixMark_eq_before unsigned octal n _) ?_
    cases conversion <;> cases unsigned
    all_goals exact digits_eq_map layout (by decide) _ n

def integerText (layout : Layout) (conversion : IntegerConversion) (n : Int64) : Bytes :=
  match conversion.conversion with
  | .unsigned radix => (layout.unsigned radix (layout.unsignedOf n.toUInt64)).write layout
  | _ => (layout.signed (layout.signedOf n.toUInt64)).write layout

theorem prescribes_integerText (layout : Layout) (conversion : IntegerConversion) (n : Int64) :
    layout.Prescribes conversion (layout.reduced conversion n)
      (layout.integerText conversion n) := by
  have signed (yes : conversion.isSigned = true) :
      layout.reduced conversion n = layout.signedOf n.toUInt64 := by
    rw [reduced, if_pos yes, signedOf_eq]
  have unsigned (no : ¬ conversion.isSigned = true) :
      layout.reduced conversion n = (layout.unsignedOf n.toUInt64 : Int) := by
    rw [reduced, if_neg no, unsignedOf_eq]
  cases conversion with
  | d | i =>
      rw [signed rfl]
      exact prescribes_signed rfl _
  | _ =>
      rw [unsigned Bool.false_ne_true]
      exact prescribes_unsigned rfl _

end Layout

end NativeGate.Format
