import NativeGate.Proofs.Format.Spelling

namespace NativeGate.Format

open NativeGate Numeral

structure IntegerDirective where
  flags : List Flag
  width : Figure
  precision : Option Figure
  modifier : Modifier
  conversion : IntegerConversion
  /-- A zero there would be a flag. -/
  width_head : ∀ ds, width = .digits ds → ds.head? ≠ some 0
  width_le : width.number.natAbs ≤ mostField
  precision_le : ∀ figure ∈ precision, figure.number ≤ mostField

namespace IntegerDirective

variable (d : IntegerDirective)

def spelled : Bytes :=
  0x25 :: (d.flags.map Flag.octet ++ (d.width.octets ++
    (precisionOctets d.precision ++ (d.modifier.octets ++ [d.conversion.letter]))))

def arguments (n : Int64) : List Argument :=
  d.width.arguments ++ ((d.precision.map Figure.arguments).getD [] ++ [.integer n])

def layout : Layout where
  flags :=
    if d.width.number < 0 then { Flags.among d.flags with left := true } else Flags.among d.flags
  width := d.width.number.natAbs
  precision := d.precision.bind fun figure =>
    if figure.number < 0 then none else some figure.number.toNat
  length := d.modifier.length

def unfinished : Directive where
  flags := Flags.among d.flags
  width := d.width.amount
  precision := d.precision.map Figure.amount
  length := d.modifier.length

def directive : Directive :=
  { d.unfinished with conversion := d.conversion.conversion }

end IntegerDirective

namespace IntegerDirective

variable (d : IntegerDirective)

def spelling : Spelling where
  flags := d.flags
  width := d.width
  precision := d.precision
  modifier := d.modifier
  letter := .integer d.conversion
  marked := nofun

theorem number_width_le : d.width.number ≤ mostField :=
  Int.le_natAbs.trans (Int.ofNat_le.mpr d.width_le)

theorem directive_spelling : d.spelling.directive = d.directive := by
  have flags : d.width.flagged (Flags.among d.flags) = Flags.among d.flags :=
    Figure.flagged_of_head d.width_head _
  have width : d.width.read = d.width.amount := Figure.read_eq_amount d.number_width_le
  have precision : d.precision.map Figure.read = d.precision.map Figure.amount :=
    Option.map_congr fun figure member => Figure.read_eq_amount (d.precision_le figure member)
  rw [Spelling.directive, Spelling.unfinished]
  dsimp only [spelling]
  rw [flags, width, precision]
  rfl

def MayBeMarked : Prop :=
  d.conversion = .i ∧ d.modifier.length = .long

theorem pieces_spelled_append {more : Bytes}
    (unmarked : d.MayBeMarked → more.head? ≠ some valueMark) :
    pieces (d.spelled ++ more) = .directive d.directive :: pieces more := by
  rw [← d.directive_spelling]
  refine d.spelling.pieces_append fun may => unmarked ⟨?_, may.2⟩
  injection may.1

end IntegerDirective

end NativeGate.Format
