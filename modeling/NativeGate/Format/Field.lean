import NativeGate.Binary64
import NativeGate.Format.Directive

namespace NativeGate.Format

open NativeGate

/-- What a directive asks for once its arguments for width and precision are known. -/
structure Layout where
  flags : Flags
  width : Nat
  precision : Option Nat
  length : Length
deriving DecidableEq, Repr

/-- A sign or a mark of the radix, what stands behind it, and whether zeros may come between. -/
structure Field where
  lead : Bytes := []
  body : Bytes
  zeroFill : Bool := false
deriving DecidableEq, Repr

def spaces (n : Nat) : Bytes :=
  List.replicate n 0x20

def Field.write (field : Field) (layout : Layout) : Bytes :=
  let pad := layout.width - (field.lead.length + field.body.length)
  if layout.flags.left then field.lead ++ field.body ++ spaces pad
  else if layout.flags.zero && field.zeroFill then
    field.lead ++ List.replicate pad 0x30 ++ field.body
  else spaces pad ++ field.lead ++ field.body

namespace Layout

def sign (layout : Layout) (negative : Bool) : Bytes :=
  if negative then octets "-"
  else if layout.flags.plus then octets "+"
  else if layout.flags.space then octets " "
  else []

def signedOf (layout : Layout) (word : UInt64) : Int :=
  (word.toNat : Int).bmod layout.length.modulus

def unsignedOf (layout : Layout) (word : UInt64) : Nat :=
  word.toNat % layout.length.modulus

/-- The precision is a least number of digits, and zero with none asked for has no digit. -/
def digits (layout : Layout) (base : Nat) (letters : Numeral.LetterCase) (n : Nat) : Bytes :=
  match layout.precision with
  | some 0 => if n = 0 then [] else Numeral.inBase base letters n
  | some least => Numeral.padded least (Numeral.inBase base letters n)
  | none => Numeral.inBase base letters n

def signed (layout : Layout) (n : Int) : Field where
  lead := layout.sign (n < 0)
  body := layout.digits 10 .lower n.natAbs
  zeroFill := layout.precision.isNone

def radixMark (layout : Layout) (radix : Radix) (n : Nat) (body : Bytes) : Bytes :=
  if layout.flags.alternate then
    match radix with
    | .decimal => []
    | .octal => if body.head? = some 0x30 then [] else octets "0"
    | .hexadecimal .lower => if n = 0 then [] else octets "0x"
    | .hexadecimal .upper => if n = 0 then [] else octets "0X"
  else []

def digitsIn (layout : Layout) (radix : Radix) (n : Nat) : Bytes :=
  match radix with
  | .decimal => layout.digits 10 .lower n
  | .octal => layout.digits 8 .lower n
  | .hexadecimal letters => layout.digits 16 letters n

def unsigned (layout : Layout) (radix : Radix) (n : Nat) : Field where
  lead := layout.radixMark radix n (layout.digitsIn radix n)
  body := layout.digitsIn radix n
  zeroFill := layout.precision.isNone

/-- The precision is the greatest number of octets. -/
def text (layout : Layout) (content : Option Bytes) : Field where
  body :=
    let content := content.getD (octets "(null)")
    match layout.precision with
    | some most => content.take most
    | none => content

def character (_ : Layout) (word : UInt64) : Field where
  body := [word.toUInt8]

def pointer (_ : Layout) (address : UInt64) : Field where
  lead := octets "0x"
  body := Numeral.inBase 16 .lower address.toNat

/-- Finite doubles can be asked for no more places than this. -/
def mostPlaces : Nat := 65535

def places (layout : Layout) : Nat :=
  layout.precision.getD 6

def floatBody (layout : Layout) (style : FloatStyle) (x : Binary64) : Bytes :=
  if x.isNan then octets "nan"
  else if !x.isFinite then octets "inf"
  else
    match style with
    | .fixed => Decimal.fixed x layout.places
    | .scientific => Decimal.scientific x layout.places

def float? (layout : Layout) (style : FloatStyle) (x : Binary64) : Option Field :=
  if x.isFinite && layout.places > mostPlaces then none
  else
    some {
      lead := layout.sign (x.isNegative && !x.isNan)
      body := layout.floatBody style x
      zeroFill := x.isFinite }

end Layout

end NativeGate.Format
