import NativeGate.Text.Numeral

namespace NativeGate

/-! Doubles by their bits, and their exact decimal texts. -/

structure Binary64 where
  bits : UInt64
deriving DecidableEq, Repr

namespace Binary64

def isNegative (x : Binary64) : Bool :=
  x.bits >>> 63 = 1

def exponentField (x : Binary64) : Nat :=
  ((x.bits >>> 52) &&& 0x7ff).toNat

def fractionField (x : Binary64) : Nat :=
  (x.bits &&& 0xfffffffffffff).toNat

def isFinite (x : Binary64) : Bool :=
  x.exponentField ≠ 0x7ff

def isNan (x : Binary64) : Bool :=
  x.exponentField = 0x7ff && x.fractionField ≠ 0

def significand (x : Binary64) : Nat :=
  if x.exponentField = 0 then x.fractionField else x.fractionField + 4503599627370496

/-- The magnitude is `significand * 2 ^ exponent`. -/
def exponent (x : Binary64) : Int :=
  (max x.exponentField 1 : Nat) - 1075

def numerator (x : Binary64) : Nat :=
  x.significand * Nat.pow 2 x.exponent.toNat

def denominator (x : Binary64) : Nat :=
  Nat.pow 2 (-x.exponent).toNat

end Binary64

namespace Decimal

/-- `num / den` rounded to the nearest whole number, ties to even. -/
def roundHalfEven (num den : Nat) : Nat :=
  let quotient := num / den
  let twice := 2 * (num % den)
  if twice < den ∨ (twice = den ∧ quotient % 2 = 0) then quotient else quotient + 1

/-- No double has more than 1074 places after the point, nor more significant digits. -/
def maxPlaces : Nat := 1074

def zeros (n : Nat) : Bytes :=
  List.replicate n 48

def withPoint (whole fraction : Bytes) : Bytes :=
  if fraction.isEmpty then whole else whole ++ 46 :: fraction

/-- `%f`: the magnitude with `places` digits after the point. -/
def fixed (x : Binary64) (places : Nat) : Bytes :=
  let shown := min places maxPlaces
  let scaled := roundHalfEven (x.numerator * Nat.pow 10 shown) x.denominator
  let ds := Numeral.padded (shown + 1) (Numeral.decimal scaled)
  let point := ds.length - shown
  withPoint (ds.take point) (ds.drop point ++ zeros (places - shown))

/-- The exponent of the greatest power of ten up to `num / den`. -/
def exponentOf (num den : Nat) : Int :=
  let guess : Int := (Numeral.digits 10 num).length - (Numeral.digits 10 den).length
  if den * Nat.pow 10 guess.toNat ≤ num * Nat.pow 10 (-guess).toNat then guess else guess - 1

def significant (num den digits : Nat) : Nat × Int :=
  let e := exponentOf num den
  let shift : Int := e - digits
  let scaled := roundHalfEven (num * Nat.pow 10 (-shift).toNat) (den * Nat.pow 10 shift.toNat)
  if scaled = Nat.pow 10 (digits + 1) then (Nat.pow 10 digits, e + 1) else (scaled, e)

def exponentText (e : Int) : Bytes :=
  octets "e" ++ (if e < 0 then octets "-" else octets "+") ++
    Numeral.padded 2 (Numeral.decimal e.natAbs)

/-- `%e`: one digit, `places` digits after the point, and a power of ten. -/
def scientific (x : Binary64) (places : Nat) : Bytes :=
  let shown := min places maxPlaces
  let (scaled, e) :=
    if x.significand = 0 then (0, 0) else significant x.numerator x.denominator shown
  let ds := Numeral.padded (shown + 1) (Numeral.decimal scaled)
  withPoint (ds.take 1) (ds.drop 1 ++ zeros (places - shown)) ++ exponentText e

end Decimal

end NativeGate
