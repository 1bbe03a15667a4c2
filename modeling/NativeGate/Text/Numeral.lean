import NativeGate.Bytes

namespace NativeGate.Numeral

open NativeGate

/-! Numbers written in a base of up to sixteen, most significant digit first. -/

def digitsOnto (base n : Nat) (tail : List Nat) : List Nat :=
  if _h : base < 2 ∨ n < base then n :: tail
  else digitsOnto base (n / base) (n % base :: tail)
termination_by n
decreasing_by exact Nat.div_lt_self (by omega) (by omega)

def digits (base n : Nat) : List Nat :=
  digitsOnto base n []

def value (base : Nat) (ds : List Nat) : Nat :=
  ds.foldl (fun n d => n * base + d) 0

def appendUpTo (most base n d : Nat) : Nat :=
  min (n * base + d) most

/-- The value of a digit string, saturating at `most`. -/
def valueUpTo (most base : Nat) (ds : List Nat) : Nat :=
  ds.foldl (appendUpTo most base) 0

theorem appendUpTo_min {most base : Nat} (h : 0 < base) (n d : Nat) :
    appendUpTo most base (min n most) d = min (n * base + d) most := by
  unfold appendUpTo
  rcases Nat.le_total n most with hle | hle
  · rw [Nat.min_eq_left hle]
  · have hcap : most ≤ most * base := Nat.le_mul_of_pos_right _ h
    have hgrow : most * base ≤ n * base := Nat.mul_le_mul_right _ hle
    rw [Nat.min_eq_right hle]
    omega

theorem valueUpTo_eq {most base : Nat} (h : 0 < base) (ds : List Nat) :
    valueUpTo most base ds = min (value base ds) most := by
  have step (n : Nat) :
      ds.foldl (appendUpTo most base) (min n most) =
        min (ds.foldl (fun n d => n * base + d) n) most := by
    induction ds generalizing n with
    | nil => rfl
    | cons d ds ih => rw [List.foldl_cons, List.foldl_cons, appendUpTo_min h, ih]
  simpa [valueUpTo, value] using step 0

inductive LetterCase
  | lower
  | upper
deriving DecidableEq, Repr

def digitOctet (letters : LetterCase) (d : Nat) : UInt8 :=
  if d < 10 then UInt8.ofNat (48 + d)
  else
    match letters with
    | .lower => UInt8.ofNat (87 + d)
    | .upper => UInt8.ofNat (55 + d)

def inBase (base : Nat) (letters : LetterCase) (n : Nat) : Bytes :=
  (digits base n).map (digitOctet letters)

def decimal (n : Nat) : Bytes :=
  inBase 10 .lower n

def integer (n : Int) : Bytes :=
  if n < 0 then 45 :: decimal n.natAbs else decimal n.natAbs

/-- Zeros in front bring a digit string up to a least width. -/
def padded (width : Nat) (body : Bytes) : Bytes :=
  List.replicate (width - body.length) 48 ++ body

def address (word : UInt64) : Bytes :=
  octets "0x" ++ padded 16 (inBase 16 .lower word.toNat)

def isDigit (b : UInt8) : Bool :=
  48 ≤ b && b ≤ 57

end NativeGate.Numeral
