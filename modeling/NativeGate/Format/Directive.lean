import NativeGate.Text.Numeral

namespace NativeGate.Format

open NativeGate

structure Flags where
  left : Bool := false
  plus : Bool := false
  space : Bool := false
  zero : Bool := false
  alternate : Bool := false
deriving DecidableEq, Repr

/-- Widths and precisions have to fit into an `int`. -/
def mostField : Nat := 2147483647

/-- Widths and precisions that are written out saturate at the largest word. -/
def mostWord : Nat := 18446744073709551615

inductive Amount
  | given (n : Nat)
  | star
deriving DecidableEq, Repr

inductive Length
  | int
  | char
  | short
  | long
deriving DecidableEq, Repr

def Length.bits : Length → Nat
  | .int => 32
  | .char => 8
  | .short => 16
  | .long => 64

def Length.modulus (length : Length) : Nat :=
  Nat.pow 2 length.bits

inductive Radix
  | decimal
  | octal
  | hexadecimal (letters : Numeral.LetterCase)
deriving DecidableEq, Repr

inductive FloatStyle
  | fixed
  | scientific
deriving DecidableEq, Repr

inductive Conversion
  | percent
  | value
  | signed
  | unsigned (radix : Radix)
  | character
  | text
  | pointer
  | float (style : FloatStyle)
  | unknown (letter : UInt8)
  | missing
deriving DecidableEq, Repr

structure Directive where
  flags : Flags := {}
  width : Amount := .given 0
  precision : Option Amount := none
  length : Length := .int
  conversion : Conversion := .missing
deriving DecidableEq, Repr

inductive Piece
  | literal (b : UInt8)
  | directive (d : Directive)
deriving DecidableEq, Repr

end NativeGate.Format
