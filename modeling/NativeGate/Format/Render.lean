import NativeGate.Engine
import NativeGate.Format.Field
import NativeGate.Format.Scan
import NativeGate.Trailing

namespace NativeGate.Format

open NativeGate

/-! Formatting: pieces are written from left to right, and each directive reads its width, its
precision and its argument in this order. -/

variable {α β : Type}

def malformed (message : Bytes) : Trailing (Engine β) α :=
  Trailing.onState (Engine.failWith .argumentError message)

def checkField (n : Nat) (what : String) : Trailing (Engine β) Nat :=
  if n ≤ mostField then pure n else malformed (octets what ++ octets " too big")

/-- The width, and the flags it leaves: a negative one read from an argument asks for the left
edge. -/
def readWidth (d : Directive) : Trailing (Engine β) (Flags × Nat) := do
  match d.width with
  | .given n => return (d.flags, ← checkField n "width")
  | .star =>
      let n := (← Cursor.read .int).int.toInt
      let flags := if n < 0 then { d.flags with left := true } else d.flags
      return (flags, ← checkField n.natAbs "width")

/-- The precision; a negative one read from an argument counts as none. -/
def readPrecision (d : Directive) : Trailing (Engine β) (Option Nat) := do
  match d.precision with
  | none => return none
  | some (.given n) => return some (← checkField n "precision")
  | some .star =>
      let n := (← Cursor.read .int).int.toInt
      return if n < 0 then none else some n.toNat

def readInteger (length : Length) : Proc Cursor UInt64 := do
  return (← Cursor.read (if length = .long then .long else .int)).word

/-- `+` asks for the text of `rb_inspect` in place of that of `rb_obj_as_string`. -/
def valueText (flags : Flags) (v : Value) : Trailing (Engine β) Bytes :=
  Trailing.onState (if flags.plus then Engine.inspect v else Engine.textOf v)

def unknownText (letter : UInt8) : Bytes :=
  octets "malformed format string - %" ++ octets (String.singleton (Char.ofNat letter.toNat))

def missingText : Bytes :=
  octets "incomplete format specifier; use %% (double %) instead"

def tooManyPlaces : Bytes :=
  octets "Formatting argument out of range"

def convert (layout : Layout) : Conversion → Trailing (Engine β) Bytes
  | .percent => return [0x25]
  | .value => do
      let v ← Cursor.readValue
      return Field.write { body := ← valueText layout.flags v } layout
  | .signed => do
      let n := layout.signedOf (← readInteger layout.length)
      return (layout.signed n).write layout
  | .unsigned radix => do
      let n := layout.unsignedOf (← readInteger layout.length)
      return (layout.unsigned radix n).write layout
  | .character => do
      return (layout.character (← Cursor.read .int).word).write layout
  | .text => do
      return (layout.text (← Cursor.readText)).write layout
  | .pointer => do
      return (layout.pointer (← Cursor.read .pointer).word).write layout
  | .float style => do
      match layout.float? style ⟨(← Cursor.read .double).word⟩ with
      | some field => return field.write layout
      | none => throw (.foreign tooManyPlaces)
  | .unknown letter => malformed (unknownText letter)
  | .missing => malformed missingText

def renderPiece : Piece → Trailing (Engine β) Bytes
  | .literal b => return [b]
  | .directive d => do
      let (flags, width) ← readWidth d
      let precision ← readPrecision d
      convert { flags, width, precision, length := d.length } d.conversion

def renderPieces : List Piece → Trailing (Engine β) Bytes
  | [] => return []
  | piece :: rest => do
      let front ← renderPiece piece
      return front ++ (← renderPieces rest)

def render (format : Bytes) : Trailing (Engine β) Bytes :=
  renderPieces (pieces format)

end NativeGate.Format
