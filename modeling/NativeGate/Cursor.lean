import NativeGate.Binary64
import NativeGate.Value

namespace NativeGate

/-! Trailing arguments of a variadic call, and the forward-only cursor over them. -/

inductive Argument
  | value (v : Value)
  | integer (n : Int64)
  | double (x : Binary64)
  | text (address : UInt64) (content : Bytes)
  | pointer (address : UInt64)
  | null
deriving DecidableEq, Repr

inductive ReadKind
  | value
  | int
  | long
  | text
  | pointer
  | double
deriving DecidableEq, Repr

def ReadKind.name : ReadKind → String
  | .value => "Value"
  | .int => "Int"
  | .long => "Long"
  | .text => "CStr"
  | .pointer => "Pointer"
  | .double => "Double"

namespace Argument

def kind : Argument → ReadKind
  | .value _ => .value
  | .integer _ => .long
  | .double _ => .double
  | .text .. => .text
  | .pointer _ | .null => .pointer

/-- A zero word reads as a value, as a string and as a pointer. -/
def fits : Argument → ReadKind → Bool
  | .value _, .value => true
  | .integer _, .int | .integer _, .long => true
  | .double _, .double => true
  | .text .., .text | .text .., .pointer => true
  | .pointer _, .pointer => true
  | .null, .value | .null, .text | .null, .pointer => true
  | _, _ => false

def word : Argument → UInt64
  | .value v => v.bits
  | .integer n => n.toUInt64
  | .double x => x.bits
  | .text address _ => address
  | .pointer address => address
  | .null => 0

def content? : Argument → Option Bytes
  | .text _ content => some content
  | _ => none

end Argument

inductive CursorFault
  | exhausted (read : Nat)
  | mismatch (index : Nat) (expected passed : ReadKind)
deriving DecidableEq, Repr

def CursorFault.message : CursorFault → Bytes
  | .exhausted read =>
      octets "argument cursor exhausted after " ++ Numeral.decimal read ++ octets " arguments"
  | .mismatch index expected passed =>
      octets "argument " ++ Numeral.decimal index ++ octets " read as " ++ octets expected.name ++
        octets " but passed as " ++ octets passed.name

structure Cursor where
  rest : List Argument
  /-- Arguments taken so far, fitting or not. -/
  index : Nat := 0
  position : Nat := 0
  /-- Oldest first. -/
  attempts : List ReadKind := []
deriving DecidableEq, Repr

namespace Cursor

def start (arguments : List Argument) : Cursor where
  rest := arguments

/-- An argument of another type is used up all the same. -/
def next (kind : ReadKind) (cursor : Cursor) : Except CursorFault Argument × Cursor :=
  let attempts := cursor.attempts ++ [kind]
  match cursor.rest with
  | [] => (.error (.exhausted cursor.index), { cursor with attempts })
  | argument :: rest =>
      if argument.fits kind then
        (.ok argument,
          { rest, index := cursor.index + 1, position := cursor.position + 1, attempts })
      else
        (.error (.mismatch cursor.index kind argument.kind),
          { rest, index := cursor.index + 1, position := cursor.position, attempts })

end Cursor

def Argument.int (argument : Argument) : Int32 :=
  argument.word.toUInt32.toInt32

def Argument.long (argument : Argument) : Int64 :=
  argument.word.toInt64

end NativeGate
