import NativeGate.Bytes

namespace NativeGate

inductive Encoding
  | binary
  | utf8
  | usAscii
deriving DecidableEq, Repr, Inhabited, Hashable

namespace Encoding

def all : List Encoding := [.binary, .utf8, .usAscii]

def index : Encoding → Int
  | .binary => 0
  | .utf8 => 1
  | .usAscii => 2

def ofIndex? (i : Int) : Option Encoding :=
  all.find? (·.index = i)

def name : Encoding → String
  | .binary => "ASCII-8BIT"
  | .utf8 => "UTF-8"
  | .usAscii => "US-ASCII"

/-- Octets below 0x80 mean the same characters under every encoding here. -/
def isAsciiCompatible : Encoding → Bool := fun _ => true

structure Descriptor where
  name : String
  index : Int
  minLength : Nat
  maxLength : Nat
deriving DecidableEq, Repr

def descriptor (e : Encoding) : Descriptor where
  name := e.name
  index := e.index
  minLength := 1
  maxLength := if e = .utf8 then 4 else 1

end Encoding

inductive EncodingPointer
  | null
  | known (encoding : Encoding)
  | foreign
deriving DecidableEq, Repr

/-- A null pointer means that the caller named no encoding and reads as binary. -/
def EncodingPointer.resolve? : EncodingPointer → Option Encoding
  | .null => some .binary
  | .known e => some e
  | .foreign => none

end NativeGate
