import NativeGate.Encoding
import NativeGate.NonAscii
import NativeGate.Text.Utf8

namespace NativeGate

inductive Coderange
  | unknown
  | sevenBit
  | valid
  | broken
deriving DecidableEq, Repr, Inhabited

namespace Coderange

def flags : Coderange → Int32
  | .unknown => 0
  | .sevenBit => 0x100000
  | .valid => 0x200000
  | .broken => 0x300000

def ofFlags (bits : Int32) : Coderange :=
  let masked := bits &&& 0x300000
  if masked = 0x100000 then .sevenBit
  else if masked = 0x200000 then .valid
  else if masked = 0x300000 then .broken
  else .unknown

/-- Octets before the first high one are ASCII, so UTF-8 is checked from there on only. -/
def scan (bytes : Bytes) (encoding : Encoding) : Coderange :=
  match NonAscii.search bytes with
  | none => .sevenBit
  | some first =>
      match encoding with
      | .binary => .valid
      | .usAscii => .broken
      | .utf8 => if Utf8.isValid (bytes.drop first) then .valid else .broken

end Coderange

end NativeGate
