namespace NativeGate

abbrev Bytes := List UInt8

def octets (text : String) : Bytes :=
  text.toUTF8.data.toList

namespace Bytes

/-- A C string ends before its first zero octet. -/
def beforeNul (bytes : Bytes) : Bytes :=
  bytes.takeWhile (· ≠ 0)

/-- What a C caller passing a pointer and a signed length refers to. -/
def view (bytes : Bytes) (isNull : Bool) (length : Int) : Bytes :=
  if isNull then [] else bytes.take length.toNat

def firstHigh? (bytes : Bytes) : Option Nat :=
  bytes.findIdx? (· ≥ 0x80)

def joinWith (separator : Bytes) : List Bytes → Bytes
  | [] => []
  | [last] => last
  | first :: rest => first ++ separator ++ joinWith separator rest

end Bytes

end NativeGate
