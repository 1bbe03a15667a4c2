import NativeGate.Bytes

namespace NativeGate.SymbolName

open NativeGate

def isUpper (b : UInt8) : Bool :=
  65 ≤ b && b ≤ 90

def startsIdentifier (b : UInt8) : Bool :=
  isUpper b || (97 ≤ b && b ≤ 122) || b = 95 || b ≥ 0x80

/-- `Foo` -/
def isConstant : Bytes → Bool
  | first :: _ => isUpper first
  | [] => false

/-- `@@foo` -/
def isClassVariable : Bytes → Bool
  | 64 :: 64 :: first :: _ => startsIdentifier first
  | _ => false

/-- `@foo` -/
def isInstanceVariable : Bytes → Bool
  | 64 :: first :: _ => startsIdentifier first
  | _ => false

end NativeGate.SymbolName
