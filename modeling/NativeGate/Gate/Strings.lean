import NativeGate.Gate.Basic

namespace NativeGate.Strings

open NativeGate

variable {β ω : Type}

def encodingOf (pointer : EncodingPointer) : Native β ω Encoding :=
  match pointer.resolve? with
  | some encoding => return encoding
  | none => Proc.fail (.unknownEncoding (-1))

def coderangeFlags (string : Value) : Native β ω Int := do
  let flags ← Native.onEngine (Engine.perform .coderange [string])
  return ((flags.asFixnum?.getD 0).toInt32).toInt

/-- `rb_str_new_mutable_parser_string`. -/
def ofLiteral (bytes : Bytes) (pointer : EncodingPointer) : Native β ω Value := do
  let number ← Native.engineNumber
  let encoding ← encodingOf pointer
  Native.atEngine number (Engine.newString bytes encoding)

/-- `rb_str_new_parser_string`: frozen, with its coderange cached. -/
def frozenLiteral (bytes : Bytes) (pointer : EncodingPointer) : Native β ω Value := do
  let string ← ofLiteral bytes pointer
  Native.onEngine do
    let _ ← Engine.perform .freeze [string]
    let _ ← Engine.perform .coderange [string]
    return string

end NativeGate.Strings
