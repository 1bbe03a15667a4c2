import NativeGate.ErrorKind
import NativeGate.Object

namespace NativeGate

/-! Classes that exist from the start, in the order of their handles. -/

inductive Builtin
  | object
  | metaclass
  | string
  | symbol
  | array
  | integer
  | nilClass
  | trueClass
  | falseClass
  | struct
  | data
  | exception
  | standardError
  | typeError
  | argumentError
  | rangeError
  | localJumpError
  | noMemoryError
  | fatal
deriving DecidableEq, Repr

namespace Builtin

def all : List Builtin :=
  [.object, .metaclass, .string, .symbol, .array, .integer, .nilClass, .trueClass, .falseClass,
    .struct, .data, .exception, .standardError, .typeError, .argumentError, .rangeError,
    .localJumpError, .noMemoryError, .fatal]

def name : Builtin → String
  | .object => "Object"
  | .metaclass => "Class"
  | .string => "String"
  | .symbol => "Symbol"
  | .array => "Array"
  | .integer => "Integer"
  | .nilClass => "NilClass"
  | .trueClass => "TrueClass"
  | .falseClass => "FalseClass"
  | .struct => "Struct"
  | .data => "Data"
  | .exception => "Exception"
  | .standardError => "StandardError"
  | .typeError => "TypeError"
  | .argumentError => "ArgumentError"
  | .rangeError => "RangeError"
  | .localJumpError => "LocalJumpError"
  | .noMemoryError => "NoMemoryError"
  | .fatal => "fatal"

def superclass : Builtin → Option Builtin
  | .object => none
  | .standardError | .noMemoryError | .fatal => some .exception
  | .typeError | .argumentError | .rangeError | .localJumpError => some .standardError
  | _ => some .object

def kind : Builtin → ClassKind
  | .exception | .standardError | .typeError | .argumentError | .rangeError | .localJumpError
  | .noMemoryError | .fatal => .exception
  | _ => .plain

def value (b : Builtin) : Value :=
  Value.handle (UInt64.ofNat b.ctorIdx)

def definition (b : Builtin) : ClassDef where
  name := some (octets b.name)
  superclass := b.superclass.map value
  kind := b.kind

def ofErrorKind : ErrorKind → Builtin
  | .standardError => .standardError
  | .typeError => .typeError
  | .argumentError => .argumentError
  | .rangeError => .rangeError
  | .localJumpError => .localJumpError
  | .noMemoryError => .noMemoryError
  | .fatal => .fatal

end Builtin

def ErrorKind.value (kind : ErrorKind) : Value :=
  (Builtin.ofErrorKind kind).value

def ErrorKind.ofClass? (definition : Value) : Option ErrorKind :=
  all.find? (·.value = definition)

end NativeGate
