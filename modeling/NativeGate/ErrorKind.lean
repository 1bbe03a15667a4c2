import NativeGate.Bytes

namespace NativeGate

inductive ErrorKind
  | standardError
  | typeError
  | argumentError
  | rangeError
  | localJumpError
  | noMemoryError
  | fatal
deriving DecidableEq, Repr

namespace ErrorKind

def all : List ErrorKind :=
  [.standardError, .typeError, .argumentError, .rangeError, .localJumpError, .noMemoryError,
    .fatal]

def className : ErrorKind → String
  | .standardError => "StandardError"
  | .typeError => "TypeError"
  | .argumentError => "ArgumentError"
  | .rangeError => "RangeError"
  | .localJumpError => "LocalJumpError"
  | .noMemoryError => "NoMemoryError"
  | .fatal => "fatal"

def ofClassName? (name : String) : Option ErrorKind :=
  all.find? (·.className = name)

end ErrorKind

inductive WarningCategory
  | general
  | deprecated
  | experimental
  | performance
deriving DecidableEq, Repr

namespace WarningCategory

def all : List WarningCategory := [.general, .deprecated, .experimental, .performance]

def raw : WarningCategory → Int
  | .general => 0
  | .deprecated => 1
  | .experimental => 2
  | .performance => 3

def ofRaw? (n : Int) : Option WarningCategory :=
  all.find? (·.raw = n)

def name : WarningCategory → String
  | .general => ""
  | .deprecated => "deprecated"
  | .experimental => "experimental"
  | .performance => "performance"

/-- Only experimental and general warnings are shown unless asked for. -/
def initiallyEnabled : WarningCategory → Bool
  | .general | .experimental => true
  | .deprecated | .performance => false

end WarningCategory

end NativeGate
