import NativeGate.Host.Builtin
import NativeGate.Symbol.Table

namespace NativeGate

structure Host where
  objects : ObjectTable
  symbols : SymbolTable := {}
  /-- `$VERBOSE`: `nil`, `false` or `true`. -/
  verbose : Value := Value.no
  enabled : WarningCategory → Bool := WarningCategory.initiallyEnabled
  /-- Oldest first. -/
  warnings : List Bytes := []
  errinfo : Value := Value.nil
  log : List String := []

namespace Host

def outOfMemoryText : Bytes :=
  octets "failed to allocate memory"

/-- `rb_memerror` raises it, so it is there from the start. -/
def outOfMemory : Value :=
  Value.handle 19

def initialObjects : ObjectTable where
  slots := (Builtin.all.map fun b => Object.classDef b.definition).toArray.push
    (.exception Builtin.noMemoryError.value outOfMemoryText)

def new : Host where
  objects := initialObjects

instance : Inhabited Host := ⟨new⟩

def create (host : Host) (object : Object) : Value × Host :=
  let (handle, objects) := host.objects.add object
  (handle, { host with objects })

def newString (host : Host) (bytes : Bytes) (encoding : Encoding) : Value × Host :=
  host.create (.string { bytes, encoding })

/-- NoMemoryError has one exception for all. -/
def newException (host : Host) (kind : ErrorKind) (message : Bytes) : Value × Host :=
  if kind = .noMemoryError then (outOfMemory, host)
  else host.create (.exception kind.value message)

def classOf (host : Host) (v : Value) : Value :=
  if v.isFixnum then Builtin.integer.value
  else if v.isSymbol then Builtin.symbol.value
  else if v = Value.nil then Builtin.nilClass.value
  else if v = Value.yes then Builtin.trueClass.value
  else if v = Value.no then Builtin.falseClass.value
  else
    match host.objects.get? v with
    | some (.string _) => Builtin.string.value
    | some (.array _) => Builtin.array.value
    | some (.classDef _) => Builtin.metaclass.value
    | some (.record definition _) => definition
    | some (.exception definition _) => definition
    | none => Builtin.object.value

def superclass? (host : Host) (definition : Value) : Option Value :=
  (host.objects.classDef? definition).bind (·.superclass)

def descendsWithin (host : Host) (target : Value) : Nat → Value → Bool
  | 0, current => current = target
  | steps + 1, current =>
      if current = target then true
      else
        match host.superclass? current with
        | some parent => host.descendsWithin target steps parent
        | none => false

/-- A walk longer than the object table has met a class twice and finds nothing new. -/
def isKindOf (host : Host) (v target : Value) : Bool :=
  host.descendsWithin target host.objects.size (host.classOf v)

def symbolId? (host : Host) (v : Value) : Option Id :=
  v.symbolId?.filter fun id => (host.symbols.entry? id).isSome

def symbolName (host : Host) (id : Id) : Bytes :=
  (host.symbols.name? id).getD []

/-- Name and encoding of a symbol; an unknown one is empty and binary. -/
def symbolParts (host : Host) (id : Id) : Bytes × Encoding :=
  match host.symbols.entry? id with
  | some entry => (entry.name, entry.encoding)
  | none => ([], .binary)

end Host

end NativeGate
