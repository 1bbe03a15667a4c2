import NativeGate.Host.Inspect
import NativeGate.Host.Operation
import NativeGate.Symbol.Name

namespace NativeGate

/-! Deciding what an operation does.  A plan only looks at the host: it ends in one effect, or in a
complaint, and then nothing of the operation happens. -/

inductive Complaint
  | raise (kind : ErrorKind) (message : Bytes)
  | outOfMemory
  /-- The text of a value that contains itself never ends. -/
  | endless
deriving DecidableEq, Repr

inductive Effect
  | reply (v : Value)
  | intern (name : Bytes) (encoding : Encoding)
  | nameString (id : Id)
  | create (object : Object)
  | freeze (string : Value)
  | classify (string : Value)
  | define (definition : ClassDef) (binding : Option (Value × Bytes))
  | warn (line : Bytes)
  | setErrinfo (v : Value)
deriving DecidableEq, Repr

abbrev Planned (α : Type) := Except Complaint α

def typeError {α : Type} (message : Bytes) : Planned α :=
  .error (.raise .typeError message)

def argumentError {α : Type} (message : Bytes) : Planned α :=
  .error (.raise .argumentError message)

def argument (op : Operation) (args : List Value) (i : Nat) : Planned Value :=
  match args[i]? with
  | some v => .ok v
  | none =>
      argumentError <|
        octets "wrong number of arguments for " ++ octets op.name ++ octets " (given " ++
          Numeral.decimal args.length ++ octets ", expected at least " ++
          Numeral.decimal (i + 1) ++ octets ")"

namespace Host

def inspected (host : Host) (v : Value) : Planned Bytes :=
  match host.inspect? v with
  | some text => .ok text
  | none => .error .endless

def complainOf {α : Type} (host : Host) (v : Value) (complaint : String) : Planned α := do
  typeError ((← host.inspected v) ++ octets complaint)

def asSymbol (host : Host) (v : Value) : Planned Id :=
  match host.symbolId? v with
  | some id => .ok id
  | none => host.complainOf v " is not a symbol"

def asString (host : Host) (v : Value) : Planned ManagedString :=
  match host.objects.string? v with
  | some s => .ok s
  | none =>
      typeError <|
        octets "wrong argument type " ++ host.className (host.classOf v) ++
          octets " (expected String)"

def symbolArgument (host : Host) (op : Operation) (args : List Value) (i : Nat) : Planned Id := do
  host.asSymbol (← argument op args i)

def stringArgument (host : Host) (op : Operation) (args : List Value) (i : Nat) :
    Planned ManagedString := do
  host.asString (← argument op args i)

def duplicateMember {α : Type} (host : Host) (id : Id) : Planned α :=
  argumentError (octets "duplicate member: " ++ host.symbolName id)

/-- Member names after those in `known`, each a symbol that has not come before. -/
def distinctMembers (host : Host) (known : List Id) : List Value → Planned (List Id)
  | [] => .ok known
  | item :: rest => do
      let id ← host.asSymbol item
      if id ∈ known then host.duplicateMember id
      else host.distinctMembers (known ++ [id]) rest

def memberIds (host : Host) (members : Value) : Planned (List Id) :=
  match host.objects.array? members with
  | some items => host.distinctMembers [] items
  | none => typeError (octets "members must be an Array")

def extendMembers (host : Host) (inherited : List Id) : List Id → Planned (List Id)
  | [] => .ok inherited
  | id :: rest =>
      if id ∈ inherited then host.duplicateMember id
      else host.extendMembers (inherited ++ [id]) rest

def structMembers (host : Host) (definition : Value) : Planned (List Id) :=
  match host.objects.classDef? definition with
  | some c =>
      if c.kind = .record then .ok c.members
      else host.complainOf definition " is not a Struct class"
  | none => host.complainOf definition " is not a Struct class"

/-- A constant under Object has its own name, any other one its namespace's in front. -/
def qualifiedName (host : Host) (scope : Value) (name : Bytes) : Bytes :=
  if scope = Builtin.object.value then name
  else Utf8.lossy (host.className scope) ++ octets "::" ++ name

def defineStruct (host : Host) (scope : Value) (name : Option Bytes) (members : Value) :
    Planned Effect := do
  let members ← host.memberIds members
  match name with
  | none =>
      return .define
        { name := none, superclass := some Builtin.struct.value, kind := .record, members } none
  | some name =>
      if SymbolName.isConstant name then
        let shown := Utf8.lossy name
        return .define
          { name := some (host.qualifiedName scope shown)
            superclass := some Builtin.struct.value
            kind := .record
            members }
          (some (scope, shown))
      else
        argumentError (octets "identifier " ++ name ++ octets " needs to be constant")

/-- The members a data class inherits: its superclass has to be Data or a data class. -/
def inheritedMembers (host : Host) (superclass : Value) : Planned (List Id) :=
  match host.objects.classDef? superclass with
  | some c =>
      if superclass = Builtin.data.value ∨ c.kind = .data then .ok c.members
      else typeError (octets "superclass must be Data or a Data class")
  | none => typeError (octets "superclass must be Data or a Data class")

def defineData (host : Host) (superclass members : Value) : Planned Effect := do
  let superclass := if superclass = Value.nil then Builtin.data.value else superclass
  let inherited ← host.inheritedMembers superclass
  let members ← host.extendMembers inherited (← host.memberIds members)
  return .define { name := none, superclass := some superclass, kind := .data, members } none

def warningLine (category : Option WarningCategory) (message : Bytes) : Bytes :=
  match category with
  | none | some .general => octets "warning: " ++ Utf8.lossy message
  | some category =>
      octets "warning: [" ++ octets category.name ++ octets "] " ++ Utf8.lossy message

def categoryOf? (v : Value) : Option WarningCategory :=
  v.asFixnum?.bind fun n => WarningCategory.ofRaw? n.toInt

def answer (host : Host) (query : Query) (args : List Value) : Planned Bool :=
  let op := Operation.ask query
  match query with
  | .symbolP => do return (host.symbolId? (← argument op args 0)).isSome
  | .stringP => do return (host.objects.string? (← argument op args 0)).isSome
  | .isClassId => do
      return SymbolName.isClassVariable (host.symbolName (← host.symbolArgument op args 0))
  | .isConstId => do
      return SymbolName.isConstant (host.symbolName (← host.symbolArgument op args 0))
  | .isInstanceId => do
      return SymbolName.isInstanceVariable (host.symbolName (← host.symbolArgument op args 0))
  | .categoryEnabledP => do
      match categoryOf? (← argument op args 0) with
      | some category => return host.enabled category
      | none => argumentError (octets "unknown warning category")
  | .isKindOf => do
      let v ← argument op args 0
      let target ← argument op args 1
      return host.isKindOf v target

def symbolOfNumber? (host : Host) (v : Value) : Option Value :=
  v.asFixnum?.bind fun n =>
    if (host.symbols.entry? n.toUInt64).isSome then some (.symbol n.toUInt64) else none

def nameString (host : Host) (id : Id) : Effect :=
  match (host.symbols.entry? id).bind (·.text) with
  | some text => .reply text
  | none => .nameString id

def plan (host : Host) (op : Operation) (args : List Value) : Planned Effect :=
  match op with
  | .ask query => do return .reply (.ofBool (← host.answer query args))
  | .intern => do
      let s ← host.stringArgument op args 0
      return .intern s.bytes s.encoding
  | .symToId => do
      let id ← host.symbolArgument op args 0
      return .reply (.fixnum id.toInt64)
  | .idToSym => do
      match host.symbolOfNumber? (← argument op args 0) with
      | some symbol => return .reply symbol
      | none => argumentError (octets "unknown identifier")
  | .symToString | .idToString => do
      return host.nameString (← host.symbolArgument op args 0)
  | .idAttrset => do
      let (name, encoding) := host.symbolParts (← host.symbolArgument op args 0)
      return .intern (name ++ octets "=") encoding
  | .checkSymbol => do
      let s ← host.stringArgument op args 0
      match host.symbols.lookup? s.bytes s.encoding with
      | some id => return .reply (.symbol id)
      | none => return .reply .nil
  | .symToS => do
      let (bytes, encoding) := host.symbolParts (← host.symbolArgument op args 0)
      return .create (.string { bytes, encoding })
  | .toSymbol => do
      let v ← argument op args 0
      if (host.symbolId? v).isSome then return .reply v
      else
        match host.objects.string? v with
        | some s => return .intern s.bytes s.encoding
        | none => host.complainOf v " is not a symbol nor a string"
  | .checkStringType => do
      let v ← argument op args 0
      return .reply (if (host.objects.string? v).isSome then v else .nil)
  | .objAsString => do
      let v ← argument op args 0
      match host.toString? v with
      | some .itself => return .reply v
      | some (.fresh bytes encoding) => return .create (.string { bytes, encoding })
      | none => .error .endless
  | .inspect => do
      let bytes ← host.inspected (← argument op args 0)
      return .create (.string { bytes, encoding := .utf8 })
  | .freeze => do
      let v ← argument op args 0
      let _ ← host.asString v
      return .freeze v
  | .coderange => do
      let v ← argument op args 0
      let _ ← host.asString v
      return .classify v
  | .arrayNew => return .create (.array args)
  | .structDefine => do
      let name ← argument op args 0
      let members ← argument op args 1
      if name = Value.nil then host.defineStruct Builtin.struct.value none members
      else
        let name ← host.asString name
        host.defineStruct Builtin.struct.value (some name.bytes) members
  | .structDefineUnder => do
      let scope ← argument op args 0
      let name ← host.stringArgument op args 1
      let members ← argument op args 2
      if (host.objects.classDef? scope).isSome then
        host.defineStruct scope (some name.bytes) members
      else typeError (octets "namespace is not a class")
  | .structSize => do
      let members ← host.structMembers (← argument op args 0)
      return .reply (.fixnum (Int64.ofNat members.length))
  | .structNew => do
      let definition ← argument op args 0
      let members ← host.structMembers definition
      let fields := args.drop 1
      if fields.length = members.length then return .create (.record definition fields)
      else argumentError (octets "struct size differs")
  | .dataDefine => do
      let superclass ← argument op args 0
      let members ← argument op args 1
      host.defineData superclass members
  | .verbose => return .reply host.verbose
  | .warn => do
      let message ← host.stringArgument op args 0
      return .warn (warningLine none message.bytes)
  | .categoryWarn => do
      let category ← argument op args 0
      let message ← host.stringArgument op args 1
      return .warn (warningLine (categoryOf? category) message.bytes)
  | .fatal => do
      let message ← host.stringArgument op args 0
      .error (.raise .fatal message.bytes)
  | .bug => do
      let _ ← host.stringArgument op args 0
      return .reply .nil
  | .memoryError => .error .outOfMemory
  | .errinfo => return .reply host.errinfo
  | .setErrinfo => do return .setErrinfo (← argument op args 0)
  | .standardError => return .reply Builtin.standardError.value

end Host

end NativeGate
