import NativeGate.Host.Plan

namespace NativeGate

inductive Reply (α : Type)
  | value (a : α)
  | raised (exception : Value)
  | endless
deriving DecidableEq, Repr

def Reply.map {α β : Type} (f : α → β) : Reply α → Reply β
  | .value a => .value (f a)
  | .raised exception => .raised exception
  | .endless => .endless

namespace Host

def createNameString (host : Host) (id : Id) : Value × Host :=
  let (name, encoding) := host.symbolParts id
  let (text, host) := host.create (.string (.ofName name encoding))
  (text, { host with symbols := host.symbols.setText id text })

def flagsOf (host : Host) (string : Value) : Int32 :=
  match host.objects.string? string with
  | some s => s.classified.coderange.flags
  | none => 0

def defineClassDef (host : Host) (definition : ClassDef) (binding : Option (Value × Bytes)) :
    Value × Host :=
  let (handle, host) := host.create (.classDef definition)
  match binding with
  | none => (handle, host)
  | some (scope, name) =>
      (handle, { host with objects := host.objects.modifyClass scope (·.bind name handle) })

def carryOut (host : Host) : Effect → Value × Host
  | .reply v => (v, host)
  | .intern name encoding =>
      let (id, symbols) := host.symbols.intern name encoding
      (.symbol id, { host with symbols })
  | .nameString id => host.createNameString id
  | .create object => host.create object
  | .freeze string =>
      (string, { host with
        objects := host.objects.modifyString string fun s => { s with frozen := true } })
  | .classify string =>
      (.fixnum (host.flagsOf string).toInt64,
        { host with objects := host.objects.modifyString string (·.classified) })
  | .define definition binding => host.defineClassDef definition binding
  | .warn line => (.nil, { host with warnings := host.warnings ++ [line] })
  | .setErrinfo v => (.nil, { host with errinfo := v })

def complain {α : Type} (host : Host) : Complaint → Reply α × Host
  | .raise kind message =>
      let (exception, host) := host.newException kind message
      (.raised exception, host)
  | .outOfMemory => (.raised outOfMemory, host)
  | .endless => (.endless, host)

def perform (host : Host) (op : Operation) (args : List Value) : Reply Value × Host :=
  match host.plan op args with
  | .ok effect =>
      let (v, host) := host.carryOut effect
      (.value v, host)
  | .error complaint => host.complain complaint

def undefinedOperation {α : Type} (host : Host) (name : String) : Reply α × Host :=
  host.complain (.raise .argumentError (octets "undefined operation " ++ octets name))

def note (host : Host) (name : String) : Host :=
  { host with log := host.log ++ [name] }

def invoke (host : Host) (name : String) (args : List Value) : Reply Value × Host :=
  let host := host.note name
  match Operation.ofName? name with
  | some op => host.perform op args
  | none => host.undefinedOperation name

/-- Invoke an operation by name and take its result as a truth value.  Queries are answered
without a detour through a value. -/
def invokePredicate (host : Host) (name : String) (args : List Value) : Reply Bool × Host :=
  let host := host.note name
  match Operation.ofName? name with
  | some (.ask query) =>
      match host.answer query args with
      | .ok b => (.value b, host)
      | .error complaint => host.complain complaint
  | some op =>
      let (reply, host) := host.perform op args
      (reply.map Value.isTruthy, host)
  | none => host.undefinedOperation name

def readString (host : Host) (string : Value) : Reply Bytes × Host :=
  match host.objects.string? string with
  | some s => (.value s.bytes, host)
  | none =>
      host.complain (.raise .typeError (octets "wrong argument type (expected String)"))

def setVerbose (host : Host) (v : Value) : Host :=
  { host with verbose := v }

def setCategory (host : Host) (category : WarningCategory) (on : Bool) : Host :=
  { host with enabled := fun c => if c = category then on else host.enabled c }

def clearLog (host : Host) : Host :=
  { host with log := [] }

/-- Append to a string; frozen strings and other values refuse. -/
def append (host : Host) (string : Value) (more : Bytes) : Bool × Host :=
  match host.objects.string? string with
  | some s =>
      if s.frozen then (false, host)
      else (true, { host with objects := host.objects.modifyString string (·.appended more) })
  | none => (false, host)

def defineClass (host : Host) (name : Bytes) (superclass : Option Value) : Value × Host :=
  host.defineClassDef
    { name := some name
      superclass := some (superclass.getD Builtin.object.value)
      kind := .plain }
    (some (Builtin.object.value, name))

def isFrozen (host : Host) (v : Value) : Bool :=
  (host.objects.string? v).any (·.frozen)

def constant? (host : Host) (scope : Value) (name : Bytes) : Option Value :=
  (host.objects.classDef? scope).bind (·.constant? name)

def members? (host : Host) (definition : Value) : Option (List Bytes) :=
  (host.objects.classDef? definition).map fun c =>
    (c.members.filterMap host.symbols.name?).map Utf8.lossy

def exceptionKind? (host : Host) (v : Value) : Option ErrorKind :=
  (host.objects.exception? v).bind fun (definition, _) => ErrorKind.ofClass? definition

def exceptionMessage? (host : Host) (v : Value) : Option Bytes :=
  (host.objects.exception? v).map fun (_, message) => Utf8.lossy message

end Host

end NativeGate
