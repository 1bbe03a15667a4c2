import NativeGate.Coderange
import NativeGate.Value

namespace NativeGate

structure ManagedString where
  bytes : Bytes
  encoding : Encoding
  /-- Cached; every change of the octets makes it unknown again. -/
  coderange : Coderange := .unknown
  frozen : Bool := false
deriving DecidableEq, Repr

namespace ManagedString

def classified (s : ManagedString) : ManagedString :=
  if s.coderange = .unknown then { s with coderange := Coderange.scan s.bytes s.encoding } else s

def appended (s : ManagedString) (more : Bytes) : ManagedString where
  bytes := s.bytes ++ more
  encoding := s.encoding

def ofName (name : Bytes) (encoding : Encoding) : ManagedString :=
  classified { bytes := name, encoding, frozen := true }

end ManagedString

inductive ClassKind
  | plain
  | record
  | data
  | exception
deriving DecidableEq, Repr

structure ClassDef where
  name : Option Bytes
  superclass : Option Value
  kind : ClassKind
  members : List Id := []
  constants : List (Bytes × Value) := []
deriving DecidableEq, Repr

namespace ClassDef

def constant? (c : ClassDef) (name : Bytes) : Option Value :=
  c.constants.lookup name

def bindIn (name : Bytes) (value : Value) : List (Bytes × Value) → List (Bytes × Value)
  | [] => [(name, value)]
  | (other, old) :: rest =>
      if other = name then (name, value) :: rest else (other, old) :: bindIn name value rest

/-- Bind a constant; the last binding of a name counts. -/
def bind (c : ClassDef) (name : Bytes) (value : Value) : ClassDef :=
  { c with constants := bindIn name value c.constants }

end ClassDef

inductive Object
  | string (content : ManagedString)
  | array (elements : List Value)
  | classDef (definition : ClassDef)
  | record (definition : Value) (fields : List Value)
  | exception (definition : Value) (message : Bytes)
deriving DecidableEq, Repr

/-- Slots are never freed: a handle stays good for as long as the table lives. -/
structure ObjectTable where
  slots : Array Object := #[]
deriving DecidableEq, Repr

namespace ObjectTable

def size (table : ObjectTable) : Nat :=
  table.slots.size

def add (table : ObjectTable) (object : Object) : Value × ObjectTable :=
  (Value.handle (UInt64.ofNat table.slots.size), { slots := table.slots.push object })

def get? (table : ObjectTable) (v : Value) : Option Object :=
  v.handleIndex?.bind fun i => table.slots[i.toNat]?

def string? (table : ObjectTable) (v : Value) : Option ManagedString :=
  match table.get? v with
  | some (.string s) => some s
  | _ => none

def array? (table : ObjectTable) (v : Value) : Option (List Value) :=
  match table.get? v with
  | some (.array elements) => some elements
  | _ => none

def classDef? (table : ObjectTable) (v : Value) : Option ClassDef :=
  match table.get? v with
  | some (.classDef c) => some c
  | _ => none

def fields? (table : ObjectTable) (v : Value) : Option (List Value) :=
  match table.get? v with
  | some (.record _ fields) => some fields
  | _ => none

def exception? (table : ObjectTable) (v : Value) : Option (Value × Bytes) :=
  match table.get? v with
  | some (.exception definition message) => some (definition, message)
  | _ => none

def modify (table : ObjectTable) (v : Value) (change : Object → Object) : ObjectTable :=
  match v.handleIndex? with
  | some i => { slots := table.slots.modify i.toNat change }
  | none => table

def modifyString (table : ObjectTable) (v : Value) (change : ManagedString → ManagedString) :
    ObjectTable :=
  table.modify v fun
    | .string s => .string (change s)
    | object => object

def modifyClass (table : ObjectTable) (v : Value) (change : ClassDef → ClassDef) : ObjectTable :=
  table.modify v fun
    | .classDef c => .classDef (change c)
    | object => object

end ObjectTable

end NativeGate
