import NativeGate.Gate.Allocation
import NativeGate.Gate.Symbols

namespace NativeGate.Records

open NativeGate

variable {β ω : Type}

/-- Member names up to the null pointer, as symbols.  Each is interned as soon as it is read.  Every
turn uses up an argument, so that `fuel` turns are enough for fewer than `fuel` of them. -/
def readMembersWithin : Nat → Variadic β ω (List Value)
  | 0 => return []
  | fuel + 1 => do
      match ← Cursor.readText with
      | none => return []
      | some name =>
          let id ← (Symbols.intern name .binary : Native β ω Id)
          return .symbol id :: (← readMembersWithin fuel)

def readMembers : Variadic β ω (List Value) := do
  readMembersWithin ((← Cursor.remaining) + 1)

def newArray (n : Int) : Variadic β ω Value := do
  let values ← Cursor.readValues n.toNat
  (Native.onEngine (Engine.perform .arrayNew values) : Native β ω Value)

def utf8Name (name : Option Bytes) : Proc (Engine β) Value :=
  match name with
  | some name => Engine.newString name .utf8
  | none => return .nil

/-- `rb_struct_define`; without a name the class is bound to no constant. -/
def define (name : Option Bytes) : Variadic β ω Value := do
  let members ← readMembers
  (Native.onEngine do
    let name ← utf8Name name
    let members ← Engine.perform .arrayNew members
    Engine.perform .structDefine [name, members] : Native β ω Value)

def defineUnder (scope : Value) (name : Bytes) : Variadic β ω Value := do
  let members ← readMembers
  (Native.onEngine do
    let name ← Engine.newString name .utf8
    let members ← Engine.perform .arrayNew members
    Engine.perform .structDefineUnder [scope, name, members] : Native β ω Value)

def defineData (superclass : Value) : Variadic β ω Value := do
  let members ← readMembers
  (Native.onEngine do
    let members ← Engine.perform .arrayNew members
    Engine.perform .dataDefine [superclass, members] : Native β ω Value)

/-- `rb_data_define` takes a zero word for Data. -/
def dataSuperclass (superclass : Value) : Value :=
  if superclass.bits = 0 then .nil else superclass

/-- `rb_struct_new`: one argument for each member of the class.  The table of the class and its
fields is reserved before the first argument is read. -/
def newRecord (definition : Value) (allocator : Allocator := .sequential) :
    Variadic β ω Value := do
  let number ← (Native.engineNumber : Native β ω Nat)
  let size ← (Native.atEngine number (Engine.perform .structSize [definition]) :
    Native β ω Value)
  let count := (size.asFixnum?.getD 0).toInt.toNat
  (Allocation.reserveWords (count + 1) allocator : Native β ω Unit)
  let fields ← Cursor.readValues count
  (Native.atEngine number (Engine.perform .structNew (definition :: fields)) : Native β ω Value)

end NativeGate.Records
