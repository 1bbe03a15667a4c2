import NativeGate.Encoding
import NativeGate.NonAscii
import NativeGate.Value

namespace NativeGate

/-! Interned names.  IDs are dense and start at one. -/

structure SymbolEntry where
  name : Bytes
  encoding : Encoding
  /-- The frozen string of the name, made when it is first asked for. -/
  text : Option Value := none
deriving DecidableEq, Repr

/-- Names in order of creation, and an index from a name and its encoding to its ID. -/
structure SymbolTable where
  entries : Array SymbolEntry := #[]
  index : List ((Bytes × Encoding) × Id) := []
deriving DecidableEq, Repr

namespace SymbolTable

/-- ASCII-only names are one symbol whatever they were interned under. -/
def normalize (name : Bytes) (encoding : Encoding) : Encoding :=
  if encoding.isAsciiCompatible && (NonAscii.search name).isNone then .usAscii else encoding

def size (table : SymbolTable) : Nat :=
  table.entries.size

def lookup? (table : SymbolTable) (name : Bytes) (encoding : Encoding) : Option Id :=
  table.index.lookup (name, normalize name encoding)

def intern (table : SymbolTable) (name : Bytes) (encoding : Encoding) : Id × SymbolTable :=
  match table.lookup? name encoding with
  | some id => (id, table)
  | none =>
      let stored := normalize name encoding
      let id := UInt64.ofNat (table.entries.size + 1)
      (id, {
        entries := table.entries.push { name, encoding := stored }
        index := ((name, stored), id) :: table.index })

def entry? (table : SymbolTable) (id : Id) : Option SymbolEntry :=
  if id = 0 then none else table.entries[id.toNat - 1]?

def name? (table : SymbolTable) (id : Id) : Option Bytes :=
  (table.entry? id).map (·.name)

def setText (table : SymbolTable) (id : Id) (text : Value) : SymbolTable :=
  if id = 0 then table
  else
    { table with
      entries := table.entries.modify (id.toNat - 1) fun entry => { entry with text := some text } }

end SymbolTable

end NativeGate
