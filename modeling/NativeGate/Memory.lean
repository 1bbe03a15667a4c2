import NativeGate.Bytes

namespace NativeGate

/-- An address in native memory; zero is the null pointer. -/
abbrev Address := UInt64

/-- What a cell holds; nothing until it has been written. -/
abbrev Cell := Option UInt8

structure Block where
  address : Address
  cells : List Cell
deriving DecidableEq, Repr

/-- Newest first. -/
structure Memory where
  blocks : List Block := []
  next : Address := 4096
deriving DecidableEq, Repr

namespace Memory

/-- Requests of `2 ^ 35` octets and more fail. -/
def largest : Nat := 34359738367

def block? (memory : Memory) (address : Address) : Option Block :=
  memory.blocks.find? (·.address = address)

/-- Blocks start at multiples of sixteen. -/
def place (memory : Memory) (cells : List Cell) : Address × Memory :=
  (memory.next,
    { blocks := { address := memory.next, cells } :: memory.blocks
      next := memory.next + UInt64.ofNat ((cells.length / 16 + 1) * 16) })

def allocateFilled? (memory : Memory) (size : Nat) (cell : Cell) : Option (Address × Memory) :=
  if size ≤ largest then some (memory.place (List.replicate size cell)) else none

def allocate? (memory : Memory) (size : Nat) : Option (Address × Memory) :=
  memory.allocateFilled? size none

def allocateZeroed? (memory : Memory) (size : Nat) : Option (Address × Memory) :=
  memory.allocateFilled? size (some 0)

def release (memory : Memory) (address : Address) : Memory :=
  { memory with blocks := memory.blocks.filter (·.address ≠ address) }

def resized (cells : List Cell) (size : Nat) : List Cell :=
  cells.take size ++ List.replicate (size - cells.length) none

/-- Move a block to a new one of `size` cells, which keeps what fits.  The null pointer stands for
an empty block. -/
def reallocate? (memory : Memory) (address : Address) (size : Nat) :
    Option (Address × Memory) :=
  if size ≤ largest then
    let cells := ((memory.block? address).map (·.cells)).getD []
    some ((memory.release address).place (resized cells size))
  else none

def write (memory : Memory) (address : Address) (bytes : Bytes) : Memory :=
  { memory with
    blocks := memory.blocks.map fun block =>
      if block.address = address then
        { block with cells := bytes.map some ++ block.cells.drop bytes.length }
      else block }

def read? (memory : Memory) (address : Address) (length : Nat) : Option Bytes :=
  (memory.block? address).bind fun block => (block.cells.take length).mapM id

end Memory

/-- Where memory comes from.  An allocator that refuses a request changes nothing. -/
structure Allocator where
  allocate? : Memory → Nat → Option (Address × Memory)
  allocateZeroed? : Memory → Nat → Option (Address × Memory)
  reallocate? : Memory → Address → Nat → Option (Address × Memory)

def Allocator.sequential : Allocator where
  allocate? := Memory.allocate?
  allocateZeroed? := Memory.allocateZeroed?
  reallocate? := Memory.reallocate?

end NativeGate
