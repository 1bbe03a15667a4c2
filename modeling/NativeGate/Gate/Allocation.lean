import NativeGate.Gate.Basic

namespace NativeGate.Allocation

open NativeGate

/-! `ruby_xmalloc` and its relatives: sizes are checked first, and no call returns without a block.
-/

variable {α β ω : Type}

/-- Sizes above the largest signed word overflow. -/
def mostOctets : Nat := 9223372036854775807

def arraySize (count elementSize : UInt64) : Except Fault Nat :=
  if count.toNat * elementSize.toNat ≤ mostOctets then .ok (count.toNat * elementSize.toNat)
  else .error (.sizeOverflow count elementSize)

def checkedSize (count elementSize : UInt64) : Native β ω Nat :=
  match arraySize count elementSize with
  | .ok size => return size
  | .error fault => Proc.fail fault

/-- `rb_memerror` raises an exception that was made beforehand: there is no memory for a new one. -/
def outOfMemory : Native β ω α := do
  match (← get).context.current? with
  | none => Native.abort
  | some scope =>
      match ← (Native.atEngine scope.engine (Engine.perform .memoryError []) :
          Native β ω Value).catchFault with
      | .error (.raised exception) => throw (.raised exception)
      | _ => Native.abort

def orOutOfMemory (request : Memory → Option (Address × Memory)) : Native β ω Address := do
  match request (← get).memory with
  | some (address, memory) =>
      modify fun gate => { gate with memory }
      return address
  | none => outOfMemory

/-- Every block has at least one cell, so that its address is its own. -/
def atLeastOne (size : Nat) : Nat :=
  max 1 size

def allocate (size : Nat) (allocator : Allocator := .sequential) : Native β ω Address :=
  orOutOfMemory (allocator.allocate? · (atLeastOne size))

def allocateArray (count elementSize : UInt64) (allocator : Allocator := .sequential) :
    Native β ω Address := do
  allocate (← checkedSize count elementSize) allocator

def allocateZeroed (count elementSize : UInt64) (allocator : Allocator := .sequential) :
    Native β ω Address := do
  let size ← checkedSize count elementSize
  orOutOfMemory (allocator.allocateZeroed? · (atLeastOne size))

/-- `ruby_xrealloc`; the null pointer stands for an empty block. -/
def reallocate (address : Address) (size : Nat) (allocator : Allocator := .sequential) :
    Native β ω Address :=
  orOutOfMemory (allocator.reallocate? · address (atLeastOne size))

def reallocateArray (address : Address) (count elementSize : UInt64)
    (allocator : Allocator := .sequential) : Native β ω Address := do
  reallocate address (← checkedSize count elementSize) allocator

def release (address : Address) : Native β ω Unit :=
  modify fun gate => { gate with memory := gate.memory.release address }

def tooManyWords : Bytes :=
  octets "capacity overflow"

/-- The table `rb_struct_new` keeps its words in, freed before it returns.  The process aborts if
the allocator refuses it. -/
def reserveWords (count : Nat) (allocator : Allocator := .sequential) : Native β ω Unit := do
  if mostOctets < 8 * count then throw (.foreign tooManyWords)
  else if (allocator.allocate? (← get).memory (8 * count)).isSome then return ()
  else Native.abort

/-- `rb_alloc_tmp_buffer`; the answer is what the slot holds from now on. -/
def allocateScratch (length : Int) : Native β ω Value := do
  if length < 0 then Proc.fail (.negativeBufferSize length)
  else return ⟨← allocate length.toNat⟩

/-- A length that no signed word holds counts as negative. -/
def scratchLength (length : UInt64) : Int :=
  if length.toNat ≤ mostOctets then length.toNat else -1

/-- `rb_free_tmp_buffer`; the answer is the slot's value from now on. -/
def releaseScratch (slot : Value) : Native β ω Value := do
  release slot.bits
  return .no

/-- `rb_mem_clear`: the first `n` slots become nil. -/
def clear (slots : List Value) (n : Int) : List Value :=
  (slots.take n.toNat).map (fun _ => Value.nil) ++ slots.drop n.toNat

end NativeGate.Allocation
