import NativeGate.Memory

namespace NativeGate

namespace Memory

/-- A block of these cells is new, and all others are as they were. -/
structure Places (memory : Memory) (address : Address) (cells : List Cell) (after : Memory) :
    Prop where
  nonnull : address ≠ 0
  fresh : memory.block? address = none
  stored : after.block? address = some { address, cells }
  others : ∀ other, other ≠ address → after.block? other = memory.block? other

/-- What a block holds; the null pointer stands for an empty one. -/
def cellsAt (memory : Memory) (address : Address) : List Cell :=
  ((memory.block? address).map (·.cells)).getD []

theorem block?_release (memory : Memory) (address other : Address) :
    (memory.release address).block? other =
      if other = address then none else memory.block? other := by
  rw [release, block?, List.find?_filter]
  split
  next same =>
    simp [same]
  next distinct =>
    rw [block?]
    congr
    funext block
    grind

structure HasPlace (memory : Memory) : Prop where
  nonnull : memory.next ≠ 0
  free : memory.block? memory.next = none

theorem HasPlace.places {memory : Memory} (hasPlace : memory.HasPlace) (cells : List Cell) :
    memory.Places (memory.place cells).1 cells (memory.place cells).2 where
  nonnull := hasPlace.nonnull
  fresh := hasPlace.free
  stored := List.find?_cons_of_pos (decide_eq_true rfl)
  others _ distinct := List.find?_cons_of_neg (mt decide_eq_true_iff.mp (Ne.symm distinct))

theorem HasPlace.release {memory : Memory} (hasPlace : memory.HasPlace) (address : Address) :
    (memory.release address).HasPlace where
  nonnull := hasPlace.nonnull
  free := by
    rw [block?_release]
    split
    next => rfl
    next => exact hasPlace.free

theorem length_resized (cells : List Cell) (size : Nat) : (resized cells size).length = size := by
  simp only [resized, List.length_append, List.length_take, List.length_replicate]
  omega

theorem take_resized (cells : List Cell) (size : Nat) :
    (resized cells size).take (min cells.length size) = cells.take (min cells.length size) := by
  have length : (cells.take size).length = min cells.length size := by
    rw [List.length_take, Nat.min_comm]
  rw [resized, List.take_append_of_le_length (Nat.le_of_eq length.symm), List.take_take,
    Nat.min_assoc, Nat.min_self]

end Memory

namespace Allocator

/-- What C says of `malloc`, `calloc` and `realloc` when they do not refuse. -/
structure LawfulAt (allocator : Allocator) (memory : Memory) : Prop where
  allocate : ∀ size address after, 0 < size →
    allocator.allocate? memory size = some (address, after) →
    ∃ cells, cells.length = size ∧ memory.Places address cells after
  allocateZeroed : ∀ size address after, 0 < size →
    allocator.allocateZeroed? memory size = some (address, after) →
    memory.Places address (List.replicate size (some 0)) after
  reallocate : ∀ old size address after, old = 0 ∨ (memory.block? old).isSome → 0 < size →
    allocator.reallocate? memory old size = some (address, after) →
    ∃ cells, cells.length = size ∧
      cells.take (min (memory.cellsAt old).length size) =
        (memory.cellsAt old).take (min (memory.cellsAt old).length size) ∧
      (memory.release old).Places address cells after

theorem sequential_lawfulAt {memory : Memory} (hasPlace : memory.HasPlace) :
    sequential.LawfulAt memory where
  allocate size address after _ given := by
    change (if size ≤ Memory.largest then some _ else none) = some _ at given
    rw [Option.ite_none_right_eq_some] at given
    obtain ⟨-, given⟩ := given
    cases given
    exact ⟨_, List.length_replicate, hasPlace.places _⟩
  allocateZeroed size address after _ given := by
    change (if size ≤ Memory.largest then some _ else none) = some _ at given
    rw [Option.ite_none_right_eq_some] at given
    obtain ⟨-, given⟩ := given
    cases given
    exact hasPlace.places _
  reallocate old size address after _ _ given := by
    change (if size ≤ Memory.largest then some _ else none) = some _ at given
    rw [Option.ite_none_right_eq_some] at given
    obtain ⟨-, given⟩ := given
    cases given
    exact ⟨_, Memory.length_resized _ size, Memory.take_resized _ size,
      (hasPlace.release old).places _⟩

end Allocator

end NativeGate
