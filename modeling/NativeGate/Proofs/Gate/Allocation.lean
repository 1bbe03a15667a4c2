import NativeGate.Gate.Allocation
import NativeGate.Proofs.Gate.Arrays
import NativeGate.Proofs.Memory

namespace NativeGate

/-! `ruby_xmalloc2`, `ruby_xcalloc` and `ruby_xrealloc2`. -/

open Proc

variable {β ω : Type}

namespace Host

theorem invoke_memoryError (host : Host) :
    host.invoke Operation.memoryError.name [] =
      (.raised outOfMemory, host.note Operation.memoryError.name) := rfl

end Host

namespace Allocation

inductive Request
  | plain
  | zeroed
  | resized (old : Address)

namespace Request

def call (request : Request) (allocator : Allocator) (count elementSize : UInt64) :
    Native β ω Address :=
  Native.raising
    (match request with
    | .plain => allocateArray count elementSize allocator
    | .zeroed => allocateZeroed count elementSize allocator
    | .resized old => reallocateArray old count elementSize allocator)

def ask (request : Request) (allocator : Allocator) (memory : Memory) (size : Nat) :
    Option (Address × Memory) :=
  match request with
  | .plain => allocator.allocate? memory size
  | .zeroed => allocator.allocateZeroed? memory size
  | .resized old => allocator.reallocate? memory old size

/-- Only blocks that have not been released may be resized. -/
def IsLive (memory : Memory) : Request → Prop
  | .plain | .zeroed => True
  | .resized old => old = 0 ∨ (memory.block? old).isSome

/-- What the new cells hold from the start. -/
def Fills (memory : Memory) (cells : List Cell) : Request → Prop
  | .plain => True
  | .zeroed => ∀ cell ∈ cells, cell = some 0
  | .resized old =>
      cells.take (min (memory.cellsAt old).length cells.length) =
        (memory.cellsAt old).take (min (memory.cellsAt old).length cells.length)

def vacated (memory : Memory) : Request → Memory
  | .plain | .zeroed => memory
  | .resized old => memory.release old

theorem granted {request : Request} {allocator : Allocator} {memory after : Memory}
    (lawful : allocator.LawfulAt memory) (live : request.IsLive memory) {size : Nat}
    (positive : 0 < size) {address : Address}
    (given : request.ask allocator memory size = some (address, after)) :
    ∃ cells, cells.length = size ∧ request.Fills memory cells ∧
      (request.vacated memory).Places address cells after := by
  cases request with
  | plain =>
      obtain ⟨cells, length, places⟩ := lawful.allocate size address after positive given
      exact ⟨cells, length, trivial, places⟩
  | zeroed =>
      refine ⟨_, List.length_replicate, ?_,
        lawful.allocateZeroed size address after positive given⟩
      intro cell among
      exact List.eq_of_mem_replicate among
  | resized old =>
      obtain ⟨cells, rfl, kept, places⟩ :=
        lawful.reallocate old size address after live positive given
      exact ⟨cells, rfl, kept, places⟩

end Request

theorem runOn_checkedSize_of_fits {count elementSize : UInt64}
    (fits : count.toNat * elementSize.toNat ≤ mostOctets) (gate : Gate β ω) :
    (checkedSize count elementSize : Native β ω Nat).runOn gate =
      (.ok (count.toNat * elementSize.toNat), gate) := by
  rw [checkedSize, arraySize, if_pos fits]
  rfl

theorem runOn_checkedSize_of_overflow {count elementSize : UInt64}
    (overflow : mostOctets < count.toNat * elementSize.toNat) (gate : Gate β ω) :
    (checkedSize count elementSize : Native β ω Nat).runOn gate =
      (.error (.failed (.sizeOverflow count elementSize)), gate) := by
  rw [checkedSize, arraySize, if_neg (Nat.not_le.mpr overflow)]
  rfl

theorem Request.call_eq (request : Request) (allocator : Allocator) (count elementSize : UInt64) :
    (request.call allocator count elementSize : Native β ω Address) =
      Native.raising (checkedSize count elementSize >>= fun size =>
        orOutOfMemory (request.ask allocator · (atLeastOne size))) := by
  cases request <;> rfl

section Current

variable {gate : Gate β ω} {scope : Scope} (current : gate.context.current? = some scope)

include current

theorem runOn_outOfMemory {α : Type} (unpinned : (gate.engine scope.engine).pinned = []) :
    (outOfMemory : Native β ω α).runOn gate =
      (.error (.raised Host.outOfMemory),
        gate.changeHost scope.engine (·.note Operation.memoryError.name)) := by
  have asked : (Native.atEngine scope.engine (Engine.perform .memoryError []) :
      Native β ω Value).runOn gate =
        (.error (.failed (.raised Host.outOfMemory)),
          gate.changeHost scope.engine (·.note Operation.memoryError.name)) := by
    rw [Native.runOn_atEngine, Engine.runOn_perform unpinned, Engine.runOn_asking,
      Host.invoke_memoryError]
    rfl
  rw [outOfMemory, runOn_bind, runOn_get]
  simp only [current]
  rw [runOn_bind, runOn_catchFault, asked]
  rfl

theorem runOn_orOutOfMemory (unpinned : (gate.engine scope.engine).pinned = [])
    (request : Memory → Option (Address × Memory)) :
    (orOutOfMemory request : Native β ω Address).runOn gate =
      match request gate.memory with
      | some (address, memory) => (.ok address, { gate with memory })
      | none =>
          (.error (.raised Host.outOfMemory),
            gate.changeHost scope.engine (·.note Operation.memoryError.name)) := by
  rw [orOutOfMemory, runOn_bind, runOn_get]
  dsimp only
  rcases request gate.memory with _ | ⟨address, memory⟩
  · exact runOn_outOfMemory current unpinned
  · rfl

theorem runOn_call_of_overflow (request : Request) (allocator : Allocator)
    {count elementSize : UInt64} (overflow : mostOctets < count.toNat * elementSize.toNat) :
    let made := (gate.engine scope.engine).host.create
      (.exception ErrorKind.argumentError.value (Fault.overflowText count elementSize))
    (request.call allocator count elementSize : Native β ω Address).runOn gate =
      (.error (.raised made.1), gate.changeHost scope.engine fun _ => made.2) := by
  intro made
  have refused := runOn_checkedSize_of_overflow overflow gate
  rw [Request.call_eq, Native.raising, runOn_bind, runOn_catchFault, runOn_bind_of_error refused]
  exact Native.runOn_raiseFault current _

theorem runOn_call_of_fits (unpinned : (gate.engine scope.engine).pinned = [])
    (request : Request) (allocator : Allocator) {count elementSize : UInt64}
    (fits : count.toNat * elementSize.toNat ≤ mostOctets) :
    (request.call allocator count elementSize : Native β ω Address).runOn gate =
      match request.ask allocator gate.memory (max 1 (count.toNat * elementSize.toNat)) with
      | some (address, memory) => (.ok address, { gate with memory })
      | none =>
          (.error (.raised Host.outOfMemory),
            gate.changeHost scope.engine (·.note Operation.memoryError.name)) := by
  have checked := runOn_checkedSize_of_fits fits gate
  rw [Request.call_eq, Native.raising, runOn_bind, runOn_catchFault, runOn_bind_of_ok checked,
    runOn_orOutOfMemory current unpinned, atLeastOne]
  rcases request.ask allocator gate.memory _ with _ | ⟨address, memory⟩
  · rfl
  · rfl

def overflowException (count elementSize : UInt64) : Object :=
  .exception ErrorKind.argumentError.value
    (octets "malloc: possible integer overflow (" ++ Numeral.decimal count.toNat ++ octets "*" ++
      Numeral.decimal elementSize.toNat ++ octets ")")

/-- Nothing else raises a new exception: none is stored when the allocator refuses. -/
theorem raises_overflow_iff (unpinned : (gate.engine scope.engine).pinned = [])
    (request : Request) (allocator : Allocator) (count elementSize : UInt64) :
    (∃ exception after,
      (request.call allocator count elementSize : Native β ω Address).runOn gate =
        (.error (.raised exception), gate.changeHost scope.engine fun _ => after) ∧
      (gate.engine scope.engine).host.Gains (overflowException count elementSize) [] exception
        after) ↔
    mostOctets < count.toNat * elementSize.toNat := by
  constructor
  · rintro ⟨exception, after, ran, gains⟩
    by_contra less
    have fits := Nat.le_of_not_lt less
    have answered := (runOn_call_of_fits current unpinned request allocator fits).symm.trans ran
    split at answered
    next => cases answered
    next =>
      have hosts := congrArg (fun result => (result.2.engine scope.engine).host) answered
      simp only [Gate.engine_changeHost] at hosts
      have sizes := congrArg Array.size gains.slots
      rw [← hosts, Array.size_push] at sizes
      exact absurd sizes (Nat.ne_of_lt (Nat.lt_succ_self _))
  · intro overflow
    exact ⟨_, _, runOn_call_of_overflow current request allocator overflow,
      Host.create_gains _ _⟩

theorem memory_of_failed (unpinned : (gate.engine scope.engine).pinned = [])
    {request : Request} {allocator : Allocator} {count elementSize : UInt64} {exit : Exit}
    {after : Gate β ω}
    (ran : (request.call allocator count elementSize).runOn gate = (.error exit, after)) :
    after.memory = gate.memory := by
  by_cases overflow : mostOctets < count.toNat * elementSize.toNat
  · have failed := (runOn_call_of_overflow current request allocator overflow).symm.trans ran
    cases failed
    rfl
  · have fits := Nat.le_of_not_lt overflow
    have failed := (runOn_call_of_fits current unpinned request allocator fits).symm.trans ran
    split at failed
    next => cases failed
    next =>
      cases failed
      rfl

/-- A size that no signed word holds raises an ArgumentError with both operands, and the allocator
is not asked.  For any other size it is asked for exactly that, or for one octet, and where it
refuses `Host.outOfMemory` is raised and no object is new.  Failures leave the memory as it was;
success adds one block of the size asked for, with the cells the call promises. -/
theorem arrays_exact_or_failed (unpinned : (gate.engine scope.engine).pinned = [])
    (reached : (gate.engine scope.engine).host.Reachable) {allocator : Allocator}
    (lawful : allocator.LawfulAt gate.memory) {request : Request}
    (live : request.IsLive gate.memory) (count elementSize : UInt64) :
    let size := count.toNat * elementSize.toNat
    let host := (gate.engine scope.engine).host
    let run := (request.call allocator count elementSize : Native β ω Address).runOn gate
    ((∃ exception after,
        run = (.error (.raised exception), gate.changeHost scope.engine fun _ => after) ∧
        host.Gains
          (.exception ErrorKind.argumentError.value
            (octets "malloc: possible integer overflow (" ++ Numeral.decimal count.toNat ++
              octets "*" ++ Numeral.decimal elementSize.toNat ++ octets ")"))
          [] exception after) ↔
      2 ^ 63 - 1 < size) ∧
    (2 ^ 63 - 1 < size → ∀ other, (request.call other count elementSize).runOn gate = run) ∧
    (size ≤ 2 ^ 63 - 1 → request.ask allocator gate.memory (max 1 size) = none →
      run = (.error (.raised Host.outOfMemory),
        gate.changeHost scope.engine (·.note "rb_memerror")) ∧
      host.objects.get? Host.outOfMemory =
        some (.exception Builtin.noMemoryError.value Host.outOfMemoryText)) ∧
    (size ≤ 2 ^ 63 - 1 → ∀ address memory,
      request.ask allocator gate.memory (max 1 size) = some (address, memory) →
      run = (.ok address, { gate with memory }) ∧
      ∃ cells, cells.length = max 1 size ∧ request.Fills gate.memory cells ∧
        (request.vacated gate.memory).Places address cells memory) ∧
    (∀ exit after, run = (.error exit, after) → after.memory = gate.memory) := by
  intro size host run
  have refused (other : Allocator) (overflow : 2 ^ 63 - 1 < size) :=
    runOn_call_of_overflow current request other overflow
  have asked (fits : size ≤ 2 ^ 63 - 1) :=
    runOn_call_of_fits current unpinned request allocator fits
  refine ⟨raises_overflow_iff current unpinned request allocator count elementSize,
    fun overflow other => (refused other overflow).trans (refused allocator overflow).symm,
    fun fits nothing => ⟨?_, reached.outOfMemory⟩, ?_, fun _ _ => memory_of_failed current unpinned⟩
  · refine (asked fits).trans ?_
    rw [nothing]
    rfl
  · intro fits address memory given
    refine ⟨(asked fits).trans ?_, Request.granted lawful live (Nat.le_max_left 1 size) given⟩
    rw [given]

end Current

theorem arrays_exact_or_failed_resized_and_zeroed :
    let memory : Memory := { blocks := [⟨4096, [some 7, none]⟩], next := 4112 }
    let gate : Gate Unit Unit := { Gate.installed () with memory }
    (∃ after, ((Request.resized 4096).call .sequential 3 1).runOn gate = (.ok 4112, after) ∧
      after.memory.block? 4112 = some ⟨4112, [some 7, none, none]⟩) ∧
    (∃ after, (Request.zeroed.call .sequential 0x800000000 1).runOn gate =
      (.error (.raised Host.outOfMemory), after) ∧ after.memory = memory) ∧
    ∃ exception after, ((Request.resized 4096).call .sequential 0x8000000000000000 2).runOn gate =
      (.error (.raised exception), after) ∧ after.memory = memory := by
  intro memory gate
  have lawful := @Allocator.sequential_lawfulAt memory ⟨by decide, by decide⟩
  have current : gate.context.current? = some { engine := 0, settings := {} } := rfl
  have live : (Request.resized 4096).IsLive memory := .inr (by decide)
  have zeroed : Request.zeroed.IsLive memory := trivial
  refine ⟨?_, ?_, ?_⟩
  · obtain ⟨-, -, -, given, -⟩ :=
      arrays_exact_or_failed current rfl (.refl _) lawful live 3 1
    obtain ⟨ran, -⟩ := given (by decide) _ _ rfl
    exact ⟨_, ran, by decide⟩
  · obtain ⟨-, -, nothing, -, unchanged⟩ :=
      arrays_exact_or_failed current rfl (.refl _) lawful zeroed 0x800000000 1
    obtain ⟨ran, -⟩ := nothing (by decide) rfl
    exact ⟨_, ran, unchanged _ _ ran⟩
  · obtain ⟨overflows, -, -, -, unchanged⟩ :=
      arrays_exact_or_failed current rfl (.refl _) lawful live 0x8000000000000000 2
    obtain ⟨exception, after, ran, -⟩ := overflows.mpr (by decide)
    exact ⟨exception, _, ran, unchanged _ _ ran⟩

end Allocation

end NativeGate
