import NativeGate.Gate.Records
import NativeGate.Proofs.Gate.Warnings

namespace NativeGate

open Proc Trailing

variable {β ω : Type}

namespace Host

theorem invoke_arrayNew (host : Host) (elements : List Value) :
    host.invoke Operation.arrayNew.name elements =
      (.value ((host.note Operation.arrayNew.name).create (.array elements)).1,
        ((host.note Operation.arrayNew.name).create (.array elements)).2) := by
  rw [@invoke_of_plan host .arrayNew elements (.create (.array elements)) rfl]
  rfl

end Host

namespace Records

open Cursor (AreValues StopsAt)

theorem newArray_eq (n : Int) :
    (newArray n : Variadic β ω Value) =
      (onCursor (Cursor.readValues n.toNat) >>= fun values =>
        onState (Native.onEngine (Engine.perform .arrayNew values))) := rfl

section Current

variable {gate : Gate β ω} {scope : Scope} (current : gate.context.current? = some scope)

include current

theorem runOn_newArray_of_values (unpinned : (gate.engine scope.engine).pinned = []) {n : Int}
    {arguments : List Argument} (values : AreValues arguments n.toNat) :
    let elements := (arguments.take n.toNat).map fun argument => ⟨argument.word⟩
    let made := ((gate.engine scope.engine).host.note Operation.arrayNew.name).create
      (.array elements)
    (newArray n : Variadic β ω Value).raising.runOn (.start arguments, gate) =
      (.ok made.1, (Cursor.start arguments).afterValues n.toNat (arguments.drop n.toNat),
        gate.changeHost scope.engine fun _ => made.2) := by
  intro elements made
  have read := @Cursor.runOn_readValues n.toNat (.start arguments) values.1 values.2
  have taken : (onCursor (Cursor.readValues n.toNat)).runOn (.start arguments, gate) =
      (.ok elements, (Cursor.start arguments).afterValues n.toNat (arguments.drop n.toNat),
        gate) := by
    rw [runOn_onCursor, read]
    rfl
  have created : (Native.onEngine (Engine.perform .arrayNew elements)).runOn gate =
      (.ok made.1, gate.changeHost scope.engine fun _ => made.2) := by
    rw [Native.runOn_onEngine current,
      Engine.perform_answers (Host.invoke_arrayNew _ elements) _ rfl unpinned]
    rfl
  rw [Variadic.runOn_raising, newArray_eq, runOn_bind_of_ok taken, runOn_onState, created]

theorem runOn_newArray_of_stop {n : Int} {arguments : List Argument} {index : Nat}
    {fault : CursorFault} (stops : StopsAt arguments index fault) (less : index < n.toNat) :
    let made := (gate.engine scope.engine).host.create
      (.exception ErrorKind.argumentError.value fault.message)
    ∃ cursor, (newArray n : Variadic β ω Value).raising.runOn (.start arguments, gate) =
        (.error (.raised made.1), cursor, gate.changeHost scope.engine fun _ => made.2) ∧
      cursor.rest = arguments.drop (index + 1) ∧ cursor.position = index ∧
      cursor.attempts = List.replicate (index + 1) .value := by
  intro made
  obtain ⟨cursor, read, left⟩ := Cursor.runOn_readValues_of_stop stops less
  refine ⟨cursor, ?_, left⟩
  have refused : (onCursor (Cursor.readValues n.toNat)).runOn (.start arguments, gate) =
      (.error (.failed (.cursor fault)), cursor, gate) := by
    rw [runOn_onCursor, read]
  rw [Variadic.runOn_raising, newArray_eq, runOn_bind_of_error refused]
  dsimp only
  rw [Native.runOn_raiseFault current]
  rfl

/-- `rb_ary_new_from_args` reads exactly `n` values and makes a new array of them.  Otherwise it
stops at the first argument that is no value, raises the cursor's ArgumentError and asks nothing of
the engine. -/
theorem newArray_reads_exactly (unpinned : (gate.engine scope.engine).pinned = []) (n : Int)
    (arguments : List Argument) :
    let run := (newArray n : Variadic β ω Value).raising.runOn (.start arguments, gate)
    let host := (gate.engine scope.engine).host
    (AreValues arguments n.toNat →
      ∃ array cursor after,
        run = (.ok array, cursor, gate.changeHost scope.engine fun _ => after) ∧
        host.Gains (.array ((arguments.take n.toNat).map fun argument => ⟨argument.word⟩))
          ["rb_ary_new_from_values"] array after ∧
        cursor.rest = arguments.drop n.toNat ∧ cursor.position = n.toNat ∧
        cursor.attempts = List.replicate n.toNat .value) ∧
    (¬ AreValues arguments n.toNat →
      ∃ index < n.toNat, ∃ fault, StopsAt arguments index fault ∧
        ∃ exception cursor after,
          run = (.error (.raised exception), cursor,
            gate.changeHost scope.engine fun _ => after) ∧
          host.Gains (.exception ErrorKind.argumentError.value fault.message) [] exception after ∧
          cursor.rest = arguments.drop (index + 1) ∧ cursor.position = index ∧
          cursor.attempts = List.replicate (index + 1) .value) := by
  intro run host
  constructor
  · intro values
    exact ⟨_, _, _, runOn_newArray_of_values current unpinned values,
      host.note_create_gains _ _, rfl, Nat.zero_add _, List.nil_append _⟩
  · intro few
    obtain ⟨index, less, fault, stops⟩ := Cursor.exists_stopsAt few
    obtain ⟨cursor, ran, left⟩ := runOn_newArray_of_stop current stops less
    exact ⟨index, less, fault, stops, _, cursor, _, ran, host.create_gains _, left⟩

end Current

theorem newArray_reads_exactly_two :
    let arguments := [.value (.fixnum 7), .null, .integer 5]
    let gate : Gate Unit Unit := .installed ()
    (∃ array cursor after, (newArray 2 : Variadic Unit Unit Value).raising.runOn
        (.start arguments, gate) =
          (.ok array, cursor, gate.changeHost 0 fun _ => after) ∧
      after.objects.get? array = some (.array [.fixnum 7, .no]) ∧
      cursor.rest = [.integer 5]) ∧
    ∃ exception cursor after,
      (newArray 9223372036854775807 : Variadic Unit Unit Value).raising.runOn
        (.start arguments, gate) =
          (.error (.raised exception), cursor, gate.changeHost 0 fun _ => after) ∧
      after.log = [] ∧ cursor.attempts = [.value, .value, .value] := by
  intro arguments gate
  have current : gate.context.current? = some { engine := 0, settings := {} } := rfl
  have values : AreValues arguments 2 := ⟨by decide, by decide⟩
  constructor
  · obtain ⟨array, cursor, after, ran, gains, rest, -⟩ :=
      (newArray_reads_exactly current rfl 2 arguments).1 values
    exact ⟨array, cursor, after, ran, gains.stored (by decide), rest⟩
  · have few : ¬ AreValues arguments (Int.toNat 9223372036854775807) :=
      fun values => absurd values.1 (by decide)
    obtain ⟨index, -, fault, stops, exception, cursor, after, ran, gains, -, -, attempts⟩ :=
      (newArray_reads_exactly current rfl 9223372036854775807 arguments).2 few
    have third : index = 2 := by
      have least := stops.areValues_iff.mp values
      have most := mt stops.areValues_iff.mpr (fun values => absurd values.2 (by decide) :
        ¬ AreValues arguments 3)
      omega
    refine ⟨exception, cursor, after, ran, ?_, ?_⟩
    · rw [gains.unchanged]
      rfl
    · rw [attempts, third]
      rfl

end Records

end NativeGate
