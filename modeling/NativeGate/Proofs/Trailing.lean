import Mathlib.Algebra.Group.Nat.Defs
import NativeGate.Proofs.Exit
import NativeGate.Trailing

namespace NativeGate

variable {α τ : Type}

theorem Argument.int_integer (n : Int64) : (integer n).int = n.toInt32 := by
  apply Int32.toBitVec_inj.mp
  exact (BitVec.signExtend_eq_setWidth_of_le n.toBitVec (by decide : 32 ≤ 64)).symm

theorem Argument.toInt_int (n : Int64) : (integer n).int.toInt = n.toInt.bmod (2 ^ 32) := by
  rw [int_integer, Int64.toInt_toInt32]

namespace Cursor

/-- Whatever the arguments, a reader leaves by a fault if it does not return. -/
def OnlyFaults (p : Proc Cursor α) : Prop :=
  ∀ {cursor exit after}, p.runOn cursor = (.error exit, after) → exit.IsFault

theorem read_onlyFaults (kind : ReadKind) : OnlyFaults (read kind) := by
  intro cursor exit after ran
  rw [read, Proc.runOn_ofRun] at ran
  split at ran
  · cases ran
  · cases ran
    exact ⟨_, rfl⟩

theorem readMap_onlyFaults (kind : ReadKind) (look : Argument → α) :
    OnlyFaults (read kind >>= fun argument => pure (look argument)) := by
  intro cursor exit after ran
  obtain front | ⟨_, _, _, back⟩ := Proc.runOn_bind_eq_error.mp ran
  · exact read_onlyFaults kind front
  · cases back

theorem read_eq_ok {kind : ReadKind} {argument : Argument} {cursor after : Cursor} :
    (read kind).runOn cursor = (.ok argument, after) ↔
      cursor.next kind = (.ok argument, after) := by
  rw [read, Proc.runOn_ofRun]
  rcases cursor.next kind with ⟨fault | taken, rest⟩ <;> simp

theorem readValue_eq_ok {v : Value} {cursor after : Cursor} :
    readValue.runOn cursor = (.ok v, after) ↔
      ∃ argument, cursor.next .value = (.ok argument, after) ∧ ⟨argument.word⟩ = v := by
  rw [readValue, Proc.runOn_bind_eq_ok]
  constructor
  · rintro ⟨argument, middle, taken, returned⟩
    cases returned
    exact ⟨argument, read_eq_ok.mp taken, rfl⟩
  · rintro ⟨argument, taken, rfl⟩
    exact ⟨argument, after, read_eq_ok.mpr taken, rfl⟩

/-- What the arguments come to as values up to a zero word: `values` are those that stand before
it, or before what is no value. -/
inductive Lists (values : List Value) : List Argument → Except CursorFault (List Value) → Prop
  | terminated {terminator : Argument} (nonzero : ∀ v ∈ values, v.bits ≠ 0)
      (fits : terminator.fits .value = true) (zero : terminator.word = 0)
      (rest : List Argument) :
      Lists values (values.map .value ++ terminator :: rest) (.ok values)
  | exhausted (nonzero : ∀ v ∈ values, v.bits ≠ 0) :
      Lists values (values.map .value) (.error (.exhausted values.length))
  | mismatch {other : Argument} (nonzero : ∀ v ∈ values, v.bits ≠ 0)
      (misfit : other.fits .value = false) (rest : List Argument) :
      Lists values (values.map .value ++ other :: rest)
        (.error (.mismatch values.length .value other.kind))

theorem eq_value_of_fits {argument : Argument} (fits : argument.fits .value = true)
    (nonzero : argument.word ≠ 0) : ∃ v : Value, v.bits ≠ 0 ∧ argument = .value v := by
  cases argument with
  | value v => exact ⟨v, nonzero, rfl⟩
  | null => exact absurd rfl nonzero
  | _ => cases fits

theorem Lists.cons {v : Value} (nonzero : v.bits ≠ 0) {values : List Value}
    {arguments : List Argument} {result : Except CursorFault (List Value)}
    (lists : Lists values arguments result) :
    ∃ result', Lists (v :: values) (.value v :: arguments) result' := by
  have all (rest : ∀ w ∈ values, w.bits ≠ 0) : ∀ w ∈ v :: values, w.bits ≠ 0 := by
    simpa using ⟨nonzero, rest⟩
  cases lists with
  | terminated others fits zero rest => exact ⟨_, .terminated (all others) fits zero rest⟩
  | exhausted others => exact ⟨_, .exhausted (all others)⟩
  | mismatch others misfit rest => exact ⟨_, .mismatch (all others) misfit rest⟩

theorem Lists.eq_of_ok {values classes : List Value} {arguments : List Argument}
    (lists : Lists values arguments (.ok classes)) : classes = values := by
  cases lists
  rfl

theorem exists_lists (arguments : List Argument) :
    ∃ values result, Lists values arguments result := by
  induction arguments with
  | nil => exact ⟨[], _, .exhausted (by simp)⟩
  | cons argument rest ih =>
      cases fits : argument.fits .value with
      | false => exact ⟨[], _, .mismatch (by simp) fits rest⟩
      | true =>
          by_cases zero : argument.word = 0
          · exact ⟨[], _, .terminated (by simp) fits zero rest⟩
          · obtain ⟨v, nonzero, rfl⟩ := eq_value_of_fits fits zero
            obtain ⟨values, _, lists⟩ := ih
            obtain ⟨result, lists⟩ := lists.cons nonzero
            exact ⟨v :: values, result, lists⟩

def afterValues (cursor : Cursor) (count : Nat) (rest : List Argument) : Cursor where
  rest := rest
  index := cursor.index + count
  position := cursor.position + count
  attempts := cursor.attempts ++ List.replicate count .value

theorem afterValues_afterValues (cursor : Cursor) (m n : Nat) (rest rest' : List Argument) :
    (cursor.afterValues m rest).afterValues n rest' = cursor.afterValues (m + n) rest' := by
  simp [afterValues, Nat.add_assoc, List.append_assoc, List.replicate_append_replicate]

theorem runOn_readValue {cursor : Cursor} {argument : Argument} {rest : List Argument}
    (next : cursor.rest = argument :: rest) (fits : argument.fits .value = true) :
    readValue.runOn cursor = (.ok ⟨argument.word⟩, cursor.afterValues 1 rest) := by
  have taken : (read .value).runOn cursor = (.ok argument, cursor.afterValues 1 rest) := by
    rw [read, Proc.runOn_ofRun]
    simp only [Cursor.next, next, fits, if_true]
    rfl
  rw [readValue, Proc.runOn_bind_of_ok taken, Proc.runOn_pure]

theorem runOn_readValues {count : Nat} {cursor : Cursor} (enough : count ≤ cursor.rest.length)
    (fits : ∀ argument ∈ cursor.rest.take count, argument.fits .value = true) :
    (readValues count).runOn cursor =
      (.ok ((cursor.rest.take count).map fun argument => ⟨argument.word⟩),
        cursor.afterValues count (cursor.rest.drop count)) := by
  induction count generalizing cursor with
  | zero => simp [readValues, afterValues]
  | succ count ih =>
      cases next : cursor.rest with
      | nil => simp [next] at enough
      | cons argument rest =>
          rw [next, List.take_succ_cons, List.forall_mem_cons] at fits
          rw [next, List.length_cons, Nat.succ_le_succ_iff] at enough
          have first := runOn_readValue next fits.1
          have others := @ih (cursor.afterValues 1 rest) enough fits.2
          change _ = (_, (cursor.afterValues 1 rest).afterValues count (rest.drop count)) at others
          rw [afterValues_afterValues, Nat.add_comm 1] at others
          rw [readValues, Proc.runOn_bind_of_ok first, Proc.runOn_bind_of_ok others]
          rfl

theorem next_of_misfit {cursor : Cursor} {argument : Argument} {rest : List Argument}
    {kind : ReadKind} (next : cursor.rest = argument :: rest)
    (misfit : argument.fits kind = false) :
    cursor.next kind =
      (.error (.mismatch cursor.index kind argument.kind),
        { rest
          index := cursor.index + 1
          position := cursor.position
          attempts := cursor.attempts ++ [kind] }) := by
  simp [Cursor.next, next, misfit]

theorem next_of_nothing {cursor : Cursor} {kind : ReadKind} (next : cursor.rest = []) :
    cursor.next kind =
      (.error (.exhausted cursor.index),
        { cursor with attempts := cursor.attempts ++ [kind] }) := by
  simp [Cursor.next, next]

def afterRead (cursor : Cursor) (kind : ReadKind) (rest : List Argument) : Cursor where
  rest
  index := cursor.index + 1
  position := cursor.position + 1
  attempts := cursor.attempts ++ [kind]

theorem next_of_fits {cursor : Cursor} {argument : Argument} {rest : List Argument}
    {kind : ReadKind} (next : cursor.rest = argument :: rest) (fits : argument.fits kind = true) :
    cursor.next kind = (.ok argument, cursor.afterRead kind rest) := by
  simp [Cursor.next, next, fits, afterRead]

theorem next_refused {cursor after : Cursor} {kind : ReadKind} {fault : CursorFault}
    (refused : cursor.next kind = (.error fault, after)) :
    after.rest = cursor.rest.drop 1 ∧ after.position = cursor.position ∧
      after.attempts = cursor.attempts ++ [kind] := by
  cases next : cursor.rest with
  | nil =>
      rw [next_of_nothing next] at refused
      cases refused
      exact ⟨next, rfl, rfl⟩
  | cons argument rest =>
      cases fits : argument.fits kind with
      | true => simp [Cursor.next, next, fits] at refused
      | false =>
          rw [next_of_misfit next fits] at refused
          cases refused
          exact ⟨rfl, rfl, rfl⟩

theorem runOn_read_of_fault {kind : ReadKind} {cursor after : Cursor} {fault : CursorFault}
    (refused : cursor.next kind = (.error fault, after)) :
    (read kind).runOn cursor = (.error (.failed (.cursor fault)), after) := by
  rw [read, Proc.runOn_ofRun, refused]

theorem runOn_readValue_of_fault {cursor after : Cursor} {fault : CursorFault}
    (refused : cursor.next .value = (.error fault, after)) :
    readValue.runOn cursor = (.error (.failed (.cursor fault)), after) :=
  Proc.runOn_bind_of_error (runOn_read_of_fault refused)

theorem runOn_readText {cursor after : Cursor} {argument : Argument}
    (next : cursor.next .text = (.ok argument, after)) :
    readText.runOn cursor = (.ok argument.content?, after) := by
  rw [readText, Proc.runOn_bind_of_ok (read_eq_ok.mpr next), Proc.runOn_pure]

theorem runOn_readText_of_fault {cursor after : Cursor} {fault : CursorFault}
    (refused : cursor.next .text = (.error fault, after)) :
    readText.runOn cursor = (.error (.failed (.cursor fault)), after) :=
  Proc.runOn_bind_of_error (runOn_read_of_fault refused)

theorem readValues_add (m n : Nat) :
    readValues (m + n) =
      (readValues m >>= fun front => readValues n >>= fun back => pure (front ++ back)) := by
  induction m with
  | zero => simp [readValues]
  | succ m ih =>
      rw [Nat.succ_add, readValues, readValues, ih]
      simp only [bind_assoc, pure_bind, List.cons_append]

def AreValues (arguments : List Argument) (count : Nat) : Prop :=
  count ≤ arguments.length ∧ ∀ argument ∈ arguments.take count, argument.fits .value = true

/-- Values are there up to `index`; the argument there is missing or is no value. -/
inductive StopsAt (arguments : List Argument) (index : Nat) : CursorFault → Prop
  | exhausted (values : AreValues arguments index) (missing : arguments[index]? = none) :
      StopsAt arguments index (.exhausted index)
  | mismatch {other : Argument} (values : AreValues arguments index)
      (here : arguments[index]? = some other) (misfit : other.fits .value = false) :
      StopsAt arguments index (.mismatch index .value other.kind)

theorem AreValues.succ {arguments : List Argument} {count : Nat} {argument : Argument}
    (values : AreValues arguments count) (here : arguments[count]? = some argument)
    (fits : argument.fits .value = true) : AreValues arguments (count + 1) := by
  obtain ⟨inside, rfl⟩ := List.getElem?_eq_some_iff.mp here
  refine ⟨inside, ?_⟩
  rw [List.take_succ_eq_append_getElem inside]
  intro argument member
  obtain front | last := List.mem_append.mp member
  · exact values.2 argument front
  · rw [List.mem_singleton.mp last]
    exact fits

theorem exists_stopsAt {arguments : List Argument} {count : Nat}
    (few : ¬ AreValues arguments count) :
    ∃ index < count, ∃ fault, StopsAt arguments index fault := by
  induction count with
  | zero => exact absurd ⟨Nat.zero_le _, by simp⟩ few
  | succ count ih =>
      by_cases values : AreValues arguments count
      · refine ⟨count, Nat.lt_succ_self count, ?_⟩
        cases here : arguments[count]? with
        | none => exact ⟨_, .exhausted values here⟩
        | some other =>
            cases fits : other.fits .value with
            | false => exact ⟨_, .mismatch values here fits⟩
            | true => exact absurd (values.succ here fits) few
      · obtain ⟨index, less, stops⟩ := ih values
        exact ⟨index, Nat.lt_succ_of_lt less, stops⟩

theorem StopsAt.areValues {arguments : List Argument} {index : Nat} {fault : CursorFault}
    (stops : StopsAt arguments index fault) : AreValues arguments index := by
  cases stops <;> assumption

theorem StopsAt.areValues_iff {arguments : List Argument} {index count : Nat} {fault : CursorFault}
    (stops : StopsAt arguments index fault) : AreValues arguments count ↔ count ≤ index := by
  constructor
  · intro values
    refine Nat.le_of_not_lt fun less => ?_
    have inside : index < arguments.length := Nat.lt_of_lt_of_le less values.1
    have fits := values.2 _ (List.mem_take_iff_getElem.mpr ⟨index, by omega, rfl⟩)
    cases stops with
    | exhausted _ missing =>
        rw [List.getElem?_eq_getElem inside] at missing
        cases missing
    | mismatch _ here misfit =>
        rw [List.getElem?_eq_getElem inside] at here
        cases here
        rw [fits] at misfit
        cases misfit
  · intro le
    refine ⟨Nat.le_trans le stops.areValues.1, fun argument member => ?_⟩
    exact stops.areValues.2 argument (List.take_subset_take_left _ le member)

theorem StopsAt.refused {arguments : List Argument} {index : Nat} {fault : CursorFault}
    (stops : StopsAt arguments index fault) :
    ∃ after, ((start arguments).afterValues index (arguments.drop index)).next .value =
      (.error fault, after) := by
  let reached := (start arguments).afterValues index (arguments.drop index)
  have counted : reached.index = index := Nat.zero_add index
  cases stops with
  | exhausted values missing =>
      have nothing : reached.rest = [] :=
        List.drop_eq_nil_of_le (List.getElem?_eq_none_iff.mp missing)
      have refused := @next_of_nothing reached .value nothing
      rw [counted] at refused
      exact ⟨_, refused⟩
  | mismatch values here misfit =>
      obtain ⟨inside, rfl⟩ := List.getElem?_eq_some_iff.mp here
      have refused := @next_of_misfit reached _ _ .value (List.drop_eq_getElem_cons inside) misfit
      rw [counted] at refused
      exact ⟨_, refused⟩

theorem runOn_readValues_of_stop {arguments : List Argument} {index count : Nat}
    {fault : CursorFault} (stops : StopsAt arguments index fault) (less : index < count) :
    ∃ after, (readValues count).runOn (start arguments) =
        (.error (.failed (.cursor fault)), after) ∧
      after.rest = arguments.drop (index + 1) ∧ after.position = index ∧
      after.attempts = List.replicate (index + 1) .value := by
  obtain ⟨more, rfl⟩ := Nat.exists_eq_add_of_lt less
  obtain ⟨after, refused⟩ := stops.refused
  have front := @runOn_readValues index (start arguments) stops.areValues.1 stops.areValues.2
  obtain ⟨rest, position, attempts⟩ := next_refused refused
  refine ⟨after, ?_, ?_, ?_, ?_⟩
  · rw [Nat.add_assoc, readValues_add, Proc.runOn_bind_of_ok front]
    exact Proc.runOn_bind_of_error (Proc.runOn_bind_of_error (runOn_readValue_of_fault refused))
  · rw [rest]
    exact List.drop_drop
  · rw [position]
    exact Nat.zero_add index
  · rw [attempts]
    exact List.replicate_succ'.symm

theorem readUntilZeroWithin_values {values : List Value} (nonzero : ∀ v ∈ values, v.bits ≠ 0)
    (fuel : Nat) {cursor : Cursor} {rest : List Argument}
    (next : cursor.rest = values.map .value ++ rest) :
    (readUntilZeroWithin (values.length + fuel)).runOn cursor =
      (((readUntilZeroWithin fuel).runOn (cursor.afterValues values.length rest)).1.map
          (values ++ ·),
        ((readUntilZeroWithin fuel).runOn (cursor.afterValues values.length rest)).2) := by
  induction values generalizing cursor with
  | nil =>
      have same : cursor.afterValues 0 rest = cursor := by
        cases cursor
        cases next
        simp [afterValues]
      simp only [List.length_nil, Nat.zero_add, same]
      rcases (readUntilZeroWithin fuel).runOn cursor with ⟨_ | _, _⟩ <;> rfl
  | cons v values ih =>
      obtain ⟨isNonzero, others⟩ := List.forall_mem_cons.mp nonzero
      have next : cursor.rest = .value v :: (values.map .value ++ rest) := next
      have first : readValue.runOn cursor =
          (.ok v, cursor.afterValues 1 (values.map .value ++ rest)) := runOn_readValue next rfl
      have others := @ih others (cursor.afterValues 1 (values.map .value ++ rest)) rfl
      rw [afterValues_afterValues, Nat.add_comm 1] at others
      rw [List.length_cons, Nat.add_right_comm, readUntilZeroWithin,
        Proc.runOn_bind_of_ok first, if_neg isNonzero, Proc.runOn_bind, others]
      rcases (readUntilZeroWithin fuel).runOn _ with ⟨_ | _, _⟩ <;> rfl

theorem readUntilZero_values {values : List Value} (nonzero : ∀ v ∈ values, v.bits ≠ 0)
    (rest : List Argument) :
    readUntilZero.runOn (.start (values.map .value ++ rest)) =
      (((readUntilZeroWithin (rest.length + 1)).runOn
            ((start (values.map .value ++ rest)).afterValues values.length rest)).1.map
          (values ++ ·),
        ((readUntilZeroWithin (rest.length + 1)).runOn
            ((start (values.map .value ++ rest)).afterValues values.length rest)).2) := by
  have counted : remaining.runOn (.start (values.map .value ++ rest)) =
      (.ok (values.length + rest.length), .start (values.map .value ++ rest)) := by
    rw [remaining, Proc.runOn_bind_of_ok (Proc.runOn_get _), Proc.runOn_pure]
    simp [start]
  rw [readUntilZero, Proc.runOn_bind_of_ok counted, Nat.add_assoc,
    readUntilZeroWithin_values nonzero _ rfl]

theorem index_start_afterValues (arguments rest : List Argument) (count : Nat) :
    ((start arguments).afterValues count rest).index = count :=
  Nat.zero_add count

/-- Reads of `count` arguments as values have been attempted. -/
structure HasRead (cursor : Cursor) (arguments : List Argument) (count : Nat) : Prop where
  rest : cursor.rest = arguments.drop count
  attempts : cursor.attempts = List.replicate count .value

theorem readUntilZero_of_lists {values : List Value} {arguments : List Argument}
    {result : Except CursorFault (List Value)} (lists : Lists values arguments result) :
    ∃ after, readUntilZero.runOn (.start arguments) =
        (result.mapError fun fault => .failed (.cursor fault), after) ∧
      after.HasRead arguments (values.length + 1) := by
  cases lists with
  | @terminated terminator nonzero fits zero rest =>
      rw [readUntilZero_values nonzero, readUntilZeroWithin,
        Proc.runOn_bind_of_ok (runOn_readValue rfl fits), if_pos zero, Proc.runOn_pure,
        afterValues_afterValues]
      refine ⟨_, Prod.ext (congrArg Except.ok values.append_nil) rfl, ?_, ?_⟩ <;>
        simp [afterValues, start, List.drop_append]
  | exhausted nonzero =>
      have refused := readUntilZero_values nonzero []
      rw [readUntilZeroWithin, Proc.runOn_bind_of_error (runOn_readValue_of_fault rfl),
        List.append_nil, index_start_afterValues] at refused
      refine ⟨_, refused.trans rfl, ?_, ?_⟩ <;>
        simp [afterValues, start, List.replicate_succ']
  | @mismatch other nonzero misfit rest =>
      rw [readUntilZero_values nonzero, readUntilZeroWithin,
        Proc.runOn_bind_of_error (runOn_readValue_of_fault (next_of_misfit rfl misfit)),
        index_start_afterValues]
      refine ⟨_, rfl, ?_, ?_⟩ <;>
        simp [afterValues, start, List.drop_append, List.replicate_succ']

end Cursor

namespace Trailing

theorem runOn_supplied (arguments : List Argument) (p : Trailing τ α)
    (ended : Cursor → τ → τ) (t : τ) :
    (p.supplied arguments ended).runOn t =
      ((p.runOn (.start arguments, t)).1,
        ended (p.runOn (.start arguments, t)).2.1 (p.runOn (.start arguments, t)).2.2) := rfl

theorem runOn_onCursor (p : Proc Cursor α) (s : Cursor × τ) :
    (onCursor p).runOn s = ((p.runOn s.1).1, ((p.runOn s.1).2, s.2)) := rfl

theorem runOn_onState (p : Proc τ α) (s : Cursor × τ) :
    (onState p).runOn s = ((p.runOn s.2).1, (s.1, (p.runOn s.2).2)) := rfl

theorem onCursor_eq_ok {p : Proc Cursor α} {a : α} {s s' : Cursor × τ} :
    (onCursor p).runOn s = (.ok a, s') ↔
      ∃ cursor, p.runOn s.1 = (.ok a, cursor) ∧ s' = (cursor, s.2) := by
  rw [runOn_onCursor]
  constructor
  · intro ran
    obtain ⟨returned, rfl⟩ := Prod.mk.inj ran
    exact ⟨_, Prod.ext returned rfl, rfl⟩
  · rintro ⟨cursor, ran, rfl⟩
    rw [ran]

theorem onCursor_map {α γ : Type} (p : Proc Cursor α) (look : α → γ) :
    (onCursor (p >>= fun a => pure (look a)) : Trailing τ γ) =
      (onCursor p >>= fun a => pure (look a)) := by
  funext s
  change (onCursor (p >>= _)).runOn s = (onCursor p >>= _).runOn s
  rw [runOn_onCursor, Proc.runOn_bind, Proc.runOn_bind, runOn_onCursor]
  rcases p.runOn s.1 with ⟨_ | _, _⟩ <;> rfl

end Trailing

end NativeGate
