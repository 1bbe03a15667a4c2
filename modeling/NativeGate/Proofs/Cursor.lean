import NativeGate.Proofs.Trailing

namespace NativeGate

/-! A cursor passes over its arguments once. -/

inductive Reading
  | value (v : Value)
  | int (n : Int32)
  | long (n : Int64)
  | double (x : Binary64)
  | text (address : UInt64) (content : Option Bytes)
  | pointer (address : UInt64)
deriving DecidableEq, Repr

/-- What arguments can be read as.  Null is a zero word, and an `int` is the low half of its word.
-/
inductive Reads : Argument → ReadKind → Reading → Prop
  | value (v : Value) : Reads (.value v) .value (.value v)
  | int {n : Int64} {low : Int32} (half : low.toInt = n.toInt.bmod (2 ^ 32)) :
      Reads (.integer n) .int (.int low)
  | long (n : Int64) : Reads (.integer n) .long (.long n)
  | double (x : Binary64) : Reads (.double x) .double (.double x)
  | text (address : UInt64) (content : Bytes) :
      Reads (.text address content) .text (.text address (some content))
  | textAddress (address : UInt64) (content : Bytes) :
      Reads (.text address content) .pointer (.pointer address)
  | pointer (address : UInt64) : Reads (.pointer address) .pointer (.pointer address)
  | nullValue : Reads .null .value (.value ⟨0⟩)
  | nullText : Reads .null .text (.text 0 none)
  | nullPointer : Reads .null .pointer (.pointer 0)

namespace Argument

def reading (argument : Argument) : ReadKind → Reading
  | .value => .value ⟨argument.word⟩
  | .int => .int argument.int
  | .long => .long argument.long
  | .double => .double ⟨argument.word⟩
  | .text => .text argument.word argument.content?
  | .pointer => .pointer argument.word

variable {argument : Argument} {kind : ReadKind}

theorem reads_reading (fits : argument.fits kind = true) :
    Reads argument kind (argument.reading kind) := by
  cases argument <;> cases kind <;> cases fits
  case integer.int => exact .int (toInt_int _)
  all_goals constructor

theorem fits_of_reads {reading : Reading} (reads : Reads argument kind reading) :
    argument.fits kind = true := by
  cases reads <;> rfl

end Argument

namespace Cursor

def readAs (kind : ReadKind) : Proc Cursor Reading := do
  return (← read kind).reading kind

/-- Attempts to read, one after the other, however those before them ended. -/
def readEach : List ReadKind → Proc Cursor (List (Except Exit Reading))
  | [] => pure []
  | kind :: rest => do
      let result ← (readAs kind).attempt
      return result :: (← readEach rest)

/-- How an attempt ends that is about the argument at `index`. -/
inductive EndsAt (arguments : List Argument) (index : Nat) (kind : ReadKind) :
    Except Exit Reading → Prop
  | reads {argument : Argument} {reading : Reading} (here : arguments[index]? = some argument)
      (reads : Reads argument kind reading) : EndsAt arguments index kind (.ok reading)
  | mismatch {argument : Argument} (here : arguments[index]? = some argument)
      (misfit : ∀ reading, ¬ Reads argument kind reading) :
      EndsAt arguments index kind (.error (.failed (.cursor (.mismatch index kind argument.kind))))
  | exhausted (beyond : arguments.length ≤ index) :
      EndsAt arguments index kind (.error (.failed (.cursor (.exhausted arguments.length))))

structure Attempted (arguments : List Argument) (count : Nat) (cursor : Cursor) : Prop where
  rest : cursor.rest = arguments.drop count
  index : cursor.index = min count arguments.length
  position_le : cursor.position ≤ cursor.index

theorem start_attempted (arguments : List Argument) : Attempted arguments 0 (start arguments) where
  rest := rfl
  index := (Nat.zero_min _).symm
  position_le := Nat.le_refl 0

section Attempt

variable {arguments : List Argument} {count : Nat} {cursor : Cursor}
  (attempted : Attempted arguments count cursor) (kind : ReadKind)

include attempted

theorem Attempted.next :
    ∃ result after, (readAs kind).runOn cursor = (result, after) ∧
      EndsAt arguments count kind result ∧ Attempted arguments (count + 1) after ∧
      after.position = cursor.position + [result].countP Except.isOk := by
  obtain ⟨left, counted, position_le⟩ := attempted
  cases here : arguments[count]? with
  | none =>
      have beyond := List.getElem?_eq_none_iff.mp here
      have nothing : cursor.rest = [] := left.trans (List.drop_eq_nil_of_le beyond)
      rw [Nat.min_eq_right beyond] at counted
      have refused := @next_of_nothing cursor kind nothing
      have ended : EndsAt arguments count kind _ := .exhausted beyond
      rw [← counted] at ended
      refine ⟨_, _, Proc.runOn_bind_of_error (runOn_read_of_fault refused), ended, ?_, rfl⟩
      refine ⟨?_, ?_, position_le⟩
      · exact nothing.trans (List.drop_eq_nil_of_le (Nat.le_succ_of_le beyond)).symm
      · exact counted.trans (Nat.min_eq_right (Nat.le_succ_of_le beyond)).symm
  | some argument =>
      obtain ⟨inside, rfl⟩ := List.getElem?_eq_some_iff.mp here
      rw [List.drop_eq_getElem_cons inside] at left
      rw [Nat.min_eq_left (Nat.le_of_lt inside)] at counted
      subst counted
      have passed (position : Nat) (le : position ≤ cursor.index + 1) (attempts : List ReadKind) :
          Attempted arguments (cursor.index + 1)
            ⟨arguments.drop (cursor.index + 1), cursor.index + 1, position, attempts⟩ :=
        ⟨rfl, (Nat.min_eq_left inside).symm, le⟩
      cases fits : arguments[cursor.index].fits kind with
      | true =>
          have taken := read_eq_ok.mpr (next_of_fits left fits)
          exact ⟨_, _, Proc.runOn_bind_of_ok taken, .reads here (Argument.reads_reading fits),
            passed _ (Nat.succ_le_succ position_le) _, rfl⟩
      | false =>
          have refused := next_of_misfit left fits
          have misfit (reading : Reading) : ¬ Reads arguments[cursor.index] kind reading := by
            intro reads
            rw [Argument.fits_of_reads reads] at fits
            cases fits
          exact ⟨_, _, Proc.runOn_bind_of_error (runOn_read_of_fault refused),
            .mismatch here misfit, passed _ (Nat.le_succ_of_le position_le) _, rfl⟩

theorem Attempted.attempt_next :
    ∃ result after, (readAs kind).attempt.runOn cursor = (.ok result, after) ∧
      EndsAt arguments count kind result ∧ Attempted arguments (count + 1) after ∧
      after.position = cursor.position + [result].countP Except.isOk := by
  obtain ⟨result, after, ran, ends, rest⟩ := attempted.next kind
  refine ⟨result, after, ?_, ends, rest⟩
  rw [Proc.runOn_attempt, ran]
  cases ends <;> rfl

end Attempt

theorem Attempted.each {arguments : List Argument} {count : Nat} {cursor : Cursor}
    (attempted : Attempted arguments count cursor) (kinds : List ReadKind) :
    ∃ results after, (readEach kinds).runOn cursor = (.ok results, after) ∧
      Attempted arguments (count + kinds.length) after ∧ results.length = kinds.length ∧
      (∀ k kind, kinds[k]? = some kind →
        ∃ result, results[k]? = some result ∧ EndsAt arguments (count + k) kind result) ∧
      after.position = cursor.position + results.countP Except.isOk := by
  induction kinds generalizing count cursor with
  | nil => exact ⟨[], cursor, rfl, attempted, rfl, nofun, rfl⟩
  | cons kind kinds ih =>
      obtain ⟨result, middle, ran, ends, passed, counted⟩ := attempted.attempt_next kind
      obtain ⟨results, after, ranOthers, passedOthers, same, others, countedOthers⟩ := ih passed
      refine ⟨result :: results, after, ?_, ?_, ?_, ?_, ?_⟩
      · rw [readEach, Proc.runOn_bind_of_ok ran, Proc.runOn_bind_of_ok ranOthers]
        rfl
      · rw [List.length_cons, Nat.add_comm kinds.length, ← Nat.add_assoc]
        exact passedOthers
      · rw [List.length_cons, List.length_cons, same]
      · intro k other asked
        cases k with
        | zero =>
            cases asked
            exact ⟨result, rfl, ends⟩
        | succ k =>
            obtain ⟨ended, here, endsThere⟩ := others k other asked
            rw [Nat.add_assoc, Nat.add_comm 1] at endsThere
            exact ⟨ended, here, endsThere⟩
      · rw [countedOthers, counted, Nat.add_assoc, ← List.countP_append]
        rfl

theorem readEach_append (kinds more : List ReadKind) :
    readEach (kinds ++ more) =
      (readEach kinds >>= fun results => readEach more >>= fun others =>
        pure (results ++ others)) := by
  induction kinds with
  | nil => simp [readEach]
  | cons kind kinds ih =>
      rw [List.cons_append, readEach, readEach, ih]
      simp only [bind_assoc, pure_bind, List.cons_append]

/-- The k-th attempt is about the k-th argument and nothing else: it hands that argument out,
refuses it as one of another kind, or finds that there are no more.  `position` counts the attempts
that succeeded, and more attempts change nothing about earlier ones. -/
theorem attempts_pass_once (arguments : List Argument) (kinds : List ReadKind) :
    ∃ results after, (readEach kinds).runOn (.start arguments) = (.ok results, after) ∧
      results.length = kinds.length ∧
      (∀ k kind, kinds[k]? = some kind →
        ∃ result, results[k]? = some result ∧ EndsAt arguments k kind result) ∧
      after.position = results.countP Except.isOk ∧ after.position ≤ arguments.length ∧
      ∀ more, ∃ others last,
        (readEach (kinds ++ more)).runOn (.start arguments) = (.ok (results ++ others), last) ∧
        last.position = after.position + others.countP Except.isOk := by
  obtain ⟨results, after, ran, attempted, same, ends, counted⟩ :=
    (start_attempted arguments).each kinds
  refine ⟨results, after, ran, same, ?_, ?_, ?_, ?_⟩
  · simpa using ends
  · rw [counted]
    exact Nat.zero_add _
  · exact Nat.le_trans (attempted.index ▸ attempted.position_le) (Nat.min_le_right _ _)
  · intro more
    obtain ⟨others, last, ranMore, -, -, -, countedMore⟩ := attempted.each more
    refine ⟨others, last, ?_, countedMore⟩
    rw [readEach_append, Proc.runOn_bind_of_ok ran, Proc.runOn_bind_of_ok ranMore]
    rfl

theorem attempts_pass_once_mixed :
    ∃ results after,
      (readEach [.value, .int, .text, .long]).runOn
          (.start [.double ⟨0x3ff0000000000000⟩, .integer 0x1ffffffff, .null]) =
        (.ok results, after) ∧
      results = [.error (.failed (.cursor (.mismatch 0 .value .double))), .ok (.int (-1)),
        .ok (.text 0 none), .error (.failed (.cursor (.exhausted 3)))] ∧
      after.position = 2 ∧
      ∃ result, results[1]? = some result ∧
        EndsAt [.double ⟨0x3ff0000000000000⟩, .integer 0x1ffffffff, .null] 1 .int result := by
  obtain ⟨results, after, ran, -, ends, counted, -⟩ :=
    attempts_pass_once [.double ⟨0x3ff0000000000000⟩, .integer 0x1ffffffff, .null]
      [.value, .int, .text, .long]
  have same : results = [.error (.failed (.cursor (.mismatch 0 .value .double))), .ok (.int (-1)),
      .ok (.text 0 none), .error (.failed (.cursor (.exhausted 3)))] :=
    Except.ok.inj (congrArg Prod.fst ran).symm
  subst same
  exact ⟨_, after, ran, rfl, counted, ends 1 .int rfl⟩

end Cursor

end NativeGate
