import NativeGate.Format.Scan

namespace NativeGate.Format

open NativeGate

/-- The pieces that are complete behind these octets, and where the scan then stands. -/
def scan (stage : Stage) : Bytes → Scanned
  | [] => ([], stage)
  | b :: rest =>
      let (pieces, next) := step stage b
      let (more, last) := scan next rest
      (pieces ++ more, last)

theorem scanFrom_append (stage : Stage) (front back : Bytes) :
    scanFrom stage (front ++ back) =
      (scan stage front).1 ++ scanFrom (scan stage front).2 back := by
  induction front generalizing stage with
  | nil => rfl
  | cons b rest ih =>
      change (step stage b).1 ++ scanFrom (step stage b).2 (rest ++ back) = _
      rw [ih, ← List.append_assoc]
      rfl

theorem scanFrom_eq (stage : Stage) (bytes : Bytes) :
    scanFrom stage bytes = (scan stage bytes).1 ++ (scan stage bytes).2.finish := by
  rw [← List.append_nil bytes, scanFrom_append, List.append_nil]
  rfl

theorem Stage.finish_cases (stage : Stage) :
    stage = .text ∨ (∃ d, stage = .longInteger d) ∨
      ∃ d : Directive, stage.finish = [d.complete .missing] := by
  cases stage with
  | text => exact .inl rfl
  | longInteger d => exact .inr (.inl ⟨d, rfl⟩)
  | _ d => exact .inr (.inr ⟨d, rfl⟩)

def Scanned.Waits (scanned : Scanned) (d : Directive) : Prop :=
  scanned.2 = .longInteger d

theorem Scanned.Waits.of_ite {d : Directive} {p : Prop} [Decidable p] {now later : Scanned}
    (waits : Scanned.Waits (if p then now else later) d) (other : now.2 ≠ .longInteger d) :
    later.Waits d := by
  split at waits
  · exact absurd waits other
  · exact waits

section Waits

variable {b : UInt8} {d start : Directive}

theorem onText_not_waits : ¬ (onText b).Waits d := by
  unfold onText
  split <;> exact nofun

theorem onConversion_waits (waits : (onConversion start b).Waits d) :
    b = 0x69 ∧ d.length = .long := by
  unfold onConversion at waits
  split at waits
  next long =>
    cases waits
    exact long
  next => cases waits

theorem onLength_waits (waits : (onLength start b).Waits d) : b = 0x69 ∧ d.length = .long :=
  onConversion_waits (((waits.of_ite nofun).of_ite nofun).of_ite nofun)

theorem onPrecision_waits (waits : (onPrecision start b).Waits d) :
    b = 0x69 ∧ d.length = .long :=
  onLength_waits (waits.of_ite nofun)

theorem onWidth_waits (waits : (onWidth start b).Waits d) : b = 0x69 ∧ d.length = .long :=
  onPrecision_waits (waits.of_ite nofun)

theorem onFlag_waits (waits : (onFlag start b).Waits d) : b = 0x69 ∧ d.length = .long := by
  unfold onFlag at waits
  split at waits
  · cases waits
  · exact onWidth_waits (waits.of_ite nofun)

theorem onPrecisionDigit_waits (waits : (onPrecisionDigit start b).Waits d) :
    b = 0x69 ∧ d.length = .long :=
  onLength_waits (waits.of_ite nofun)

end Waits

theorem step_waits {stage : Stage} {b : UInt8} {d : Directive} (waits : (step stage b).Waits d) :
    b = 0x69 ∧ d.length = .long := by
  cases stage with
  | text => exact absurd waits onText_not_waits
  | flags start => exact onFlag_waits waits
  | width start => exact onWidth_waits waits
  | widthDone start => exact onPrecision_waits waits
  | point start => exact onPrecisionDigit_waits (Scanned.Waits.of_ite waits nofun)
  | precision start => exact onPrecisionDigit_waits waits
  | precisionDone start => exact onLength_waits waits
  | short start => exact onConversion_waits (Scanned.Waits.of_ite waits nofun)
  | long start => exact onConversion_waits (Scanned.Waits.of_ite waits nofun)
  | lengthDone start => exact onConversion_waits waits
  | longInteger start =>
      have unmarked : Scanned.Waits (start.complete .signed :: (onText b).1, (onText b).2) d :=
        Scanned.Waits.of_ite waits nofun
      exact absurd unmarked onText_not_waits

theorem scan_waits {stage : Stage} {bytes : Bytes} {d : Directive}
    (waits : (scan stage bytes).Waits d) :
    bytes = [] ∧ stage = .longInteger d ∨ bytes.getLast? = some 0x69 ∧ d.length = .long := by
  induction bytes generalizing stage with
  | nil => exact .inl ⟨rfl, waits⟩
  | cons b rest ih =>
      refine .inr ?_
      obtain ⟨rfl, next⟩ | ⟨last, long⟩ := ih waits
      · obtain ⟨rfl, long⟩ := step_waits next
        exact ⟨rfl, long⟩
      · exact ⟨by rw [List.getLast?_cons, last]; rfl, long⟩

/-- The format string ends in a long integer conversion that is written with an `i`. -/
def EndsInLongInteger (format : Bytes) : Prop :=
  format.getLast? = some 0x69 ∧ ∃ d : Directive, (pieces format).getLast? = some (.directive d) ∧
    d.conversion = .signed ∧ d.length = .long

theorem endsInLongInteger_of_waits {format : Bytes} {d : Directive}
    (waits : (scan .text format).Waits d) : EndsInLongInteger format := by
  obtain ⟨-, stage⟩ | ⟨last, long⟩ := scan_waits waits
  · cases stage
  · refine ⟨last, { d with conversion := .signed }, ?_, rfl, long⟩
    rw [pieces, scanFrom_eq, waits]
    simp [Stage.finish, Directive.complete]

theorem scanFrom_longInteger (d : Directive) {more : Bytes}
    (unmarked : more.head? ≠ some valueMark) :
    scanFrom (.longInteger d) more = d.complete .signed :: pieces more := by
  cases more with
  | nil => rfl
  | cons b rest =>
      have other : b ≠ valueMark := fun mark => unmarked (congrArg some mark)
      simp [scanFrom, step, pieces, other]

/-- `format ++ more` has the pieces of both, unless `format` breaks off in a directive or `more`
begins with the mark that a long `i` waits for. -/
theorem pieces_append {format more : Bytes}
    (apart : ¬ (EndsInLongInteger format ∧ more.head? = some valueMark))
    (whole : ∀ d : Directive, d.complete .missing ∉ pieces format) :
    pieces (format ++ more) = pieces format ++ pieces more := by
  have split := scanFrom_eq .text format
  rw [pieces, scanFrom_append]
  obtain text | ⟨d, waits⟩ | ⟨d, broken⟩ := (scan .text format).2.finish_cases
  · rw [pieces, split, text]
    simp [pieces, Stage.finish]
  · have unmarked : more.head? ≠ some valueMark :=
      fun mark => apart ⟨endsInLongInteger_of_waits waits, mark⟩
    rw [waits, scanFrom_longInteger d unmarked, pieces.eq_def format, split, waits]
    simp [Stage.finish]
  · refine absurd ?_ (whole d)
    rw [pieces, split, broken]
    exact List.mem_append_right _ List.mem_cons_self

end NativeGate.Format
