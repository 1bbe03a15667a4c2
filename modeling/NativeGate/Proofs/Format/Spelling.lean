import NativeGate.Proofs.Format.Integers
import NativeGate.Proofs.Format.Scan

namespace NativeGate.Format

open NativeGate Numeral

inductive Flag
  | left
  | plus
  | space
  | zero
  | alternate
deriving DecidableEq, Repr

namespace Flag

def octet : Flag → UInt8
  | .left => 0x2d
  | .plus => 0x2b
  | .space => 0x20
  | .zero => 0x30
  | .alternate => 0x23

def set (flags : Flags) : Flag → Flags
  | .left => { flags with left := true }
  | .plus => { flags with plus := true }
  | .space => { flags with space := true }
  | .zero => { flags with zero := true }
  | .alternate => { flags with alternate := true }

theorem flagOf?_octet (flags : Flags) (flag : Flag) :
    flagOf? flags flag.octet = some (flag.set flags) := by
  cases flag <;> rfl

end Flag

/-- In whatever order and however often they are written. -/
def Flags.among (flags : List Flag) : Flags where
  left := .left ∈ flags
  plus := .plus ∈ flags
  space := .space ∈ flags
  zero := .zero ∈ flags
  alternate := .alternate ∈ flags

theorem Flags.foldl_set (flags : List Flag) : flags.foldl Flag.set {} = Flags.among flags := by
  induction flags using List.reverseRecOn with
  | nil => rfl
  | append_singleton flags flag ih =>
      rw [List.foldl_append, ih]
      cases flag <;> simp [Flags.among, Flag.set]

theorem mostField_lt : mostField < mostWord := by decide

inductive Figure
  | digits (ds : List (Fin 10))
  | star (n : Int64)
deriving DecidableEq, Repr

namespace Figure

def octets : Figure → Bytes
  | .digits ds => ds.map fun d => digitOctet .lower d.val
  | .star _ => [0x2a]

def amount : Figure → Amount
  | .digits ds => .given (value 10 (ds.map (·.val)))
  | .star _ => .star

def number : Figure → Int
  | .digits ds => value 10 (ds.map (·.val))
  | .star n => (Argument.integer n).int.toInt

def arguments : Figure → List Argument
  | .digits _ => []
  | .star n => [.integer n]

def read : Figure → Amount
  | .digits ds => .given (valueUpTo mostWord 10 (ds.map (·.val)))
  | .star _ => .star

theorem read_eq_amount {figure : Figure} (small : figure.number ≤ mostField) :
    figure.read = figure.amount := by
  cases figure with
  | star n => rfl
  | digits ds =>
      have small : value 10 (ds.map (·.val)) ≤ mostField := Int.ofNat_le.mp small
      rw [read, amount, valueUpTo_eq (by decide),
        Nat.min_eq_left (Nat.le_trans small (Nat.le_of_lt mostField_lt))]

/-- A zero in front of a width is a flag. -/
def flagged (flags : Flags) : Figure → Flags
  | .digits ds => if ds.head? = some 0 then { flags with zero := true } else flags
  | .star _ => flags

theorem left_flagged (flags : Flags) (figure : Figure) :
    (figure.flagged flags).left = flags.left := by
  cases figure with
  | star n => rfl
  | digits ds =>
      rw [flagged]
      split <;> rfl

theorem flagged_of_head {figure : Figure} (head : ∀ ds, figure = .digits ds → ds.head? ≠ some 0)
    (flags : Flags) : figure.flagged flags = flags := by
  cases figure with
  | star n => rfl
  | digits ds => exact if_neg (head ds rfl)

end Figure

def precisionOctets : Option Figure → Bytes
  | none => []
  | some figure => 0x2e :: figure.octets

inductive Modifier
  | none
  | hh
  | h
  | l
  | ll
  | z
  | j
  | t
deriving DecidableEq, Repr

namespace Modifier

def octets : Modifier → Bytes
  | .none => []
  | .hh => [0x68, 0x68]
  | .h => [0x68]
  | .l => [0x6c]
  | .ll => [0x6c, 0x6c]
  | .z => [0x7a]
  | .j => [0x6a]
  | .t => [0x74]

def length : Modifier → Length
  | .none => .int
  | .hh => .char
  | .h => .short
  | _ => .long

end Modifier

/-- Any other letter is refused. -/
inductive Letter
  | integer (conversion : IntegerConversion)
  | character
  | text
  | pointer
  | float (style : FloatStyle)
  | value
deriving DecidableEq, Repr

namespace Letter

def octet : Letter → UInt8
  | .integer conversion => conversion.letter
  | .character => 0x63
  | .text => 0x73
  | .pointer => 0x70
  | .float .fixed => 0x66
  | .float .scientific => 0x65
  | .value => 0x69

def octets : Letter → Bytes
  | .value => [0x69, valueMark]
  | letter => [letter.octet]

def conversion : Letter → Conversion
  | .integer conversion => conversion.conversion
  | .character => .character
  | .text => .text
  | .pointer => .pointer
  | .float style => .float style
  | .value => .value

end Letter

structure Spelling where
  flags : List Flag
  width : Figure
  precision : Option Figure
  modifier : Modifier
  letter : Letter
  marked : letter = .value → modifier.length = .long

namespace Spelling

variable (d : Spelling)

def spelled : Bytes :=
  0x25 :: (d.flags.map Flag.octet ++ (d.width.octets ++
    (precisionOctets d.precision ++ (d.modifier.octets ++ d.letter.octets))))

def unfinished : Directive where
  flags := d.width.flagged (Flags.among d.flags)
  width := d.width.read
  precision := d.precision.map Figure.read
  length := d.modifier.length

def directive : Directive :=
  { d.unfinished with conversion := d.letter.conversion }

/-- An `i` behind a long length may turn out to be a value's text. -/
def MayBeMarked : Prop :=
  d.letter = .integer .i ∧ d.modifier.length = .long

end Spelling

theorem scan_append (stage : Stage) (front back : Bytes) :
    scan stage (front ++ back) =
      ((scan stage front).1 ++ (scan (scan stage front).2 back).1,
        (scan (scan stage front).2 back).2) := by
  induction front generalizing stage with
  | nil => rfl
  | cons b rest ih =>
      change ((step stage b).1 ++ (scan (step stage b).2 (rest ++ back)).1,
        (scan (step stage b).2 (rest ++ back)).2) = _
      rw [ih, ← List.append_assoc]
      rfl

theorem scan_append_of_eq {stage middle : Stage} {front : Bytes}
    (read : scan stage front = ([], middle)) (back : Bytes) :
    scan stage (front ++ back) = scan middle back := by
  rw [scan_append, read]
  rfl

theorem scan_cons_of_eq {stage middle : Stage} {b : UInt8} (read : step stage b = ([], middle))
    (back : Bytes) : scan stage (b :: back) = scan middle back := by
  change ((step stage b).1 ++ (scan (step stage b).2 back).1, (scan (step stage b).2 back).2) = _
  rw [read]
  rfl

theorem scan_singleton (stage : Stage) (b : UInt8) : scan stage [b] = step stage b := by
  change ((step stage b).1 ++ [], (step stage b).2) = _
  rw [List.append_nil]

theorem scan_flags (d : Directive) (flags : List Flag) :
    scan (.flags d) (flags.map Flag.octet) =
      ([], .flags { d with flags := flags.foldl Flag.set d.flags }) := by
  induction flags generalizing d with
  | nil => rfl
  | cons flag rest ih =>
      have read : step (.flags d) flag.octet =
          ([], .flags { d with flags := flag.set d.flags }) := by
        rw [step, onFlag, Flag.flagOf?_octet]
      rw [List.map_cons, scan_cons_of_eq read, ih, List.foldl_cons]

structure Plain (b : UInt8) : Prop where
  notFlag : ∀ flags, flagOf? flags b = none
  notStar : b ≠ 0x2a
  notDigit : isDigit b = false

theorem point_plain : Plain 0x2e :=
  ⟨fun _ => rfl, by decide, by decide⟩

def lengthOctets : Bytes :=
  [0x68, 0x6c, 0x7a, 0x6a, 0x74]

theorem plain_of_mem_lengthOctets {b : UInt8} (letter : b ∈ lengthOctets) :
    Plain b ∧ b ≠ 0x2e := by
  simp only [lengthOctets, List.mem_cons, List.not_mem_nil, or_false] at letter
  obtain rfl | rfl | rfl | rfl | rfl := letter <;>
    exact ⟨⟨fun _ => rfl, by decide, by decide⟩, by decide⟩

structure Concludes (b : UInt8) : Prop extends Plain b where
  notPoint : b ≠ 0x2e
  notLength : b ∉ lengthOctets

theorem Letter.octet_concludes (letter : Letter) : Concludes letter.octet := by
  cases letter with
  | integer conversion =>
      cases conversion <;> exact ⟨⟨fun _ => rfl, by decide, by decide⟩, by decide, by decide⟩
  | float style =>
      cases style <;> exact ⟨⟨fun _ => rfl, by decide, by decide⟩, by decide, by decide⟩
  | _ => exact ⟨⟨fun _ => rfl, by decide, by decide⟩, by decide, by decide⟩

section Digits

variable (c : Fin 10)

theorem isDigit_digitOctet : isDigit (digitOctet .lower c) = true := by
  revert c
  decide

theorem digitValue_digitOctet : digitValue (digitOctet .lower c) = c := by
  revert c
  decide

theorem digitOctet_ne_star : digitOctet .lower c ≠ 0x2a := by
  revert c
  decide

theorem flagOf?_digitOctet (nonzero : c ≠ 0) (flags : Flags) :
    flagOf? flags (digitOctet .lower c) = none := by
  have others : ∀ c : Fin 10, c ≠ 0 → digitOctet .lower c ∉ [0x2d, 0x2b, 0x20, 0x30, 0x23] := by
    decide
  have other := others c nonzero
  simp only [List.mem_cons, List.not_mem_nil, or_false, not_or] at other
  simp [flagOf?, other]

end Digits

def continued (n : Nat) (ds : List (Fin 10)) : Amount :=
  .given ((ds.map (·.val)).foldl (appendUpTo mostWord 10) n)

theorem appendDigit_digitOctet (n : Nat) (c : Fin 10) :
    (Amount.given n).appendDigit (digitOctet .lower c) =
      .given (appendUpTo mostWord 10 n c) := by
  rw [Amount.appendDigit, digitValue_digitOctet]

theorem scan_digits (reading : Amount → Stage)
    (reads : ∀ n b, isDigit b = true →
      step (reading (.given n)) b = ([], reading ((Amount.given n).appendDigit b)))
    (n : Nat) (ds : List (Fin 10)) :
    scan (reading (.given n)) (Figure.digits ds).octets = ([], reading (continued n ds)) := by
  induction ds generalizing n with
  | nil => rfl
  | cons c rest ih =>
      have next := reads n _ (isDigit_digitOctet c)
      rw [appendDigit_digitOctet] at next
      rw [Figure.octets, List.map_cons, scan_cons_of_eq next]
      exact ih _

theorem step_width_digit (d : Directive) (n : Nat) (b : UInt8) (digit : isDigit b = true) :
    step (.width { d with width := .given n }) b =
      ([], .width { d with width := (Amount.given n).appendDigit b }) := by
  rw [step, onWidth, if_pos digit]

theorem step_precision_digit (d : Directive) (n : Nat) (b : UInt8) (digit : isDigit b = true) :
    step (.precision { d with precision := some (.given n) }) b =
      ([], .precision { d with precision := some ((Amount.given n).appendDigit b) }) := by
  rw [step, onPrecisionDigit, if_pos digit, Option.map_some]

theorem scan_width {d : Directive} (unread : d.width = .given 0) (figure : Figure) :
    ∃ stage, scan (.flags d) figure.octets = ([], stage) ∧ ∀ b, Plain b →
      step stage b =
        onPrecision { d with flags := figure.flagged d.flags, width := figure.read } b := by
  cases figure with
  | star n =>
      refine ⟨.widthDone { d with width := .star }, ?_, fun b _ => rfl⟩
      rw [Figure.octets, scan_singleton]
      rfl
  | digits ds =>
      -- By induction for the sake of zeros in front, which leave the scan among the flags.
      induction ds generalizing d with
      | nil =>
          refine ⟨.flags d, rfl, fun b plain => ?_⟩
          cases d
          cases unread
          rw [step, onFlag, plain.notFlag]
          dsimp only
          rw [if_neg plain.notStar, onWidth, if_neg (by rw [plain.notDigit]; decide)]
          rfl
      | cons c rest ih =>
          rw [Figure.octets, List.map_cons]
          by_cases zero : c = 0
          · subst zero
            obtain ⟨stage, scanned, reads⟩ :=
              @ih { d with flags := { d.flags with zero := true } } unread
            refine ⟨stage, (scan_cons_of_eq rfl _).trans scanned, fun b plain => ?_⟩
            have flags : (Figure.digits rest).flagged { d.flags with zero := true } =
                (Figure.digits (0 :: rest)).flagged d.flags := ite_self _
            have width : (Figure.digits rest).read = (Figure.digits (0 :: rest)).read := rfl
            rw [reads b plain, flags, width]
          · have first : step (.flags d) (digitOctet .lower c) =
                ([], .width { d with width := .given (appendUpTo mostWord 10 0 c) }) := by
              rw [step, onFlag, flagOf?_digitOctet c zero]
              dsimp only
              rw [if_neg (digitOctet_ne_star c), onWidth, if_pos (isDigit_digitOctet c), unread,
                appendDigit_digitOctet]
            have flags : (Figure.digits (c :: rest)).flagged d.flags = d.flags :=
              if_neg fun head => zero (Option.some.inj head)
            refine ⟨.width { d with width := (Figure.digits (c :: rest)).read }, ?_, ?_⟩
            · rw [scan_cons_of_eq first]
              exact scan_digits (fun amount => .width { d with width := amount })
                (step_width_digit d) _ rest
            · intro b plain
              rw [flags, step, onWidth, if_neg (by rw [plain.notDigit]; decide)]

theorem scan_precision {stage : Stage} {d : Directive}
    (reads : ∀ b, Plain b → step stage b = onPrecision d b) (unread : d.precision = none)
    (precision : Option Figure) :
    ∃ next, scan stage (precisionOctets precision) = ([], next) ∧
      ∀ b, Plain b → b ≠ 0x2e →
        step next b = onLength { d with precision := precision.map Figure.read } b := by
  have pointed : step stage 0x2e = ([], .point { d with precision := some (.given 0) }) := by
    rw [reads _ point_plain]
    rfl
  cases precision with
  | none =>
      refine ⟨stage, rfl, fun b plain other => ?_⟩
      cases d
      cases unread
      rw [reads b plain, onPrecision, if_neg other]
      rfl
  | some figure =>
      rw [precisionOctets, scan_cons_of_eq pointed]
      cases figure with
      | star n =>
          refine ⟨.precisionDone { d with precision := some .star }, ?_, fun b _ _ => rfl⟩
          rw [Figure.octets, scan_singleton]
          rfl
      | digits ds =>
          cases ds with
          | nil =>
              refine ⟨.point { d with precision := some (.given 0) }, rfl, fun b plain _ => ?_⟩
              rw [step, if_neg plain.notStar, onPrecisionDigit,
                if_neg (by rw [plain.notDigit]; decide)]
              rfl
          | cons c rest =>
              have first : step (.point { d with precision := some (.given 0) })
                  (digitOctet .lower c) =
                  ([], .precision
                    { d with precision := some (.given (appendUpTo mostWord 10 0 c)) }) := by
                rw [step, if_neg (digitOctet_ne_star c), onPrecisionDigit,
                  if_pos (isDigit_digitOctet c), Option.map_some, appendDigit_digitOctet]
              refine ⟨.precision { d with precision := some (Figure.digits (c :: rest)).read },
                ?_, fun b plain _ => ?_⟩
              · rw [Figure.octets, List.map_cons, scan_cons_of_eq first]
                exact scan_digits (fun amount => .precision { d with precision := some amount })
                  (step_precision_digit d) _ rest
              · rw [step, onPrecisionDigit, if_neg (by rw [plain.notDigit]; decide)]
                rfl

theorem scan_modifier {stage : Stage} {d : Directive}
    (reads : ∀ b, Plain b → b ≠ 0x2e → step stage b = onLength d b) (unread : d.length = .int)
    (modifier : Modifier) :
    ∃ next, scan stage modifier.octets = ([], next) ∧ ∀ b, Concludes b →
      step next b = onConversion { d with length := modifier.length } b := by
  have letters (b : UInt8) (letter : b ∈ lengthOctets) : step stage b = onLength d b := by
    obtain ⟨plain, notPoint⟩ := plain_of_mem_lengthOctets letter
    exact reads b plain notPoint
  have others {b : UInt8} (concludes : Concludes b) :
      b ≠ 0x68 ∧ b ≠ 0x6c ∧ ¬ (b = 0x7a ∨ b = 0x6a ∨ b = 0x74) := by
    simpa [lengthOctets] using concludes.notLength
  cases modifier with
  | none =>
      refine ⟨stage, rfl, fun b concludes => ?_⟩
      obtain ⟨notH, notL, notLong⟩ := others concludes
      cases d
      cases unread
      rw [reads b concludes.toPlain concludes.notPoint, onLength, if_neg notH, if_neg notL,
        if_neg notLong]
      rfl
  | h =>
      refine ⟨.short { d with length := .short }, ?_, fun b concludes => ?_⟩
      · rw [Modifier.octets, scan_singleton, letters _ (by decide)]
        rfl
      · exact if_neg (others concludes).1
  | hh =>
      refine ⟨.lengthDone { d with length := .char }, ?_, fun b _ => rfl⟩
      rw [Modifier.octets, scan_cons_of_eq ((letters _ (by decide)).trans rfl)]
      rfl
  | l =>
      refine ⟨.long { d with length := .long }, ?_, fun b concludes => ?_⟩
      · rw [Modifier.octets, scan_singleton, letters _ (by decide)]
        rfl
      · exact if_neg (others concludes).2.1
  | ll =>
      refine ⟨.lengthDone { d with length := .long }, ?_, fun b _ => rfl⟩
      rw [Modifier.octets, scan_cons_of_eq ((letters _ (by decide)).trans rfl)]
      rfl
  | z | j | t =>
      refine ⟨.lengthDone { d with length := .long }, ?_, fun b _ => rfl⟩
      rw [Modifier.octets, scan_singleton, letters _ (by decide)]
      rfl

namespace Spelling

variable (d : Spelling)

theorem scan_spelled :
    ∃ stage, scan .text d.spelled = scan stage d.letter.octets ∧
      ∀ b, Concludes b → step stage b = onConversion d.unfinished b := by
  obtain ⟨stage, width, reads⟩ := @scan_width { flags := Flags.among d.flags } rfl d.width
  obtain ⟨stage', precision, reads⟩ := scan_precision reads rfl d.precision
  obtain ⟨stage'', modifier, reads⟩ := scan_modifier reads rfl d.modifier
  have start : step .text 0x25 = ([], .flags {}) := rfl
  have flags := scan_flags {} d.flags
  rw [Flags.foldl_set] at flags
  refine ⟨stage'', ?_, reads⟩
  rw [spelled, scan_cons_of_eq start, scan_append_of_eq flags, scan_append_of_eq width,
    scan_append_of_eq precision, scan_append_of_eq modifier]

theorem complete_unfinished (other : d.letter ≠ .value) :
    d.unfinished.complete (conversionOf d.letter.octet) = .directive d.directive := by
  cases letter : d.letter with
  | value => exact absurd letter other
  | integer conversion =>
      cases conversion <;> simp only [directive, letter] <;> rfl
  | float style =>
      cases style <;> simp only [directive, letter] <;> rfl
  | _ =>
      simp only [directive, letter]
      rfl

theorem mayBeMarked_of_waits (other : d.letter ≠ .value)
    (waits : d.letter.octet = 0x69 ∧ d.unfinished.length = .long) : d.MayBeMarked := by
  obtain ⟨octet, long⟩ := waits
  refine ⟨?_, long⟩
  cases letter : d.letter with
  | value => exact absurd letter other
  | integer conversion =>
      rw [letter] at octet
      cases conversion <;> first | rfl | cases octet
  | float style =>
      rw [letter] at octet
      cases style <;> cases octet
  | _ =>
      rw [letter] at octet
      cases octet

/-- A directive is read at its letter, except for an `i` behind a long length, which waits for the
mark. -/
theorem scan_spelled_cases :
    scan .text d.spelled = ([.directive d.directive], .text) ∨
      d.MayBeMarked ∧ scan .text d.spelled = ([], .longInteger d.unfinished) ∧
        d.unfinished.complete .signed = .directive d.directive := by
  obtain ⟨stage, scanned, reads⟩ := d.scan_spelled
  have read := reads _ d.letter.octet_concludes
  rw [scanned]
  by_cases value : d.letter = .value
  · refine .inl ?_
    rw [value] at read ⊢
    have waits : step stage 0x69 = ([], .longInteger d.unfinished) :=
      read.trans (if_pos ⟨rfl, d.marked value⟩)
    have directive : d.unfinished.complete .value = .directive d.directive := by
      rw [Directive.complete, Spelling.directive, value]
      rfl
    rw [Letter.octets, scan_cons_of_eq waits, scan_singleton, ← directive]
    rfl
  · have single : d.letter.octets = [d.letter.octet] := by
      cases letter : d.letter <;> first | rfl | exact absurd letter value
    have complete := d.complete_unfinished value
    rw [single, scan_singleton, read]
    by_cases waits : d.letter.octet = 0x69 ∧ d.unfinished.length = .long
    · rw [waits.1] at complete
      exact .inr ⟨d.mayBeMarked_of_waits value waits, if_pos waits, complete⟩
    · rw [onConversion, if_neg waits, complete]
      exact .inl rfl

theorem pieces_append {more : Bytes} (unmarked : d.MayBeMarked → more.head? ≠ some valueMark) :
    pieces (d.spelled ++ more) = .directive d.directive :: pieces more := by
  rw [pieces, scanFrom_append]
  obtain scanned | ⟨may, scanned, complete⟩ := d.scan_spelled_cases
  · rw [scanned]
    rfl
  · rw [scanned, List.nil_append, scanFrom_longInteger d.unfinished (unmarked may), complete]

end Spelling

end NativeGate.Format
