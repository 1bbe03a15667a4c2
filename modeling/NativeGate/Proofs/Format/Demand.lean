import NativeGate.Proofs.Format.Rendered

namespace NativeGate.Format

open NativeGate Numeral

/-! The arguments that a format string demands, told from its octets alone. -/

def isFlag (b : UInt8) : Bool :=
  (octets "-+ 0#").contains b

def figureDemand : Bytes → List ReadKind × Bytes
  | [] => ([], [])
  | b :: rest => if b = 0x2a then ([.int], rest) else ([], (b :: rest).dropWhile isDigit)

def precisionDemand : Bytes → List ReadKind × Bytes
  | [] => ([], [])
  | b :: rest => if b = 0x2e then figureDemand rest else ([], b :: rest)

def skipOne (c : UInt8) : Bytes → Bytes
  | [] => []
  | b :: rest => if b = c then rest else b :: rest

def modifierDemand : Bytes → ReadKind × Bytes
  | [] => (.int, [])
  | b :: rest =>
      if b = 0x68 then (.int, skipOne 0x68 rest)
      else if b = 0x6c then (.long, skipOne 0x6c rest)
      else if b = 0x7a ∨ b = 0x6a ∨ b = 0x74 then (.long, rest)
      else (.int, b :: rest)

def letterDemand? (integer : ReadKind) (b : UInt8) : Option (List ReadKind) :=
  if b = 0x25 then some []
  else if b ∈ octets "diuxXo" then some [integer]
  else if b ∈ octets "c" then some [.int]
  else if b ∈ octets "s" then some [.text]
  else if b ∈ octets "p" then some [.pointer]
  else if b ∈ octets "fe" then some [.double]
  else none

/-- The vertical tab behind a long `i` makes a managed value of it.  Without a conversion nothing is
demanded and nothing follows. -/
def conversionDemand (integer : ReadKind) : Bytes → List ReadKind × Option Bytes
  | [] => ([], none)
  | b :: rest =>
      if b = 0x69 ∧ integer = .long ∧ rest.head? = some valueMark then
        ([.value], some (skipOne valueMark rest))
      else
        match letterDemand? integer b with
        | some own => (own, some rest)
        | none => ([], none)

def directiveDemand (bytes : Bytes) : List ReadKind × Option Bytes :=
  let width := figureDemand (bytes.dropWhile isFlag)
  let precision := precisionDemand width.2
  let modifier := modifierDemand precision.2
  let conversion := conversionDemand modifier.1 modifier.2
  (width.1 ++ precision.1 ++ conversion.1, conversion.2)

theorem length_skipOne_le (c : UInt8) (bytes : Bytes) :
    (skipOne c bytes).length ≤ bytes.length := by
  cases bytes with
  | nil => exact Nat.le_refl _
  | cons b rest =>
      rw [skipOne]
      split
      · exact Nat.le_succ _
      · exact Nat.le_refl _

theorem length_figureDemand_le (bytes : Bytes) : (figureDemand bytes).2.length ≤ bytes.length := by
  cases bytes with
  | nil => exact Nat.le_refl _
  | cons b rest =>
      rw [figureDemand]
      split
      · exact Nat.le_succ _
      · exact (List.dropWhile_sublist _).length_le

theorem length_precisionDemand_le (bytes : Bytes) :
    (precisionDemand bytes).2.length ≤ bytes.length := by
  cases bytes with
  | nil => exact Nat.le_refl _
  | cons b rest =>
      rw [precisionDemand]
      split
      · exact Nat.le_succ_of_le (length_figureDemand_le rest)
      · exact Nat.le_refl _

theorem length_modifierDemand_le (bytes : Bytes) :
    (modifierDemand bytes).2.length ≤ bytes.length := by
  cases bytes with
  | nil => exact Nat.le_refl _
  | cons b rest =>
      have skipped (c : UInt8) := Nat.le_succ_of_le (length_skipOne_le c rest)
      rw [modifierDemand]
      split
      · exact skipped 0x68
      split
      · exact skipped 0x6c
      split
      · exact Nat.le_succ _
      · exact Nat.le_refl _

theorem length_conversionDemand_lt {integer : ReadKind} {bytes behind : Bytes}
    (follows : (conversionDemand integer bytes).2 = some behind) :
    behind.length < bytes.length := by
  cases bytes with
  | nil => cases follows
  | cons b rest =>
      rw [conversionDemand] at follows
      split at follows
      · cases follows
        exact Nat.lt_succ_of_le (length_skipOne_le _ rest)
      split at follows
      · cases follows
        exact Nat.lt_succ_self _
      · cases follows

theorem length_directiveDemand_lt {bytes behind : Bytes}
    (follows : (directiveDemand bytes).2 = some behind) : behind.length < bytes.length := by
  have flags := (List.dropWhile_sublist isFlag (l := bytes)).length_le
  have width := length_figureDemand_le (bytes.dropWhile isFlag)
  have precision := length_precisionDemand_le (figureDemand (bytes.dropWhile isFlag)).2
  have modifier := length_modifierDemand_le
    (precisionDemand (figureDemand (bytes.dropWhile isFlag)).2).2
  have conversion := length_conversionDemand_lt follows
  omega

/-- A malformed directive demands its stars, and nothing is demanded behind it. -/
def demanded : Bytes → List ReadKind
  | [] => []
  | b :: rest =>
      if b = 0x25 then
        match _ : (directiveDemand rest).2 with
        | some behind => (directiveDemand rest).1 ++ demanded behind
        | none => (directiveDemand rest).1
      else demanded rest
termination_by bytes => bytes.length
decreasing_by
  · exact Nat.lt_succ_of_lt (length_directiveDemand_lt ‹_›)
  · exact Nat.lt_succ_self _

example : demanded (octets "%-*.*hhd%% %+li\x0b%08.3ls%lf%*q%d") =
    [.int, .int, .int, .value, .text, .double, .int] := by
  cbv

def Amount.demand : Amount → List ReadKind
  | .given _ => []
  | .star => [.int]

def Directive.stars (d : Directive) : List ReadKind :=
  d.width.demand ++ (d.precision.map Amount.demand).getD []

def Conversion.demand? (length : Length) : Conversion → Option (List ReadKind)
  | .percent => some []
  | .value => some [.value]
  | .signed | .unsigned _ => some [integerKind length]
  | .character => some [.int]
  | .text => some [.text]
  | .pointer => some [.pointer]
  | .float _ => some [.double]
  | .unknown _ | .missing => none

def demandOf : List Piece → List ReadKind
  | [] => []
  | .literal _ :: rest => demandOf rest
  | .directive d :: rest =>
      match d.conversion.demand? d.length with
      | some own => d.stars ++ (own ++ demandOf rest)
      | none => d.stars

def wholeDemand (demand : List ReadKind × Option Bytes) : List ReadKind :=
  match demand.2 with
  | some behind => demand.1 ++ demandOf (pieces behind)
  | none => demand.1

@[simp] theorem Amount.demand_appendDigit (b : UInt8) (amount : Amount) :
    (amount.appendDigit b).demand = amount.demand := by
  cases amount <;> rfl

theorem demand?_conversionOf (length : Length) (b : UInt8) :
    (conversionOf b).demand? length = letterDemand? (integerKind length) b := by
  let Agrees (conversion : Conversion) : Prop :=
    conversion.demand? length = letterDemand? (integerKind length) b
  unfold conversionOf
  refine iteInduction (motive := Agrees) (by rintro rfl; rfl) fun notPercent => ?_
  refine iteInduction (motive := Agrees) (by rintro (rfl | rfl) <;> rfl) fun notSigned => ?_
  iterate 9 refine iteInduction (motive := Agrees) (by rintro rfl; rfl) fun _ => ?_
  have integers : octets "diuxXo" = [0x64, 0x69, 0x75, 0x78, 0x58, 0x6f] := by decide
  have floats : octets "fe" = [0x66, 0x65] := by decide
  have others : octets "c" = [0x63] ∧ octets "s" = [0x73] ∧ octets "p" = [0x70] := by decide
  simp_all [Agrees, letterDemand?, Conversion.demand?]

theorem demandOf_complete (d : Directive) (conversion : Conversion) (rest : List Piece) :
    demandOf (d.complete conversion :: rest) =
      match conversion.demand? d.length with
      | some own => d.stars ++ (own ++ demandOf rest)
      | none => d.stars :=
  rfl

theorem integerKind_eq_long {length : Length} : integerKind length = .long ↔ length = .long := by
  cases length <;> decide

theorem demandOf_lengthDone (d : Directive) (bytes : Bytes) :
    demandOf (scanFrom (.lengthDone d) bytes) =
      d.stars ++ wholeDemand (conversionDemand (integerKind d.length) bytes) := by
  cases bytes with
  | nil => exact (List.append_nil _).symm
  | cons b rest =>
      have read : demandOf (d.complete (conversionOf b) :: pieces rest) =
          d.stars ++ wholeDemand (match letterDemand? (integerKind d.length) b with
            | some own => (own, some rest)
            | none => ([], none)) := by
        rw [demandOf_complete, demand?_conversionOf]
        cases letterDemand? (integerKind d.length) b with
        | some own => rfl
        | none => exact (List.append_nil _).symm
      change demandOf ((onConversion d b).1 ++ scanFrom (onConversion d b).2 rest) = _
      rw [onConversion, conversionDemand]
      by_cases waits : b = 0x69 ∧ d.length = .long
      · rw [if_pos waits]
        by_cases marked : rest.head? = some valueMark
        · rw [if_pos ⟨waits.1, integerKind_eq_long.mpr waits.2, marked⟩]
          obtain ⟨behind, rfl⟩ := List.head?_eq_some_iff.mp marked
          rfl
        · rw [if_neg fun all => marked all.2.2, ← read, waits.1]
          exact congrArg demandOf (scanFrom_longInteger d marked)
      · rw [if_neg waits, if_neg fun all => waits ⟨all.1, integerKind_eq_long.mp all.2.1⟩, ← read]
        rfl

/-- A modifier that may be repeated makes no difference to what is demanded, and neither does its
repetition. -/
theorem demandOf_repeatable {stage : Stage} {c : UInt8} {d repeated : Directive}
    (ends : stage.finish = [d.complete .missing])
    (again : step stage c = ([], .lengthDone repeated))
    (other : ∀ b ≠ c, step stage b = onConversion d b) (stars : repeated.stars = d.stars)
    (kind : integerKind repeated.length = integerKind d.length) (bytes : Bytes) :
    demandOf (scanFrom stage bytes) =
      d.stars ++ wholeDemand (conversionDemand (integerKind d.length) (skipOne c bytes)) := by
  cases bytes with
  | nil =>
      rw [scanFrom, ends]
      exact demandOf_lengthDone d []
  | cons b rest =>
      change demandOf ((step stage b).1 ++ scanFrom (step stage b).2 rest) = _
      rw [skipOne]
      split
      next repeats =>
        rw [repeats, again, ← stars, ← kind]
        exact demandOf_lengthDone repeated rest
      next different =>
        rw [other b different]
        exact demandOf_lengthDone d (b :: rest)

theorem demandOf_short {d : Directive} (short : d.length = .short) (bytes : Bytes) :
    demandOf (scanFrom (.short d) bytes) =
      d.stars ++ wholeDemand (conversionDemand .int (skipOne 0x68 bytes)) := by
  have int : integerKind d.length = .int := by rw [short]; rfl
  have again : step (.short d) 0x68 = ([], .lengthDone { d with length := .char }) := rfl
  have other : ∀ b ≠ 0x68, step (.short d) b = onConversion d b :=
    fun _ different => if_neg different
  rw [← int]
  exact demandOf_repeatable rfl again other rfl int.symm bytes

theorem demandOf_long {d : Directive} (long : d.length = .long) (bytes : Bytes) :
    demandOf (scanFrom (.long d) bytes) =
      d.stars ++ wholeDemand (conversionDemand .long (skipOne 0x6c bytes)) := by
  have again : step (.long d) 0x6c = ([], .lengthDone d) := rfl
  have other : ∀ b ≠ 0x6c, step (.long d) b = onConversion d b :=
    fun _ different => if_neg different
  rw [← integerKind_eq_long.mpr long]
  exact demandOf_repeatable rfl again other rfl rfl bytes

def lengthDemand (bytes : Bytes) : List ReadKind :=
  wholeDemand (conversionDemand (modifierDemand bytes).1 (modifierDemand bytes).2)

theorem demandOf_precisionDone {d : Directive} (int : d.length = .int) (bytes : Bytes) :
    demandOf (scanFrom (.precisionDone d) bytes) = d.stars ++ lengthDemand bytes := by
  have done := demandOf_lengthDone d bytes
  rw [int] at done
  cases bytes with
  | nil => exact done
  | cons b rest =>
      change demandOf ((onLength d b).1 ++ scanFrom (onLength d b).2 rest) = _
      rw [lengthDemand, modifierDemand, onLength]
      by_cases h : b = 0x68
      · rw [if_pos h, if_pos h]
        exact demandOf_short rfl rest
      rw [if_neg h, if_neg h]
      by_cases l : b = 0x6c
      · rw [if_pos l, if_pos l]
        exact demandOf_long rfl rest
      rw [if_neg l, if_neg l]
      by_cases wide : b = 0x7a ∨ b = 0x6a ∨ b = 0x74
      · rw [if_pos wide, if_pos wide]
        exact demandOf_lengthDone { d with length := .long } rest
      rw [if_neg wide, if_neg wide]
      exact done

theorem demandOf_precision {d : Directive} (int : d.length = .int) (bytes : Bytes) :
    demandOf (scanFrom (.precision d) bytes) =
      d.stars ++ lengthDemand (bytes.dropWhile isDigit) := by
  induction bytes generalizing d with
  | nil => exact demandOf_precisionDone int []
  | cons b rest ih =>
      change demandOf ((onPrecisionDigit d b).1 ++ scanFrom (onPrecisionDigit d b).2 rest) = _
      rw [onPrecisionDigit, List.dropWhile_cons]
      split
      · refine (@ih { d with precision := d.precision.map (·.appendDigit b) } int).trans ?_
        cases precision : d.precision <;> simp [Directive.stars, precision]
      · exact demandOf_precisionDone int (b :: rest)

theorem Directive.stars_of_unstarred {d : Directive} (unstarred : d.precision ≠ some .star) :
    d.stars = d.width.demand := by
  have nothing : (d.precision.map Amount.demand).getD [] = [] := by
    cases precision : d.precision with
    | none => rfl
    | some amount =>
        cases amount with
        | given n => rfl
        | star => exact absurd precision unstarred
  rw [stars, nothing, List.append_nil]

theorem demandOf_point {d : Directive} (int : d.length = .int) {n : Nat}
    (given : d.precision = some (.given n)) (bytes : Bytes) :
    demandOf (scanFrom (.point d) bytes) =
      d.width.demand ++ ((figureDemand bytes).1 ++ lengthDemand (figureDemand bytes).2) := by
  have stars := @Directive.stars_of_unstarred d (by rw [given]; exact nofun)
  cases bytes with
  | nil =>
      rw [← stars]
      exact demandOf_precisionDone int []
  | cons b rest =>
      rw [figureDemand]
      split
      next star =>
        subst star
        rw [← List.append_assoc]
        exact @demandOf_precisionDone { d with precision := some .star } int rest
      next other =>
        rw [← stars]
        refine Eq.trans ?_ (demandOf_precision int (b :: rest))
        simp only [scanFrom, step, if_neg other]

def precisionAndOn (bytes : Bytes) : List ReadKind :=
  (precisionDemand bytes).1 ++ lengthDemand (precisionDemand bytes).2

theorem demandOf_widthDone {d : Directive} (int : d.length = .int) (none : d.precision = none)
    (bytes : Bytes) :
    demandOf (scanFrom (.widthDone d) bytes) = d.width.demand ++ precisionAndOn bytes := by
  have stars := @Directive.stars_of_unstarred d (by rw [none]; exact nofun)
  cases bytes with
  | nil =>
      rw [← stars]
      exact demandOf_precisionDone int []
  | cons b rest =>
      rw [precisionAndOn, precisionDemand]
      split
      next point =>
        subst point
        exact @demandOf_point { d with precision := some (.given 0) } int _ rfl rest
      next other =>
        rw [← stars]
        refine Eq.trans ?_ (demandOf_precisionDone int (b :: rest))
        simp only [scanFrom, step, onPrecision, if_neg other]

theorem demandOf_width {d : Directive} (int : d.length = .int) (none : d.precision = none)
    (bytes : Bytes) :
    demandOf (scanFrom (.width d) bytes) =
      d.width.demand ++ precisionAndOn (bytes.dropWhile isDigit) := by
  induction bytes generalizing d with
  | nil => exact demandOf_widthDone int none []
  | cons b rest ih =>
      change demandOf ((onWidth d b).1 ++ scanFrom (onWidth d b).2 rest) = _
      rw [onWidth, List.dropWhile_cons]
      split
      · refine (@ih { d with width := d.width.appendDigit b } int none).trans ?_
        rw [Amount.demand_appendDigit]
      · exact demandOf_widthDone int none (b :: rest)

theorem isSome_flagOf? (flags : Flags) (b : UInt8) : (flagOf? flags b).isSome = isFlag b := by
  let Agrees (found : Option Flags) : Prop := found.isSome = isFlag b
  unfold flagOf?
  iterate 5 refine iteInduction (motive := Agrees) (by rintro rfl; rfl) fun _ => ?_
  have all : octets "-+ 0#" = [0x2d, 0x2b, 0x20, 0x30, 0x23] := by decide
  simp_all [Agrees, isFlag]

def widthAndOn (bytes : Bytes) : List ReadKind :=
  (figureDemand bytes).1 ++ precisionAndOn (figureDemand bytes).2

theorem demandOf_flags {d : Directive} (int : d.length = .int) (none : d.precision = none)
    (given : d.width.demand = []) (bytes : Bytes) :
    demandOf (scanFrom (.flags d) bytes) = widthAndOn (bytes.dropWhile isFlag) := by
  induction bytes generalizing d with
  | nil =>
      have done := demandOf_widthDone int none []
      rwa [given] at done
  | cons b rest ih =>
      change demandOf ((onFlag d b).1 ++ scanFrom (onFlag d b).2 rest) = _
      rw [onFlag, List.dropWhile_cons, ← isSome_flagOf? d.flags b]
      cases flagOf? d.flags b with
      | some flags => exact @ih { d with flags } int none given
      | none =>
          rw [widthAndOn, Option.isSome_none, if_neg Bool.false_ne_true, figureDemand]
          by_cases star : b = 0x2a
          · rw [if_pos star, if_pos star]
            exact @demandOf_widthDone { d with width := .star } int none rest
          · rw [if_neg star, if_neg star]
            have digits := demandOf_width int none (b :: rest)
            rw [given] at digits
            exact digits

theorem wholeDemand_directiveDemand (bytes : Bytes) :
    wholeDemand (directiveDemand bytes) = widthAndOn (bytes.dropWhile isFlag) := by
  unfold widthAndOn precisionAndOn lengthDemand directiveDemand wholeDemand
  dsimp only
  split <;> simp only [List.append_assoc]

theorem demandOf_pieces_directive (bytes : Bytes) :
    demandOf (pieces (0x25 :: bytes)) = wholeDemand (directiveDemand bytes) :=
  (demandOf_flags rfl rfl rfl bytes).trans (wholeDemand_directiveDemand bytes).symm

theorem demandOf_pieces (format : Bytes) : demandOf (pieces format) = demanded format := by
  induction format using demanded.induct with
  | case1 =>
      rw [demanded]
      rfl
  | case2 rest behind follows ih =>
      rw [demandOf_pieces_directive, wholeDemand, demanded, if_pos rfl]
      simp only [follows, ih]
      split
      next _ same =>
        cases follows.symm.trans same
        rfl
      next ends => cases follows.symm.trans ends
  | case3 rest ends =>
      rw [demandOf_pieces_directive, wholeDemand, demanded, if_pos rfl]
      simp only [ends]
      split
      next follows => cases ends.symm.trans follows
      next => rfl
  | case4 b rest literal ih =>
      rw [demanded, if_neg literal, ← ih]
      change demandOf ((onText b).1 ++ scanFrom (onText b).2 rest) = _
      rw [onText, if_neg literal]
      rfl

end NativeGate.Format
