import NativeGate.AbiVersion
import NativeGate.Proofs.Text.Numeral

namespace NativeGate.AbiVersion

open NativeGate

variable {text before after part ds : List Char} {front : List (List Char)} {n : Nat}
  {version other : AbiVersion}

theorem splitLastDot?_of_not_mem (undotted : '.' ∉ text) : splitLastDot? text = none := by
  induction text with
  | nil => rfl
  | cons c rest ih =>
      obtain ⟨other, undotted⟩ := not_or.mp (mt List.mem_cons.mpr undotted)
      rw [splitLastDot?, ih undotted]
      exact if_neg (Ne.symm other)

theorem splitLastDot?_append (before : List Char) (undotted : '.' ∉ after) :
    splitLastDot? (before ++ '.' :: after) = some (before, after) := by
  induction before with
  | nil =>
      rw [List.nil_append, splitLastDot?, splitLastDot?_of_not_mem undotted]
      rfl
  | cons c before ih => rw [List.cons_append, splitLastDot?, ih]

theorem exists_lastDot (dotted : '.' ∈ text) :
    ∃ before after, text = before ++ '.' :: after ∧ '.' ∉ after := by
  obtain ⟨after, before, split, undotted⟩ :=
    List.eq_append_cons_of_mem (List.mem_reverse.mpr dotted)
  refine ⟨before.reverse, after.reverse, ?_, by simpa using undotted⟩
  rw [← List.reverse_reverse text, split]
  simp

theorem splitLastDot?_eq_some_iff :
    splitLastDot? text = some (before, after) ↔ text = before ++ '.' :: after ∧ '.' ∉ after := by
  constructor
  · intro split
    by_cases dotted : '.' ∈ text
    · obtain ⟨front, back, rfl, undotted⟩ := exists_lastDot dotted
      rw [splitLastDot?_append front undotted] at split
      cases split
      exact ⟨rfl, undotted⟩
    · rw [splitLastDot?_of_not_mem dotted] at split
      cases split
  · rintro ⟨rfl, undotted⟩
    exact splitLastDot?_append before undotted

theorem components_eq_splitOn (text : List Char) : components text = text.splitOn '.' := by
  induction text with
  | nil => rw [components, List.splitOn_nil]
  | cons c rest ih =>
      rw [components, ih, List.splitOn_cons_eq_if_modifyHead]
      by_cases dot : c = '.'
      · simp [dot]
      · cases split : rest.splitOn '.' with
        | nil => exact absurd split (List.splitOn_ne_nil '.' rest)
        | cons first others => simp [dot]

def IsComponent (part : List Char) : Prop :=
  part ≠ [] ∧ ∀ c ∈ part, c.isDigit = true

theorem isDigits_iff : isDigits part = true ↔ IsComponent part := by
  simp [isDigits, IsComponent]

theorem IsComponent.not_mem (component : IsComponent part) {c : Char}
    (other : c.isDigit = false) : c ∉ part := by
  intro member
  rw [component.2 c member] at other
  cases other

def denoted (ds : List Char) : Nat :=
  Numeral.value 10 (ds.map digitOf)

theorem all_isDigits_components_iff :
    (components text).all isDigits = true ↔
      ∃ front, front ≠ [] ∧ (∀ part ∈ front, IsComponent part) ∧
        ['.'].intercalate front = text := by
  rw [components_eq_splitOn, List.all_eq_true]
  constructor
  · intro digits
    exact ⟨text.splitOn '.', List.splitOn_ne_nil '.' text,
      fun part member => isDigits_iff.mp (digits part member), List.intercalate_splitOn '.'⟩
  · rintro ⟨front, some_front, digits, rfl⟩
    rw [List.splitOn_intercalate '.' (fun part member => (digits part member).not_mem rfl)
      some_front]
    exact fun part member => isDigits_iff.mpr (digits part member)

theorem intercalate_concat (some_front : front ≠ []) (last : List Char) :
    ['.'].intercalate (front ++ [last]) = ['.'].intercalate front ++ '.' :: last := by
  induction front with
  | nil => exact absurd rfl some_front
  | cons first rest ih =>
      cases rest with
      | nil => simp
      | cons second rest =>
          rw [List.cons_append, List.cons_append, List.intercalate_cons_cons, ← List.cons_append,
            ih (List.cons_ne_nil second rest), List.intercalate_cons_cons]
          simp

theorem readDigits_eq_some_iff :
    (let number := Numeral.valueUpTo (maxNumber + 1) 10 (ds.map digitOf)
      if isDigits ds ∧ number ≤ maxNumber then some number else none) = some n ↔
      IsComponent ds ∧ denoted ds ≤ maxNumber ∧ denoted ds = n := by
  have capped :
      Numeral.valueUpTo (maxNumber + 1) 10 (ds.map digitOf) = min (denoted ds) (maxNumber + 1) :=
    Numeral.valueUpTo_eq (by decide) _
  simp only [capped, isDigits_iff, Option.ite_none_right_eq_some, Option.some.injEq, and_assoc]
  constructor
  · rintro ⟨component, small, rfl⟩
    have exact : min (denoted ds) (maxNumber + 1) = denoted ds := by omega
    exact ⟨component, by omega, exact.symm⟩
  · rintro ⟨component, small, rfl⟩
    have exact : min (denoted ds) (maxNumber + 1) = denoted ds := by omega
    exact ⟨component, by omega, exact⟩

theorem parseNumber?_eq_some_iff :
    parseNumber? text = some n ↔
      ∃ ds, (text = ds ∨ text = '+' :: ds) ∧ IsComponent ds ∧ denoted ds ≤ maxNumber ∧
        denoted ds = n := by
  unfold parseNumber?
  split
  next rest =>
    rw [readDigits_eq_some_iff]
    constructor
    · exact fun read => ⟨rest, .inr rfl, read⟩
    · rintro ⟨ds, rfl | same, component, read⟩
      · exact absurd (List.mem_cons_self ..) (component.not_mem (c := '+') rfl)
      · cases same
        exact ⟨component, read⟩
  next unmarked =>
    rw [readDigits_eq_some_iff]
    constructor
    · exact fun read => ⟨text, .inl rfl, read⟩
    · rintro ⟨ds, rfl | same, read⟩
      · exact read
      · exact absurd same (unmarked ds)

/-- Two components or more, joined by dots; the last is the number, with `mark` in front of it. -/
inductive Written (mark : List Char) : List Char → AbiVersion → Prop
  | dotted {front : List (List Char)} {last : List Char} (some_front : front ≠ [])
      (components : ∀ part ∈ front ++ [last], IsComponent part)
      (small : denoted last ≤ maxNumber) :
      Written mark (['.'].intercalate (front ++ [mark ++ last]))
        { engine := ['.'].intercalate front, number := denoted last }

theorem written_iff {mark : List Char} (undotted : '.' ∉ mark) :
    Written mark text version ↔
      (components version.engine).all isDigits = true ∧
      ∃ last, splitLastDot? text = some (version.engine, mark ++ last) ∧ IsComponent last ∧
        denoted last ≤ maxNumber ∧ denoted last = version.number := by
  constructor
  · intro written
    cases written with
    | @dotted front last some_front components small =>
        have component : IsComponent last := components last (by simp)
        have undotted_last : '.' ∉ mark ++ last := by
          simpa [undotted] using component.not_mem rfl
        refine ⟨all_isDigits_components_iff.mpr ⟨front, some_front, ?_, rfl⟩, last, ?_, component,
          small, rfl⟩
        · exact fun part member => components part (List.mem_append_left _ member)
        · rw [intercalate_concat some_front]
          exact splitLastDot?_append _ undotted_last
  · rintro ⟨digits, last, split, component, small, denotes⟩
    obtain ⟨front, some_front, components, joined⟩ := all_isDigits_components_iff.mp digits
    obtain ⟨rfl, -⟩ := splitLastDot?_eq_some_iff.mp split
    obtain ⟨engine, number⟩ := version
    subst joined denotes
    rw [← intercalate_concat some_front]
    refine .dotted some_front ?_ small
    intro part member
    obtain member | same := List.mem_append.mp member
    · exact components part member
    · rw [List.mem_singleton.mp same]
      exact component

theorem parse?_eq_some_iff :
    parse? text = some version ↔ Written [] text version ∨ Written ['+'] text version := by
  have stages : parse? text = some version ↔
      (components version.engine).all isDigits = true ∧
      ∃ last, splitLastDot? text = some (version.engine, last) ∧
        parseNumber? last = some version.number := by
    constructor
    · intro parsed
      unfold parse? at parsed
      split at parsed
      next => cases parsed
      next engine last split =>
        split at parsed
        next => cases parsed
        next number read =>
          obtain ⟨digits, same⟩ := Option.ite_none_right_eq_some.mp parsed
          cases same
          exact ⟨digits, last, split, read⟩
    · rintro ⟨digits, last, split, read⟩
      simp only [parse?, split, read]
      exact if_pos digits
  rw [stages, written_iff (by decide), written_iff (by decide), ← and_or_left]
  refine and_congr_right fun _ => ?_
  simp only [parseNumber?_eq_some_iff]
  constructor
  · rintro ⟨_, split, ds, rfl | rfl, number⟩
    · exact .inl ⟨_, split, number⟩
    · exact .inr ⟨ds, split, number⟩
  · rintro (⟨ds, split, number⟩ | ⟨ds, split, number⟩)
    · exact ⟨ds, split, ds, .inl rfl, number⟩
    · exact ⟨'+' :: ds, split, ds, .inr rfl, number⟩

/-- `parse?` reads components of digits joined by dots: the last is the number, and what stands
before the last dot is the engine's version.  A `+` may stand in front of the number, and nothing
else is read. -/
theorem parse_reads_dotted_digits (text : List Char) (version : AbiVersion) :
    (parse? text = some version ↔ Written [] text version ∨ Written ['+'] text version) ∧
    ('+' ∉ text → (parse? text = some version ↔ Written [] text version)) ∧
    (parse? text = some version →
      ∃ last, text = version.engine ++ '.' :: last ∧ '.' ∉ last) := by
  refine ⟨parse?_eq_some_iff, fun unmarked => ?_, fun parsed => ?_⟩
  · rw [parse?_eq_some_iff, or_iff_left]
    intro marked
    obtain ⟨-, last, split, -⟩ := (written_iff (by decide)).mp marked
    obtain ⟨rfl, -⟩ := splitLastDot?_eq_some_iff.mp split
    simp at unmarked
  · obtain written | written := parse?_eq_some_iff.mp parsed
    all_goals
      obtain ⟨-, last, split, -⟩ := (written_iff (by decide)).mp written
      exact ⟨_, splitLastDot?_eq_some_iff.mp split⟩

theorem parse_reads_dotted_digits_largest :
    ∃ version, parse? "03.3.0004294967295".toList = some version ∧
      Written [] "03.3.0004294967295".toList version ∧ version.number = 4294967295 := by
  let version : AbiVersion := { engine := "03.3".toList, number := 4294967295 }
  have parsed : parse? "03.3.0004294967295".toList = some version := by decide
  obtain ⟨-, unmarked, -⟩ := parse_reads_dotted_digits "03.3.0004294967295".toList version
  exact ⟨version, parsed, (unmarked (by decide)).mp parsed, rfl⟩

/-- The engine's components are read digit by digit and the number is not: `+` gets through. -/
theorem parse_lets_plus_through :
    parse? "3.3.7.+11".toList = some current ∧
      ¬ ∃ version, Written [] "3.3.7.+11".toList version := by
  refine ⟨by decide, ?_⟩
  rintro ⟨version, written⟩
  obtain ⟨-, last, split, component, -⟩ := (written_iff (by decide)).mp written
  have last_dot : splitLastDot? "3.3.7.+11".toList = some ("3.3.7".toList, "+11".toList) := by
    decide
  have marked : "+11".toList = last :=
    (Prod.mk.inj (Option.some.inj (last_dot.symm.trans split))).2
  exact component.not_mem (c := '+') rfl (marked ▸ List.mem_cons_self ..)

def numeral (n : Nat) : List Char :=
  (Numeral.digits 10 n).map fun d => Char.ofNat (48 + d)

theorem isComponent_numeral (n : Nat) : IsComponent (numeral n) := by
  have digit : ∀ d < 10, (Char.ofNat (48 + d)).isDigit = true := by decide
  refine ⟨by simpa [numeral] using Numeral.digits_ne_nil (by decide) n, ?_⟩
  intro c member
  obtain ⟨d, among, rfl⟩ := List.mem_map.mp member
  exact digit d (Numeral.lt_base_of_mem_digits (by decide) among)

theorem denoted_numeral (n : Nat) : denoted (numeral n) = n := by
  have digit : ∀ d < 10, digitOf (Char.ofNat (48 + d)) = d := by decide
  have kept : (numeral n).map digitOf = Numeral.digits 10 n := by
    rw [numeral, List.map_map]
    conv_rhs => rw [← List.map_id (Numeral.digits 10 n)]
    exact List.map_congr_left fun d among =>
      digit d (Numeral.lt_base_of_mem_digits (by decide) among)
  rw [denoted, kept, Numeral.value_digits (by decide)]

theorem Written.display {mark : List Char} (undotted : '.' ∉ mark)
    (written : Written mark text version) : Written [] version.display version := by
  obtain ⟨digits, last, -, -, small, denotes⟩ := (written_iff undotted).mp written
  have component := isComponent_numeral version.number
  refine (written_iff (by decide)).mpr ⟨digits, numeral version.number, ?_, component, ?_,
    denoted_numeral version.number⟩
  · exact splitLastDot?_append _ (component.not_mem rfl)
  · rw [denoted_numeral, ← denotes]
    exact small

theorem parse?_display (parsed : parse? text = some version) :
    parse? version.display = some version := by
  refine parse?_eq_some_iff.mpr (.inl ?_)
  obtain written | written := parse?_eq_some_iff.mp parsed
  · exact written.display (by decide)
  · exact written.display (by decide)

/-- A version that was parsed is the same after it is displayed and parsed again, so versions are
compatible exactly if they are displayed alike. -/
theorem display_loses_nothing {otherText : List Char} (parsed : parse? text = some version)
    (otherParsed : parse? otherText = some other) :
    parse? version.display = some version ∧
      (version.isCompatibleWith other = true ↔ version.display = other.display) := by
  have again := parse?_display parsed
  refine ⟨again, ?_⟩
  rw [isCompatibleWith, decide_eq_true_iff]
  constructor
  · rintro rfl
    rfl
  · intro same
    rw [same, parse?_display otherParsed] at again
    exact (Option.some.inj again).symm

theorem display_loses_nothing_spelled :
    ∃ version other, parse? "3.3.7.+011".toList = some version ∧
      parse? "3.3.07.11".toList = some other ∧ version.display = "3.3.7.11".toList ∧
      parse? version.display = some version ∧ version.isCompatibleWith other = false := by
  let other : AbiVersion := { engine := "3.3.07".toList, number := 11 }
  have parsed : parse? "3.3.7.+011".toList = some current := by decide
  have otherParsed : parse? "3.3.07.11".toList = some other := by decide
  have written : current.display = "3.3.7.11".toList := by decide +kernel
  obtain ⟨again, compatible⟩ := display_loses_nothing parsed otherParsed
  refine ⟨current, other, parsed, otherParsed, written, again, ?_⟩
  rw [← Bool.not_eq_true, compatible, written]
  decide +kernel

end NativeGate.AbiVersion
