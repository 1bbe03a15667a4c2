import NativeGate.Proofs.Format.Render
import NativeGate.Proofs.Format.Spelling
import NativeGate.Proofs.Host.Additions

namespace NativeGate

open Numeral Proc Trailing

/-! Widths and precisions are read as they are spelled, or refused. -/

variable {β : Type}

namespace Cursor

def past (cursor : Cursor) (kinds : List ReadKind) (rest : List Argument) : Cursor where
  rest := rest
  index := cursor.index + kinds.length
  position := cursor.position + kinds.length
  attempts := cursor.attempts ++ kinds

theorem past_nil {cursor : Cursor} {rest : List Argument} (next : cursor.rest = rest) :
    cursor.past [] rest = cursor := by
  subst next
  simp [past]

theorem past_past (cursor : Cursor) (kinds more : List ReadKind) (rest rest' : List Argument) :
    (cursor.past kinds rest).past more rest' = cursor.past (kinds ++ more) rest' := by
  simp [past, Nat.add_assoc]

theorem runOn_read {cursor : Cursor} {kind : ReadKind} {argument : Argument}
    {rest : List Argument} (next : cursor.rest = argument :: rest)
    (fits : argument.fits kind = true) :
    (read kind).runOn cursor = (.ok argument, cursor.past [kind] rest) := by
  rw [read_eq_ok]
  simp only [Cursor.next, next, fits, if_true]
  rfl

end Cursor

namespace Format

theorem runOn_checkField {n : Nat} (small : n ≤ mostField) (what : String)
    (s : Cursor × Engine β) : (checkField n what).runOn s = (.ok n, s) := by
  rw [checkField, if_pos small, runOn_pure]

/-- The arguments stay as they are, and an exception that says so is all that is new. -/
def TooBig {α : Type} (what : String) (engine : Engine β) (cursor : Cursor)
    (ended : Except Exit α × Cursor × Engine β) : Prop :=
  ∃ exception after,
    ended = (.error (.failed (.raised exception)), cursor, { engine with host := after }) ∧
      engine.host.Gains
        (.exception ErrorKind.argumentError.value (octets what ++ octets " too big")) []
        exception after

theorem TooBig.bind {α γ : Type} {what : String} {engine : Engine β} {cursor : Cursor}
    {p : Trailing (Engine β) α} {s : Cursor × Engine β}
    (large : TooBig what engine cursor (p.runOn s)) (next : α → Trailing (Engine β) γ) :
    TooBig what engine cursor ((p >>= next).runOn s) := by
  obtain ⟨exception, after, ran, gains⟩ := large
  exact ⟨exception, after, runOn_bind_of_error ran, gains⟩

theorem tooBig_checkField {n : Nat} (large : mostField < n) (what : String) (cursor : Cursor)
    (engine : Engine β) :
    TooBig what engine cursor ((checkField n what).runOn (cursor, engine)) := by
  rw [checkField, if_neg (Nat.not_le.mpr large), malformed, runOn_onState, Engine.runOn_failWith]
  exact ⟨_, _, rfl, engine.host.create_gains _⟩

theorem checkField_valueUpTo {bound : Nat} (above : mostField < bound) (ds : List Nat)
    (what : String) :
    (checkField (valueUpTo bound 10 ds) what : Trailing (Engine β) Nat) =
      checkField (value 10 ds) what := by
  rw [valueUpTo_eq (by decide)]
  by_cases small : value 10 ds ≤ bound
  · rw [Nat.min_eq_left small]
  · have large : ¬ value 10 ds ≤ mostField := by omega
    have stopped : ¬ min (value 10 ds) bound ≤ mostField := by omega
    rw [checkField, checkField, if_neg large, if_neg stopped]

theorem runOn_pure_past {α : Type} (a : α) {cursor : Cursor} {rest : List Argument}
    (next : cursor.rest = rest) (engine : Engine β) :
    (pure a : Trailing (Engine β) α).runOn (cursor, engine) =
      (.ok a, cursor.past [] rest, engine) := by
  rw [runOn_pure, Cursor.past_nil next]

theorem runOn_onCursor_read {cursor : Cursor} {kind : ReadKind} {argument : Argument}
    {rest : List Argument} (next : cursor.rest = argument :: rest)
    (fits : argument.fits kind = true) (engine : Engine β) :
    (onCursor (Cursor.read kind)).runOn (cursor, engine) =
      (.ok argument, cursor.past [kind] rest, engine) := by
  rw [runOn_onCursor, Cursor.runOn_read next fits]

namespace Figure

def kinds : Figure → List ReadKind
  | .digits _ => []
  | .star _ => [.int]

theorem number_digits_not_neg (ds : List (Fin 10)) : ¬ (Figure.digits ds).number < 0 :=
  Int.not_lt.mpr (Int.natCast_nonneg _)

theorem number_star_bounds (n : Int64) :
    -2147483648 ≤ (Figure.star n).number ∧ (Figure.star n).number ≤ mostField :=
  ⟨Int32.le_toInt _, Int.le_of_lt_add_one (Int32.toInt_lt _)⟩

theorem number_star_eq (n : Int64) : (Figure.star n).number = n.toInt.bmod (2 ^ 32) :=
  Argument.toInt_int n

theorem number_star {n : Int64} (least : -2147483648 ≤ n.toInt) (most : n.toInt ≤ mostField) :
    (Figure.star n).number = n.toInt := by
  rw [number_star_eq]
  exact Int.bmod_eq_of_le least (Int.lt_add_one_of_le most)

end Figure

section Reading

variable {d : Directive} {cursor : Cursor} {rest : List Argument}

theorem runOn_readWidth {figure : Figure} (spelled : d.width = figure.read)
    (next : cursor.rest = figure.arguments ++ rest) (engine : Engine β) :
    (readWidth d).runOn (cursor, engine) =
      (checkField figure.number.natAbs "width" >>= fun n =>
        pure (if figure.number < 0 then { d.flags with left := true } else d.flags, n)).runOn
          (cursor.past figure.kinds rest, engine) := by
  unfold readWidth
  rw [spelled]
  cases figure with
  | digits ds =>
      have stays : cursor.past [] rest = cursor := Cursor.past_nil next
      rw [if_neg (Figure.number_digits_not_neg ds), Figure.kinds, stays]
      change (checkField (valueUpTo mostWord 10 _) _ >>= _).runOn _ = _
      rw [checkField_valueUpTo mostField_lt]
      rfl
  | star n =>
      change (onCursor (Cursor.read .int) >>= _).runOn _ = _
      rw [runOn_bind_of_ok (runOn_onCursor_read next rfl engine)]
      rfl

theorem runOn_readPrecision {precision : Option Figure}
    (spelled : d.precision = precision.map Figure.read)
    (small : ∀ figure ∈ precision, figure.number ≤ mostField)
    (next : cursor.rest = (precision.map Figure.arguments).getD [] ++ rest) (engine : Engine β) :
    (readPrecision d).runOn (cursor, engine) =
      (.ok (precision.bind fun figure =>
          if figure.number < 0 then none else some figure.number.toNat),
        cursor.past ((precision.map Figure.kinds).getD []) rest, engine) := by
  unfold readPrecision
  rw [spelled]
  cases precision with
  | none => exact runOn_pure_past none next engine
  | some figure =>
      have least := small figure rfl
      rw [Option.bind_some]
      cases figure with
      | digits ds =>
          have small : value 10 (ds.map (·.val)) ≤ mostField := Int.ofNat_le.mp least
          rw [if_neg (Figure.number_digits_not_neg ds)]
          change (checkField (valueUpTo mostWord 10 _) _ >>= _).runOn _ = _
          rw [checkField_valueUpTo mostField_lt, runOn_bind_of_ok (runOn_checkField small _ _)]
          exact runOn_pure_past _ next engine
      | star n =>
          change (onCursor (Cursor.read .int) >>= _).runOn _ = _
          rw [runOn_bind_of_ok (runOn_onCursor_read next rfl engine)]
          rfl

theorem tooBig_readPrecision {figure : Figure} (spelled : d.precision = some figure.read)
    (large : mostField < figure.number) (cursor : Cursor) (engine : Engine β) :
    TooBig "precision" engine cursor ((readPrecision d).runOn (cursor, engine)) := by
  unfold readPrecision
  rw [spelled]
  cases figure with
  | digits ds =>
      have large : mostField < value 10 (ds.map (·.val)) := Int.ofNat_lt.mp large
      change TooBig _ _ _ ((checkField (valueUpTo mostWord 10 _) _ >>= _).runOn _)
      rw [checkField_valueUpTo mostField_lt]
      exact (tooBig_checkField large _ cursor engine).bind _
  | star n => exact absurd large (Int.not_lt.mpr (Figure.number_star_bounds n).2)

end Reading

namespace Spelling

variable (d : Spelling)

def figureArguments : List Argument :=
  d.width.arguments ++ (d.precision.map Figure.arguments).getD []

def figureKinds : List ReadKind :=
  d.width.kinds ++ (d.precision.map Figure.kinds).getD []

/-- A negative width asks for the left edge, and a negative precision is none. -/
def layout : Layout where
  flags :=
    if d.width.number < 0 then { d.directive.flags with left := true } else d.directive.flags
  width := d.width.number.natAbs
  precision := d.precision.bind fun figure =>
    if figure.number < 0 then none else some figure.number.toNat
  length := d.modifier.length

section Run

variable {d} {cursor : Cursor} {rest : List Argument}

theorem tooBig_width (large : mostField < d.width.number.natAbs)
    (next : cursor.rest = d.width.arguments ++ rest) (engine : Engine β) :
    TooBig "width" engine (cursor.past d.width.kinds rest)
      ((renderPiece (.directive d.directive)).runOn (cursor, engine)) := by
  rw [renderPiece_directive]
  refine TooBig.bind ?_ _
  rw [runOn_readWidth rfl next]
  exact (tooBig_checkField large "width" _ engine).bind _

variable (width : d.width.number.natAbs ≤ mostField)

include width

theorem runOn_width (next : cursor.rest = d.width.arguments ++ rest) (engine : Engine β) :
    (readWidth d.directive).runOn (cursor, engine) =
      (.ok (d.layout.flags, d.layout.width), cursor.past d.width.kinds rest, engine) := by
  rw [runOn_readWidth rfl next, runOn_bind_of_ok (runOn_checkField width _ _)]
  rfl

theorem tooBig_precision {figure : Figure} (given : d.precision = some figure)
    (large : mostField < figure.number) (next : cursor.rest = d.width.arguments ++ rest)
    (engine : Engine β) :
    TooBig "precision" engine (cursor.past d.width.kinds rest)
      ((renderPiece (.directive d.directive)).runOn (cursor, engine)) := by
  have spelled : d.directive.precision = some figure.read := congrArg (Option.map _) given
  rw [renderPiece_directive, runOn_bind_of_ok (runOn_width width next engine)]
  exact (tooBig_readPrecision spelled large _ engine).bind _

theorem runOn_renderPiece (precision : ∀ figure ∈ d.precision, figure.number ≤ mostField)
    (next : cursor.rest = d.figureArguments ++ rest) (engine : Engine β) :
    (renderPiece (.directive d.directive)).runOn (cursor, engine) =
      (convert d.layout d.letter.conversion).runOn (cursor.past d.figureKinds rest, engine) := by
  rw [figureArguments, List.append_assoc] at next
  rw [renderPiece_directive, runOn_bind_of_ok (runOn_width width next engine),
    runOn_bind_of_ok (runOn_readPrecision rfl precision rfl engine), Cursor.past_past]
  rfl

end Run

end Spelling

end Format

end NativeGate
