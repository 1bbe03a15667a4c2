import NativeGate.Proofs.Format.Composition
import NativeGate.Proofs.Format.Fields
import NativeGate.Proofs.Format.Spelled

namespace NativeGate

open Numeral Proc Trailing

variable {β : Type}

namespace Format

theorem runOn_convert_integer (layout : Layout) (conversion : IntegerConversion) (n : Int64)
    {cursor : Cursor} {rest : List Argument} (next : cursor.rest = .integer n :: rest)
    (engine : Engine β) :
    (convert layout conversion.conversion).runOn (cursor, engine) =
      (.ok (layout.integerText conversion n),
        cursor.past [integerKind layout.length] rest, engine) := by
  have fits : (Argument.integer n).fits (integerKind layout.length) = true := by
    unfold integerKind
    split <;> rfl
  refine (runOn_convert next layout (.integer conversion) fits engine).trans ?_
  cases conversion <;> rfl

namespace IntegerDirective

section Reading

variable (d : IntegerDirective)

def kinds : List ReadKind :=
  d.width.kinds ++ ((d.precision.map Figure.kinds).getD [] ++ [integerKind d.modifier.length])

theorem layout_spelling : d.spelling.layout = d.layout := by
  rw [Spelling.layout, d.directive_spelling]
  rfl

theorem runOn_renderPiece (n : Int64) {cursor : Cursor} {rest : List Argument}
    (next : cursor.rest = d.arguments n ++ rest) (engine : Engine β) :
    (renderPiece (.directive d.directive)).runOn (cursor, engine) =
      (.ok (d.layout.integerText d.conversion n), cursor.past d.kinds rest, engine) := by
  have split : cursor.rest = d.spelling.figureArguments ++ .integer n :: rest := by
    rw [next, arguments, Spelling.figureArguments]
    simp [spelling]
  rw [← d.directive_spelling, Spelling.runOn_renderPiece d.width_le d.precision_le split engine,
    d.layout_spelling]
  refine (runOn_convert_integer d.layout d.conversion n rfl engine).trans ?_
  rw [Cursor.past_past, Spelling.figureKinds, List.append_assoc]
  rfl

end Reading

/-- An integer is written in the one field that the C standard prescribes for it.  The width, the
precision and the integer are read, the engine is left alone, and the rest of the format string is
written behind the field. -/
theorem integers_as_prescribed (d : IntegerDirective) (n : Int64) :
    let v := d.layout.reduced d.conversion n
    let before := d.layout.before d.conversion v
    ∃ text, d.layout.Prescribes d.conversion v text ∧
      (∀ other, d.layout.Prescribes d.conversion v other → other = text) ∧
      (∃ ds pad,
        text = d.layout.filled before (ds.map (digitOctet d.conversion.letters)) pad ∧
        (∀ digit ∈ ds, digit < d.conversion.base) ∧ value d.conversion.base ds = v.natAbs ∧
        d.layout.precision.getD 1 ≤ ds.length ∧
        text.length = max d.layout.width (before.length + ds.length)) ∧
      ∀ {β : Type} (engine : Engine β) (cursor : Cursor) (rest : List Argument) (more : Bytes),
        cursor.rest = d.arguments n ++ rest →
        (d.MayBeMarked → more.head? ≠ some valueMark) →
        (render (d.spelled ++ more)).runOn (cursor, engine) =
          (render more >>= fun behind => pure (text ++ behind)).runOn
            (cursor.past d.kinds rest, engine) := by
  intro v before
  have prescribes := d.layout.prescribes_integerText d.conversion n
  refine ⟨_, prescribes, fun other others => others.unique prescribes,
    prescribes.exists_digits, ?_⟩
  intro β engine cursor rest more next unmarked
  rw [render, d.pieces_spelled_append unmarked, renderPieces_cons,
    runOn_bind_of_ok (d.runOn_renderPiece n next engine)]
  rfl

theorem integers_as_prescribed_narrow :
    let d : IntegerDirective :=
      { flags := [.zero, .plus]
        width := .digits [7]
        precision := none
        modifier := .hh
        conversion := .d
        width_head := by rintro ds ⟨⟩; decide
        width_le := by decide
        precision_le := by rintro figure ⟨⟩ }
    d.spelled = octets "%0+7hhd" ∧
      ((render (octets "%0+7hhd|")).runOn (.start [.integer 300], ({} : Engine Unit))).1 =
        .ok (octets "+000044|") := by
  intro d
  have spelled : d.spelled = octets "%0+7hhd" := by decide
  obtain ⟨text, -, only, -, renders⟩ := d.integers_as_prescribed 300
  have asks : d.layout.Asks .d (Int.natAbs 44) 1 := by
    rw [Layout.Asks, if_neg (by decide)]
    rfl
  have writes : Writes (IntegerConversion.base .d) 1 (Int.natAbs 44) [4, 4] :=
    ⟨by decide, by decide, by decide, by decide⟩
  have wide : (d.layout.before .d 44).length + [4, 4].length + 4 = 7 := by decide
  have prescribed : d.layout.Prescribes .d 44 (octets "+000044") := .mk asks writes wide
  have reduced : d.layout.reduced .d 300 = 44 := by decide
  have same : octets "+000044" = text := only _ (reduced ▸ prescribed)
  have unmarked : ¬ d.MayBeMarked := fun may => absurd may.1 (by decide)
  have run := renders ({} : Engine Unit) (.start [.integer 300]) [] (octets "|") rfl
    fun may => absurd may unmarked
  rw [← same, spelled] at run
  refine ⟨spelled, ?_⟩
  exact (congrArg Prod.fst run).trans rfl

end IntegerDirective

end Format

end NativeGate
