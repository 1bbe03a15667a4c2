import NativeGate.Proofs.Format.Rendered

namespace NativeGate.Format

open NativeGate Numeral Proc Trailing

variable {β : Type}

namespace Layout

def justified (layout : Layout) (text : Bytes) : Bytes :=
  if layout.flags.left then text ++ spaces (layout.width - text.length)
  else spaces (layout.width - text.length) ++ text

def shortened (layout : Layout) (text : Bytes) : Bytes :=
  match layout.precision with
  | some most => text.take most
  | none => text

/-- The text that a directive shows of its argument. -/
inductive Shows (layout : Layout) : Letter → Argument → Bytes → Prop
  | integer {conversion : IntegerConversion} {n : Int64} {text : Bytes}
      (prescribes : layout.Prescribes conversion (layout.reduced conversion n) text) :
      Shows layout (.integer conversion) (.integer n) text
  | character (n : Int64) :
      Shows layout .character (.integer n) (layout.justified [n.toUInt64.toUInt8])
  | text (address : UInt64) (content : Bytes) :
      Shows layout .text (.text address content) (layout.justified (layout.shortened content))
  | null : Shows layout .text .null (layout.justified (layout.shortened (octets "(null)")))

variable {layout : Layout}

theorem Shows.unique {letter : Letter} {argument : Argument} {text other : Bytes}
    (shows : layout.Shows letter argument text) (others : layout.Shows letter argument other) :
    other = text := by
  cases shows with
  | integer prescribes =>
      cases others with
      | integer prescribes' => exact prescribes'.unique prescribes
  | character | text | null =>
      cases others
      rfl

theorem write_eq_justified {field : Field} (unfilled : field.zeroFill = false) :
    field.write layout = layout.justified (field.lead ++ field.body) := by
  simp [Field.write, justified, unfilled]

end Layout

inductive Letter.Shown : Letter → Prop
  | integer (conversion : IntegerConversion) : Shown (.integer conversion)
  | character : Shown .character
  | text : Shown .text

theorem exists_integer_of_fits {argument : Argument} {length : Length}
    (fits : argument.fits (integerKind length) = true) : ∃ n, argument = .integer n := by
  cases argument with
  | integer n => exact ⟨n, rfl⟩
  | _ => cases length <;> cases fits

theorem runOn_convert_shown {letter : Letter} (shown : letter.Shown) (layout : Layout)
    {cursor : Cursor} {argument : Argument} {rest : List Argument}
    (next : cursor.rest = argument :: rest)
    (fits : argument.fits (letter.kind layout.length) = true) (engine : Engine β) :
    ∃ text, layout.Shows letter argument text ∧
      (convert layout letter.conversion).runOn (cursor, engine) =
        (.ok text, cursor.past [letter.kind layout.length] rest, engine) := by
  have run := runOn_convert next layout letter fits engine
  have written {field : Field} (unfilled : field.zeroFill = false)
      (made : (layout.field letter argument : Trailing (Engine β) Field) = pure field) :
      (convert layout letter.conversion).runOn (cursor, engine) =
        (.ok (layout.justified (field.lead ++ field.body)),
          cursor.past [letter.kind layout.length] rest, engine) := by
    rw [run, made, pure_bind, runOn_pure, Layout.write_eq_justified unfilled]
  cases shown with
  | integer conversion =>
      obtain ⟨n, rfl⟩ := exists_integer_of_fits fits
      exact ⟨_, .integer (layout.prescribes_integerText conversion n),
        runOn_convert_integer layout conversion n next engine⟩
  | character =>
      obtain ⟨n, rfl⟩ := @exists_integer_of_fits argument .int fits
      exact ⟨_, .character n, @written (layout.character n.toUInt64) rfl rfl⟩
  | text =>
      cases argument with
      | text address content =>
          exact ⟨_, .text address content, @written (layout.text (some content)) rfl rfl⟩
      | null => exact ⟨_, .null, @written (layout.text none) rfl rfl⟩
      | _ => cases fits

namespace Spelling

variable (d : Spelling)

theorem left_layout : d.layout.flags.left = true ↔ .left ∈ d.flags ∨ d.width.number < 0 := by
  have flagged : d.directive.flags.left = true ↔ .left ∈ d.flags := by
    change (d.width.flagged (Flags.among d.flags)).left = true ↔ _
    rw [Figure.left_flagged, Flags.among, decide_eq_true_iff]
  rw [layout]
  dsimp only
  split
  next negative => simp [negative]
  next positive => simp [positive, flagged]

theorem precision_layout (least : Nat) :
    d.layout.precision = some least ↔ ∃ figure ∈ d.precision, figure.number = least := by
  rw [layout]
  dsimp only
  rw [Option.bind_eq_some_iff]
  refine exists_congr fun figure => and_congr_right fun _ => ?_
  split <;> simp <;> omega

/-- A width or a precision in digits counts for exactly the number they denote, or is refused before
the argument is looked at if that is no `int`.  One read from an `int` argument is too large only as
a width without an opposite; a negative width asks for the left edge, and a negative precision is
none. -/
theorem figures_exact_or_refused {more : Bytes}
    (unmarked : d.MayBeMarked → more.head? ≠ some valueMark) (engine : Engine β)
    (cursor : Cursor) (rest : List Argument) :
    let run := (render (d.spelled ++ more)).runOn (cursor, engine)
    let kind := d.letter.kind d.modifier.length
    (cursor.rest = d.width.arguments ++ rest → mostField < d.width.number.natAbs →
      TooBig "width" engine (cursor.past d.width.kinds rest) run) ∧
    (cursor.rest = d.width.arguments ++ rest → d.width.number.natAbs ≤ mostField →
      ∀ figure ∈ d.precision, mostField < figure.number →
        TooBig "precision" engine (cursor.past d.width.kinds rest) run) ∧
    (d.width.number.natAbs ≤ mostField → (∀ figure ∈ d.precision, figure.number ≤ mostField) →
      ∀ argument, d.letter.Shown → argument.fits kind = true →
        cursor.rest = d.figureArguments ++ argument :: rest →
        ∃ text, d.layout.Shows d.letter argument text ∧
          (∀ other, d.layout.Shows d.letter argument other → other = text) ∧
          run = (render more >>= fun behind => pure (text ++ behind)).runOn
            (cursor.past (d.figureKinds ++ [kind]) rest, engine)) ∧
    d.layout.width = d.width.number.natAbs ∧
    (d.layout.flags.left = true ↔ .left ∈ d.flags ∨ d.width.number < 0) ∧
    (∀ least : Nat, d.layout.precision = some least ↔
      ∃ figure ∈ d.precision, figure.number = least) ∧
    ∀ n : Int64,
      (-2147483648 ≤ n.toInt → n.toInt ≤ mostField → (Figure.star n).number = n.toInt) ∧
      (mostField < (Figure.star n).number.natAbs ↔ (Figure.star n).number = -2147483648) ∧
      (Figure.star n).number ≤ mostField := by
  intro run kind
  have ran : run = (renderPiece (.directive d.directive) >>= fun text =>
      render more >>= fun behind => pure (text ++ behind)).runOn (cursor, engine) := by
    change (renderPieces (pieces (d.spelled ++ more))).runOn _ = _
    rw [d.pieces_append unmarked, renderPieces_cons]
    rfl
  clear_value run
  subst ran
  refine ⟨?_, ?_, ?_, rfl, ?_, ?_, ?_⟩
  · intro next large
    exact (tooBig_width large next engine).bind _
  · intro next width figure given large
    exact (tooBig_precision width given large next engine).bind _
  · intro width precision argument shown fits next
    obtain ⟨text, shows, converted⟩ :=
      @runOn_convert_shown β _ shown d.layout (cursor.past d.figureKinds (argument :: rest))
        argument rest rfl fits engine
    refine ⟨text, shows, fun other others => shows.unique others, ?_⟩
    rw [runOn_bind_of_ok ((runOn_renderPiece width precision next engine).trans converted),
      Cursor.past_past]
    rfl
  · exact d.left_layout
  · exact d.precision_layout
  · intro n
    obtain ⟨least, most⟩ := Figure.number_star_bounds n
    have limit : mostField = 2147483647 := rfl
    exact ⟨Figure.number_star, by omega, most⟩

theorem figures_exact_or_refused_too_big_and_negative :
    TooBig "width" ({} : Engine Unit) (.start [.integer 1])
      ((render (octets "%2147483648d")).runOn (.start [.integer 1], {})) ∧
    TooBig "precision" ({} : Engine Unit) (.start [.null])
      ((render (octets "%.18446744073709551621s")).runOn (.start [.null], {})) ∧
    ((render (octets "%*.*s|")).runOn
      (.start [.integer (-6), .integer 2, .text 4096 (octets "abc")], ({} : Engine Unit))).1 =
        .ok (octets "ab    |") := by
  refine ⟨?_, ?_, ?_⟩
  · let d : Spelling :=
      { flags := []
        width := .digits [2, 1, 4, 7, 4, 8, 3, 6, 4, 8]
        precision := none
        modifier := .none
        letter := .integer .d
        marked := nofun }
    have spelled : octets "%2147483648d" = d.spelled ++ [] := by decide
    have large : mostField < d.width.number.natAbs := by decide
    rw [spelled]
    exact (d.figures_exact_or_refused (fun _ => by decide) {} (.start [.integer 1]) _).1 rfl large
  · let d : Spelling :=
      { flags := []
        width := .digits []
        precision := some (.digits [1, 8, 4, 4, 6, 7, 4, 4, 0, 7, 3, 7, 0, 9, 5, 5, 1, 6, 2, 1])
        modifier := .none
        letter := .text
        marked := nofun }
    have spelled : octets "%.18446744073709551621s" = d.spelled ++ [] := by decide
    have width : d.width.number.natAbs ≤ mostField := by decide
    rw [spelled]
    have each := @figures_exact_or_refused Unit d [] (fun _ => by decide) {} (.start [.null])
      [.null]
    exact each.2.1 rfl width _ rfl (by decide)
  · let d : Spelling :=
      { flags := []
        width := .star (-6)
        precision := some (.star 2)
        modifier := .none
        letter := .text
        marked := nofun }
    have spelled : octets "%*.*s|" = d.spelled ++ octets "|" := by decide
    have width : d.width.number.natAbs ≤ mostField := by decide
    have precision : ∀ figure ∈ d.precision, figure.number ≤ mostField := by
      rintro figure ⟨⟩
      decide
    have shown : d.layout.Shows .text (.text 4096 (octets "abc")) (octets "ab    ") :=
      .text 4096 (octets "abc")
    have each := @figures_exact_or_refused Unit d (octets "|") (fun _ => by decide) {}
      (.start [.integer (-6), .integer 2, .text 4096 (octets "abc")]) []
    obtain ⟨text, -, only, run⟩ := each.2.2.1 width precision _ .text rfl rfl
    rw [spelled, run, ← only _ shown]
    rfl

end Spelling

end NativeGate.Format
