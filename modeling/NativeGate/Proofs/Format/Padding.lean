import NativeGate.Proofs.Format.Widths

namespace NativeGate.Format

open NativeGate Numeral Proc Trailing

variable {β : Type}

def signs : Bytes :=
  [0x2d, 0x2b, 0x20]

def markLetters : Bytes :=
  [0x78, 0x58]

def signOf : Bytes → Bytes
  | b :: _ => if b ∈ signs then [b] else []
  | [] => []

def markOf : Bytes → Bytes
  | a :: b :: _ => if a = 0x30 ∧ b ∈ markLetters then [a, b] else []
  | _ => []

/-- The sign that a text begins with, and the mark of a radix behind it. -/
def preamble (text : Bytes) : Bytes :=
  signOf text ++ markOf (text.drop (signOf text).length)

def zeroFilled (count : Nat) (text : Bytes) : Bytes :=
  preamble text ++ List.replicate count 0x30 ++ text.drop (preamble text).length

theorem signOf_starts (text : Bytes) : signOf text <+: text := by
  cases text with
  | nil => exact List.prefix_rfl
  | cons b rest =>
      rw [signOf]
      split
      · exact ⟨rest, rfl⟩
      · exact List.nil_prefix

theorem markOf_starts (text : Bytes) : markOf text <+: text := by
  unfold markOf
  split
  next a b rest =>
    split
    · exact ⟨rest, rfl⟩
    · exact List.nil_prefix
  next => exact List.nil_prefix

theorem preamble_append_drop (text : Bytes) :
    preamble text ++ text.drop (preamble text).length = text := by
  have sign := List.prefix_iff_eq_append.mp (signOf_starts text)
  have mark := List.prefix_iff_eq_append.mp (markOf_starts (text.drop (signOf text).length))
  rw [preamble, List.length_append, ← List.drop_drop, List.append_assoc, mark, sign]

theorem length_zeroFilled (count : Nat) (text : Bytes) :
    (zeroFilled count text).length = count + text.length := by
  have whole := congrArg List.length (preamble_append_drop text)
  rw [List.length_append] at whole
  rw [zeroFilled, List.length_append, List.length_append, List.length_replicate]
  omega

structure Bare (body : Bytes) : Prop where
  head : ∀ b ∈ body.head?, b ∉ signs
  inner : ∀ b ∈ body, b ∉ markLetters

inductive Leads : Bytes → Prop
  | nothing : Leads []
  | sign {b : UInt8} (sign : b ∈ signs) : Leads [b]
  | octal : Leads [0x30]
  | hexadecimal {b : UInt8} (letter : b ∈ markLetters) : Leads [0x30, b]

theorem Bare.signOf_eq {body : Bytes} (bare : Bare body) : signOf body = [] := by
  cases body with
  | nil => rfl
  | cons b rest => exact if_neg (bare.head b rfl)

theorem Bare.markOf_eq {body : Bytes} (bare : Bare body) : markOf body = [] := by
  cases body with
  | nil => rfl
  | cons a rest =>
      cases rest with
      | nil => rfl
      | cons b rest => exact if_neg fun mark => bare.inner b (by simp) mark.2

theorem zeroFilled_of_preamble {lead body : Bytes} (starts : preamble (lead ++ body) = lead)
    (count : Nat) :
    zeroFilled count (lead ++ body) = lead ++ List.replicate count 0x30 ++ body := by
  rw [zeroFilled, starts, List.drop_left]

theorem replicate_append_zero (count : Nat) (body : Bytes) :
    List.replicate count 0x30 ++ 0x30 :: body = 0x30 :: (List.replicate count 0x30 ++ body) := by
  rw [← List.cons_append, ← List.replicate_succ, List.replicate_succ', List.append_assoc]
  rfl

theorem Leads.zeroFilled_append {lead body : Bytes} (leads : Leads lead) (bare : Bare body)
    (count : Nat) :
    zeroFilled count (lead ++ body) = lead ++ List.replicate count 0x30 ++ body := by
  have zeroUnsigned : (0x30 : UInt8) ∉ signs := by decide
  cases leads with
  | nothing =>
      refine zeroFilled_of_preamble ?_ count
      rw [List.nil_append, preamble, bare.signOf_eq]
      exact bare.markOf_eq
  | @sign b sign =>
      refine zeroFilled_of_preamble ?_ count
      have first : signOf (b :: body) = [b] := if_pos sign
      rw [List.singleton_append, preamble, first]
      exact congrArg (List.cons b) bare.markOf_eq
  | @hexadecimal b letter =>
      refine zeroFilled_of_preamble ?_ count
      have first : signOf (0x30 :: b :: body) = [] := by rw [signOf, if_neg zeroUnsigned]
      change preamble (0x30 :: b :: body) = _
      rw [preamble, first]
      exact if_pos ⟨rfl, letter⟩
  | octal =>
      have first : signOf (0x30 :: body) = [] := by rw [signOf, if_neg zeroUnsigned]
      have second : markOf (0x30 :: body) = [] := by
        cases body with
        | nil => rfl
        | cons b rest => exact if_neg fun mark => bare.inner b List.mem_cons_self mark.2
      have none : preamble (0x30 :: body) = [] := by
        rw [preamble, first]
        exact second
      rw [List.singleton_append, zeroFilled, none, List.nil_append, List.length_nil, List.drop_zero,
        replicate_append_zero]
      rfl

/-- Unlike `Bare`, this is kept by appending. -/
def Clean (text : Bytes) : Prop :=
  ∀ b ∈ text, b ∉ signs ∧ b ∉ markLetters

theorem Clean.bare {body : Bytes} (clean : Clean body) : Bare body where
  head b first := (clean b (List.mem_of_mem_head? first)).1
  inner b member := (clean b member).2

theorem Clean.append {front back : Bytes} (clean : Clean front) (others : Clean back) :
    Clean (front ++ back) := by
  intro b member
  exact (List.mem_append.mp member).elim (clean b) (others b)

theorem clean_map_digitOctet (letters : LetterCase) {ds : List Nat} (small : ∀ d ∈ ds, d < 16) :
    Clean (ds.map (digitOctet letters)) := by
  have each : ∀ d < 16, digitOctet letters d ∉ signs ∧ digitOctet letters d ∉ markLetters := by
    cases letters <;> decide
  intro b member
  obtain ⟨d, digit, rfl⟩ := List.mem_map.mp member
  exact each d (small d digit)

theorem clean_inBase {base : Nat} (two : 1 < base) (most : base ≤ 16) (letters : LetterCase)
    (n : Nat) : Clean (inBase base letters n) :=
  clean_map_digitOctet letters fun _ digit => (lt_base_of_mem_digits two digit).trans_le most

theorem clean_zeros (count : Nat) : Clean (List.replicate count 0x30) := by
  intro b member
  rw [List.eq_of_mem_replicate member]
  decide

theorem clean_padded_decimal (least n : Nat) : Clean (padded least (decimal n)) :=
  (clean_zeros _).append (clean_inBase (by decide) (by decide) .lower n)

theorem clean_withPoint {whole fraction : Bytes} (clean : Clean whole) (others : Clean fraction) :
    Clean (Decimal.withPoint whole fraction) := by
  unfold Decimal.withPoint
  split
  · exact clean
  · refine clean.append ?_
    intro b member
    obtain rfl | member := List.mem_cons.mp member
    · decide
    · exact others b member

theorem Clean.take {text : Bytes} (clean : Clean text) (count : Nat) : Clean (text.take count) :=
  fun b member => clean b (List.mem_of_mem_take member)

theorem Clean.drop {text : Bytes} (clean : Clean text) (count : Nat) : Clean (text.drop count) :=
  fun b member => clean b (List.mem_of_mem_drop member)

theorem bare_fixed (x : Binary64) (places : Nat) : Bare (Decimal.fixed x places) :=
  have digits := clean_padded_decimal _ _
  (clean_withPoint (digits.take _) ((digits.drop _).append (clean_zeros _))).bare

theorem bare_append_exponentText {front : Bytes} (clean : Clean front) (e : Int) :
    Bare (front ++ Decimal.exponentText e) := by
  obtain ⟨sign, other, text⟩ : ∃ sign, sign ∉ markLetters ∧
      Decimal.exponentText e = 0x65 :: sign :: padded 2 (decimal e.natAbs) := by
    by_cases negative : e < 0
    · exact ⟨0x2d, by decide, by rw [Decimal.exponentText, if_pos negative]; rfl⟩
    · exact ⟨0x2b, by decide, by rw [Decimal.exponentText, if_neg negative]; rfl⟩
  rw [text]
  constructor
  · intro b first
    cases front with
    | nil =>
        rw [List.nil_append, List.head?_cons, Option.mem_some_iff] at first
        subst first
        decide
    | cons c rest =>
        rw [List.cons_append, List.head?_cons, Option.mem_some_iff] at first
        subst first
        exact (clean c List.mem_cons_self).1
  · simp only [List.mem_append, List.mem_cons]
    rintro b (member | rfl | rfl | member)
    · exact (clean b member).2
    · decide
    · exact other
    · exact (clean_padded_decimal _ _ b member).2

theorem bare_scientific (x : Binary64) (places : Nat) : Bare (Decimal.scientific x places) := by
  have digits := clean_padded_decimal
  exact bare_append_exponentText
    (clean_withPoint ((digits _ _).take _) (((digits _ _).drop _).append (clean_zeros _))) _

structure Field.Numeric (field : Field) : Prop where
  leads : Leads field.lead
  bare : Bare field.body

/-- Zeros may fill the field of an integer without a precision, and of a finite double. -/
def Letter.fills (precision : Option Nat) : Letter → Argument → Bool
  | .integer _, _ => precision.isNone
  | .float _, argument => Binary64.isFinite ⟨argument.word⟩
  | _, _ => false

namespace Layout

variable (layout : Layout)

theorem leads_sign (negative : Bool) : Leads (layout.sign negative) := by
  unfold sign
  split
  · exact .sign (by decide)
  · split
    · exact .sign (by decide)
    · split
      · exact .sign (by decide)
      · exact .nothing

theorem leads_radixMark (radix : Radix) (n : Nat) (body : Bytes) :
    Leads (layout.radixMark radix n body) := by
  unfold radixMark
  split
  · split
    · exact .nothing
    · split
      · exact .nothing
      · exact .octal
    · split
      · exact .nothing
      · exact .hexadecimal (by decide)
    · split
      · exact .nothing
      · exact .hexadecimal (by decide)
  · exact .nothing

section Unlimited

variable {layout} (unlimited : layout.precision = none)

include unlimited

theorem bare_digits {base : Nat} (two : 1 < base) (most : base ≤ 16) (letters : LetterCase)
    (n : Nat) : Bare (layout.digits base letters n) := by
  rw [digits, unlimited]
  exact (clean_inBase two most letters n).bare

theorem numeric_integer (conversion : IntegerConversion) (word : UInt64) :
    (layout.integer conversion word).Numeric := by
  have signed (n : Int) : (layout.signed n).Numeric :=
    ⟨layout.leads_sign _, bare_digits unlimited (by decide) (by decide) .lower _⟩
  have unsigned (radix : Radix) (n : Nat) : (layout.unsigned radix n).Numeric := by
    refine ⟨layout.leads_radixMark _ _ _, ?_⟩
    cases radix <;> exact bare_digits unlimited (by decide) (by decide) _ n
  cases conversion with
  | d | i => exact signed _
  | _ => exact unsigned _ _

end Unlimited

theorem zeroFill_float {style : FloatStyle} {x : Binary64} {field : Field}
    (made : layout.float? style x = some field) : field.zeroFill = x.isFinite := by
  unfold float? at made
  split at made
  · cases made
  · cases made
    rfl

theorem numeric_float {style : FloatStyle} {x : Binary64} (finite : x.isFinite = true)
    {field : Field} (made : layout.float? style x = some field) : field.Numeric := by
  have number : x.isNan = false := by
    unfold Binary64.isFinite at finite
    simp [Binary64.isNan, of_decide_eq_true finite]
  have body : Bare (layout.floatBody style x) := by
    unfold floatBody
    rw [number, finite]
    cases style with
    | fixed => exact bare_fixed x _
    | scientific => exact bare_scientific x _
  unfold float? at made
  split at made
  · cases made
  · cases made
    exact ⟨layout.leads_sign _, body⟩

theorem field_made {letter : Letter} {argument : Argument} {s after : Cursor × Engine β}
    {field : Field} (made : (layout.field letter argument).runOn s = (.ok field, after)) :
    field.zeroFill = letter.fills layout.precision argument ∧
      (field.zeroFill = true → field.Numeric) := by
  cases letter with
  | integer conversion =>
      cases made
      have fills :
          (layout.integer conversion argument.word).zeroFill = layout.precision.isNone := by
        cases conversion <;> rfl
      refine ⟨fills, fun filled => numeric_integer ?_ _ _⟩
      exact Option.isNone_iff_eq_none.mp (fills.symm.trans filled)
  | float style =>
      cases kept : layout.float? style ⟨argument.word⟩ with
      | none =>
          rw [Layout.field, kept] at made
          cases made
      | some double =>
          rw [Layout.field, kept] at made
          cases made
          have fills : field.zeroFill = Binary64.isFinite ⟨argument.word⟩ :=
            layout.zeroFill_float kept
          exact ⟨fills, fun filled => layout.numeric_float (fills.symm.trans filled) kept⟩
  | value =>
      obtain ⟨text, s', -, made⟩ := runOn_bind_eq_ok.mp made
      cases made
      exact ⟨rfl, fun filled => absurd filled Bool.false_ne_true⟩
  | _ =>
      cases made
      exact ⟨rfl, fun filled => absurd filled Bool.false_ne_true⟩

end Layout

theorem Field.write_eq {field : Field} (numbers : field.zeroFill = true → field.Numeric)
    (layout : Layout) :
    let text := field.lead ++ field.body
    let count := layout.width - text.length
    field.write layout =
      if layout.flags.left then text ++ spaces count
      else if layout.flags.zero && field.zeroFill then zeroFilled count text
      else spaces count ++ text := by
  intro text count
  have length : text.length = field.lead.length + field.body.length := List.length_append
  rw [Field.write, ← length]
  split
  · rfl
  · split
    next filled =>
      obtain ⟨leads, bare⟩ := numbers (Bool.and_eq_true_iff.mp filled).2
      exact (leads.zeroFilled_append bare count).symm
    next => exact List.append_assoc _ _ _

theorem Field.write_of_width_zero {field : Field} {layout : Layout} (zero : layout.width = 0) :
    field.write layout = field.lead ++ field.body := by
  simp [Field.write, zero, spaces]

theorem Layout.field_of_width (layout : Layout) (width : Nat) (letter : Letter)
    (argument : Argument) :
    ({ layout with width } : Layout).field letter argument =
      (layout.field letter argument : Trailing (Engine β) Field) := by
  cases letter with
  | integer conversion => cases conversion <;> rfl
  | _ => rfl

theorem eq_of_read {kind : ReadKind} {cursor : Cursor} {engine : Engine β}
    {read argument : Argument} {rest : List Argument} {after : Cursor × Engine β}
    (next : cursor.rest = argument :: rest)
    (taken : (onCursor (Cursor.read kind)).runOn (cursor, engine) = (.ok read, after)) :
    read = argument := by
  obtain ⟨_, taken, -⟩ := onCursor_eq_ok.mp taken
  have taken := Cursor.read_eq_ok.mp taken
  simp only [Cursor.next, next] at taken
  split at taken <;> cases taken
  rfl

theorem convert_of_width {layout : Layout} {letter : Letter} {argument : Argument} {cursor : Cursor}
    {engine : Engine β} {rest : List Argument} {text : Bytes} {after : Cursor × Engine β}
    (next : cursor.rest = argument :: rest)
    (written : (convert layout letter.conversion).runOn (cursor, engine) = (.ok text, after)) :
    ∃ field : Field, field.zeroFill = letter.fills layout.precision argument ∧
      (field.zeroFill = true → field.Numeric) ∧
      ∀ width, (convert { layout with width } letter.conversion).runOn (cursor, engine) =
        (.ok (field.write { layout with width }), after) := by
  rw [convert_eq] at written
  obtain ⟨read, s, taken, written⟩ := runOn_bind_eq_ok.mp written
  obtain rfl := eq_of_read next taken
  obtain ⟨field, s', made, written⟩ := runOn_bind_eq_ok.mp written
  cases written
  obtain ⟨fills, numbers⟩ := layout.field_made made
  refine ⟨field, fills, numbers, fun width => ?_⟩
  rw [convert_eq, runOn_bind_of_ok taken, Layout.field_of_width, runOn_bind_of_ok made, runOn_pure]

namespace Spelling

variable (d : Spelling)

def widened (ds : List (Fin 10)) : Spelling :=
  { d with width := .digits ds }

/-- What a width makes of a text that is written without one. -/
def padded (argument : Argument) (width : Nat) (text : Bytes) : Bytes :=
  let count := width - text.length
  if .left ∈ d.flags then text ++ spaces count
  else if .zero ∈ d.flags ∧ d.letter.fills d.layout.precision argument = true then
    zeroFilled count text
  else spaces count ++ text

theorem length_padded (argument : Argument) (width : Nat) (text : Bytes) :
    (d.padded argument width text).length = max width text.length := by
  have spaces (count : Nat) : (spaces count).length = count := List.length_replicate
  unfold padded
  dsimp only
  split
  · rw [List.length_append, spaces]
    omega
  · split
    · rw [length_zeroFilled]
      omega
    · rw [List.length_append, spaces]
      omega

theorem layout_widened {ds : List (Fin 10)} (head : ds.head? ≠ some 0) :
    (d.widened ds).layout =
      { flags := Flags.among d.flags
        width := value 10 (ds.map (·.val))
        precision := d.layout.precision
        length := d.modifier.length } := by
  have positive : ¬ (d.widened ds).width.number < 0 := Figure.number_digits_not_neg ds
  have flags : (d.widened ds).directive.flags = Flags.among d.flags := if_neg head
  rw [layout, if_neg positive, flags]
  rfl

theorem render_spelled :
    (render d.spelled : Trailing (Engine β) Bytes) = renderPiece (.directive d.directive) := by
  have pieces := @pieces_append d [] fun _ => by decide
  rw [List.append_nil] at pieces
  rw [render, pieces]
  change (renderPiece _ >>= fun front => pure (front ++ [])) = _
  simp only [List.append_nil, bind_pure]

/-- A width only pads: the same reads and calls are made, and the text gets spaces before it, spaces
behind it, or zeros behind its sign and mark, as the flags ask and the conversion allows. -/
theorem width_only_pads {ds : List (Fin 10)} (head : ds.head? ≠ some 0)
    (most : value 10 (ds.map (·.val)) ≤ mostField) {engine : Engine β} {cursor : Cursor}
    {argument : Argument} {rest : List Argument}
    (next : cursor.rest = (d.precision.map Figure.arguments).getD [] ++ argument :: rest)
    {text : Bytes} {after : Cursor × Engine β}
    (written : (render (d.widened []).spelled).runOn (cursor, engine) = (.ok text, after)) :
    let width := value 10 (ds.map (·.val))
    (render (d.widened ds).spelled).runOn (cursor, engine) =
        (.ok (d.padded argument width text), after) ∧
      (d.padded argument width text).length = max width text.length := by
  intro width
  refine ⟨?_, d.length_padded argument width text⟩
  rw [render_spelled] at written ⊢
  have narrow : (d.widened []).width.number.natAbs ≤ mostField := Nat.zero_le mostField
  have precision : ∀ figure ∈ d.precision, figure.number ≤ mostField := by
    intro figure given
    by_contra large
    obtain ⟨_, _, ran, -⟩ := @tooBig_precision β (d.widened []) cursor _ narrow figure given
      (Int.not_le.mp large) next engine
    rw [ran] at written
    cases written
  have run (digits : List (Fin 10)) (small : value 10 (digits.map (·.val)) ≤ mostField) :
      (renderPiece (.directive (d.widened digits).directive)).runOn (cursor, engine) =
        (convert (d.widened digits).layout d.letter.conversion).runOn
          (cursor.past (d.widened []).figureKinds (argument :: rest), engine) :=
    @runOn_renderPiece β (d.widened digits) cursor (argument :: rest) small precision next engine
  rw [run [] narrow, @layout_widened d [] (by decide)] at written
  rw [run ds most, d.layout_widened head]
  obtain ⟨field, fills, numbers, each⟩ := convert_of_width rfl written
  have same : text = field.lead ++ field.body := by
    have unpadded := written.symm.trans (each 0)
    rw [Field.write_of_width_zero rfl] at unpadded
    injection unpadded with text
    injection text
  -- What is left differs only in how the flags are looked up.
  rw [each width, Field.write_eq numbers, ← same, padded, fills]
  simp [Flags.among]

theorem width_only_pads_hex_and_text :
    (∃ after : Cursor × Engine Unit,
      (render (octets "%0#x")).runOn (.start [.integer 255], {}) = (.ok (octets "0xff"), after) ∧
      (render (octets "%0#10x")).runOn (.start [.integer 255], {}) =
        (.ok (octets "0x000000ff"), after)) ∧
    ∃ after : Cursor × Engine Unit,
      (render (octets "%-.*s")).runOn (.start [.integer 2, .text 4096 (octets "abc")], {}) =
        (.ok (octets "ab"), after) ∧
      (render (octets "%-6.*s")).runOn (.start [.integer 2, .text 4096 (octets "abc")], {}) =
        (.ok (octets "ab    "), after) := by
  constructor
  · let d : Spelling :=
      { flags := [.zero, .alternate]
        width := .digits []
        precision := none
        modifier := .none
        letter := .integer .x
        marked := nofun }
    have spelled : octets "%0#x" = (d.widened []).spelled := by decide
    have widened : octets "%0#10x" = (d.widened [1, 0]).spelled := by decide
    let cursor : Cursor := .start [.integer 255]
    have text : (d.widened []).layout.integerText .x 255 = octets "0xff" := by decide +kernel
    have written : (render (d.widened []).spelled).runOn (cursor, ({} : Engine Unit)) =
        (.ok (octets "0xff"), cursor.past [.int] [], {}) := by
      rw [render_spelled, ← text]
      exact runOn_convert_integer (d.widened []).layout .x 255 rfl {}
    rw [spelled, widened]
    exact ⟨_, written,
      (@width_only_pads Unit d [1, 0] (by decide) (by decide) _ _ _ _ rfl _ _ written).1⟩
  · let d : Spelling :=
      { flags := [.left]
        width := .digits []
        precision := some (.star 2)
        modifier := .none
        letter := .text
        marked := nofun }
    have spelled : octets "%-.*s" = (d.widened []).spelled := by decide
    have widened : octets "%-6.*s" = (d.widened [6]).spelled := by decide
    let cursor : Cursor := .start [.integer 2, .text 4096 (octets "abc")]
    have written : (render (d.widened []).spelled).runOn (cursor, ({} : Engine Unit)) =
        (.ok (octets "ab"), cursor.past [.int, .text] [], {}) := rfl
    rw [spelled, widened]
    exact ⟨_, written,
      (@width_only_pads Unit d [6] (by decide) (by decide) _ _ _ _ rfl _ _ written).1⟩

end Spelling

end NativeGate.Format
