import NativeGate.Format.Render
import NativeGate.Proofs.Engine
import NativeGate.Proofs.Host.Inspect
import NativeGate.Proofs.Host.Objects
import NativeGate.Proofs.Trailing

namespace NativeGate.Format

open NativeGate Engine Trailing

variable {α β : Type}

theorem onCursor_ends {p : Proc Cursor α} (faults : Cursor.OnlyFaults p) (s : Cursor × Engine β) :
    Ends Prod.snd Exit.IsFault 0 (onCursor p) s := by
  have ran := runOn_onCursor p s
  cases answered : p.runOn s.1 with
  | mk result cursor =>
      rw [answered] at ran
      cases result with
      | ok a => exact .of_ok ran (.refl 0 _)
      | error exit => exact .of_error ran (faults answered) (.refl 1 _)

theorem onState_ends {allowed : Exit → Prop} {count : Nat} {p : Proc (Engine β) α}
    {s : Cursor × Engine β} (ends : Ends id allowed count p s.2) :
    Ends Prod.snd allowed count (onState p) s := by
  have ran := runOn_onState p s
  cases answered : p.runOn s.2 with
  | mk result engine =>
      rw [answered] at ran
      cases result with
      | ok a => exact .of_ok ran (ends.returned answered)
      | error exit => exact .of_error ran (ends.left answered).1 (ends.left answered).2

theorem malformed_ends (message : Bytes) (s : Cursor × Engine β) :
    Ends Prod.snd Exit.IsFault 0 (malformed message : Trailing (Engine β) α) s :=
  onState_ends (.of_error (Engine.runOn_failWith .argumentError message s.2) ⟨_, rfl⟩
    ⟨rfl, Host.newException_size_le _ _ _⟩)

theorem checkField_ends (n : Nat) (what : String) (s : Cursor × Engine β) :
    Ends Prod.snd Exit.IsFault 0 (checkField n what : Trailing (Engine β) Nat) s := by
  unfold checkField
  split
  · exact .pure n s
  · exact malformed_ends _ s

theorem readWidth_ends (d : Directive) (s : Cursor × Engine β) :
    Ends Prod.snd Exit.IsFault 0 (readWidth d : Trailing (Engine β) (Flags × Nat)) s := by
  unfold readWidth
  split
  · exact (checkField_ends _ _ s).bind fun _ s' _ => .pure _ s'
  · refine .bind (n := 0) (onCursor_ends (Cursor.read_onlyFaults .int) s) fun argument s' _ => ?_
    exact (checkField_ends _ _ s').bind fun _ s'' _ => .pure _ s''

theorem readPrecision_ends (d : Directive) (s : Cursor × Engine β) :
    Ends Prod.snd Exit.IsFault 0 (readPrecision d : Trailing (Engine β) (Option Nat)) s := by
  unfold readPrecision
  split
  · exact .pure _ s
  · exact (checkField_ends _ _ s).bind fun _ s' _ => .pure _ s'
  · exact .bind (n := 0) (onCursor_ends (Cursor.read_onlyFaults .int) s) fun _ s' _ => .pure _ s'

theorem checkField_eq_ok {n m : Nat} {what : String} {s s' : Cursor × Engine β}
    (checked : (checkField n what).runOn s = (.ok m, s')) : m = n := by
  unfold checkField at checked
  split at checked
  · cases checked
    rfl
  · cases checked

theorem precision_of_places {d : Directive} {precision : Option Nat} {s s' : Cursor × Engine β}
    (read : (readPrecision d).runOn s = (.ok precision, s'))
    (many : precision.getD 6 > Layout.mostPlaces) :
    d.precision = some .star ∨ ∃ n > Layout.mostPlaces, d.precision = some (.given n) := by
  unfold readPrecision at read
  split at read
  next =>
    cases read
    exact absurd many (by decide)
  next n written =>
    obtain ⟨m, _, checked, returned⟩ := Proc.runOn_bind_eq_ok.mp read
    cases returned
    rw [checkField_eq_ok checked] at many
    exact .inr ⟨n, many, written⟩
  next written => exact .inl written

def NoText (host : Host) (flags : Flags) (v : Value) : Prop :=
  if flags.plus then host.inspect? v = none else host.toString? v = none

def textOperation (flags : Flags) : Operation :=
  if flags.plus then .inspect else .objAsString

theorem noText_iff (host : Host) (flags : Flags) (v : Value) :
    (host.invoke (textOperation flags).name [v]).1 = .endless ↔ NoText host flags v := by
  unfold NoText textOperation
  split
  · exact host.invoke_inspect_endless_iff v
  · exact host.invoke_objAsString_endless_iff v

theorem valueText_eq (flags : Flags) (v : Value) :
    (valueText flags v : Trailing (Engine β) Bytes) =
      onState (Engine.perform (textOperation flags) [v] >>= Engine.readString) := by
  unfold valueText textOperation
  cases flags.plus <;> rfl

section Unpinned

variable {s : Cursor × Engine β} (unpinned : s.2.pinned = [])

include unpinned

theorem valueText_ends (flags : Flags) (v : Value) :
    Ends Prod.snd (fun exit => exit.IsFault ∨ NoText s.2.host flags v ∧ exit = .aborted) 1
      (valueText flags v) s := by
  rw [valueText_eq]
  apply onState_ends
  refine .bind (n := 0) ?_ fun string engine _ => ?_
  · rw [← noText_iff]
    exact perform_ends unpinned _ _
  · exact (readString_ends string engine).mono (fun _ => .inl) (Nat.le_refl 0)

theorem valueText_of_noText {flags : Flags} {v : Value} (noText : NoText s.2.host flags v) :
    ∃ after, (valueText flags v).runOn s = (.error .aborted, after) := by
  obtain ⟨engine, ran⟩ := perform_of_endless unpinned _ _ ((noText_iff _ _ _).mpr noText)
  rw [valueText_eq, runOn_onState, Proc.runOn_bind_of_error ran]
  exact ⟨_, rfl⟩

end Unpinned

theorem float?_eq_none_iff (layout : Layout) (style : FloatStyle) (x : Binary64) :
    layout.float? style x = none ↔ x.isFinite = true ∧ layout.places > Layout.mostPlaces := by
  simp [Layout.float?]

/-- A conversion leaves by this exit, which is no fault. -/
inductive Escape (layout : Layout) (s : Cursor × Engine β) : Conversion → Exit → Prop
  | tooPrecise {style : FloatStyle} {x : Argument} {cursor : Cursor}
      (read : s.1.next .double = (.ok x, cursor)) (finite : Binary64.isFinite ⟨x.word⟩ = true)
      (places : layout.places > Layout.mostPlaces) :
      Escape layout s (.float style) (.foreign tooManyPlaces)
  | endless {argument : Argument} {cursor : Cursor}
      (read : s.1.next .value = (.ok argument, cursor))
      (noText : NoText s.2.host layout.flags ⟨argument.word⟩) : Escape layout s .value .aborted

theorem written_ends {reader : Proc Cursor α} (faults : Cursor.OnlyFaults reader)
    (write : α → Bytes) (s : Cursor × Engine β) :
    Ends Prod.snd Exit.IsFault 0 (onCursor reader >>= fun a => pure (write a)) s :=
  .bind (n := 0) (onCursor_ends faults s) fun _ s' _ => .pure _ s'

section Unpinned

variable {s : Cursor × Engine β} (unpinned : s.2.pinned = [])

include unpinned

theorem convert_ends (layout : Layout) (conversion : Conversion) :
    Ends Prod.snd (fun exit => exit.IsFault ∨ Escape layout s conversion exit) 1
      (convert layout conversion) s := by
  have faults {p : Trailing (Engine β) Bytes} (ends : Ends Prod.snd Exit.IsFault 0 p s) :
      Ends Prod.snd (fun exit => exit.IsFault ∨ Escape layout s conversion exit) 1 p s :=
    ends.mono (fun _ => .inl) (Nat.zero_le 1)
  cases conversion with
  | percent => exact faults (.pure _ s)
  | value =>
      refine .bind (m := 0) (n := 1)
        ((onCursor_ends (Cursor.readMap_onlyFaults _ _) s).mono (fun _ => .inl) (Nat.le_refl 0)) ?_
      intro v s' ran
      obtain ⟨cursor, taken, rfl⟩ := onCursor_eq_ok.mp ran
      obtain ⟨argument, read, rfl⟩ := Cursor.readValue_eq_ok.mp taken
      refine .bind (m := 1) (n := 0) ?_ fun _ s'' _ => .pure _ s''
      refine (valueText_ends (s := (cursor, s.2)) unpinned layout.flags _).mono ?_ (Nat.le_refl 1)
      rintro exit (fault | ⟨noText, rfl⟩)
      · exact .inl fault
      · exact .inr (.endless read noText)
  | signed => exact faults (written_ends (Cursor.readMap_onlyFaults _ _) _ s)
  | unsigned radix => exact faults (written_ends (Cursor.readMap_onlyFaults _ _) _ s)
  | character => exact faults (written_ends (Cursor.read_onlyFaults _) _ s)
  | text => exact faults (written_ends (Cursor.readMap_onlyFaults _ _) _ s)
  | pointer => exact faults (written_ends (Cursor.read_onlyFaults _) _ s)
  | float style =>
      refine .bind (m := 0) (n := 1)
        ((onCursor_ends (Cursor.read_onlyFaults .double) s).mono (fun _ => .inl) (Nat.le_refl 0)) ?_
      intro x s' ran
      obtain ⟨cursor, taken, rfl⟩ := onCursor_eq_ok.mp ran
      cases field : layout.float? style ⟨x.word⟩ with
      | some field => exact (Ends.pure _ _).mono (fun _ => id) (Nat.zero_le 1)
      | none =>
          obtain ⟨finite, places⟩ := (float?_eq_none_iff layout style _).mp field
          refine (Ends.throw ?_ _).mono (fun _ => id) (Nat.zero_le 1)
          exact .inr (.tooPrecise (Cursor.read_eq_ok.mp taken) finite places)
  | unknown letter => exact faults (malformed_ends _ s)
  | missing => exact faults (malformed_ends _ s)

theorem convert_of_escape {layout : Layout} {conversion : Conversion} {exit : Exit}
    (escape : Escape layout s conversion exit) :
    ∃ after, (convert layout conversion).runOn s = (.error exit, after) := by
  cases escape with
  | @tooPrecise style x cursor read finite places =>
      have ran := onCursor_eq_ok (s := s).mpr ⟨cursor, Cursor.read_eq_ok.mpr read, rfl⟩
      have noField := (float?_eq_none_iff layout style _).mpr ⟨finite, places⟩
      refine ⟨(cursor, s.2), ?_⟩
      change (onCursor (Cursor.read .double) >>= _).runOn s = _
      rw [Proc.runOn_bind_of_ok ran, noField, Proc.runOn_throw]
  | @endless argument cursor read noText =>
      have taken := Cursor.readValue_eq_ok.mpr ⟨argument, read, rfl⟩
      have ran := onCursor_eq_ok (s := s).mpr ⟨cursor, taken, rfl⟩
      obtain ⟨after, endless⟩ := valueText_of_noText (s := (cursor, s.2)) unpinned noText
      refine ⟨after, ?_⟩
      change (onCursor Cursor.readValue >>= _).runOn s = _
      rw [Proc.runOn_bind_of_ok ran, Proc.runOn_bind_of_error endless]

end Unpinned

def Directive.layout (d : Directive) (field : Flags × Nat) (precision : Option Nat) : Layout where
  flags := field.1
  width := field.2
  precision
  length := d.length

theorem renderPiece_directive (d : Directive) :
    (renderPiece (.directive d) : Trailing (Engine β) Bytes) =
      (readWidth d >>= fun field => readPrecision d >>= fun precision =>
        convert (d.layout field precision) d.conversion) := rfl

theorem renderPieces_cons (piece : Piece) (rest : List Piece) :
    (renderPieces (piece :: rest) : Trailing (Engine β) Bytes) =
      (renderPiece piece >>= fun front => renderPieces rest >>= fun back =>
        pure (front ++ back)) := rfl

inductive Piece.Escapes (s : Cursor × Engine β) (exit : Exit) : Piece → Prop
  | directive {d : Directive} {field : Flags × Nat} {places : Option Nat}
      {s' s'' : Cursor × Engine β} (width : (readWidth d).runOn s = (.ok field, s'))
      (precision : (readPrecision d).runOn s' = (.ok places, s''))
      (escape : Escape (d.layout field places) s'' d.conversion exit) :
      Piece.Escapes s exit (.directive d)

/-- One of the pieces leaves by this exit, after the ones before it were written. -/
inductive Escapes (exit : Exit) : List Piece → Cursor × Engine β → Prop
  | here {piece : Piece} {rest : List Piece} {s : Cursor × Engine β}
      (escapes : piece.Escapes s exit) : Escapes exit (piece :: rest) s
  | later {piece : Piece} {rest : List Piece} {s s' : Cursor × Engine β} {text : Bytes}
      (written : (renderPiece piece).runOn s = (.ok text, s')) (escapes : Escapes exit rest s') :
      Escapes exit (piece :: rest) s

/-- The exits a directive may take, as far as they can be told before its arguments are known. -/
inductive Directive.MayEscape (d : Directive) : Exit → Prop
  | places {style : FloatStyle} (conversion : d.conversion = .float style)
      (precision : d.precision = some .star ∨
        ∃ n > Layout.mostPlaces, d.precision = some (.given n)) :
      MayEscape d (.foreign tooManyPlaces)
  | value (conversion : d.conversion = .value) : MayEscape d .aborted

theorem Directive.MayEscape.not_isFault {d : Directive} {exit : Exit} (may : d.MayEscape exit) :
    ¬ exit.IsFault := by
  rintro ⟨fault, rfl⟩
  cases may

theorem Piece.Escapes.mayEscape {piece : Piece} {s : Cursor × Engine β} {exit : Exit}
    (escapes : piece.Escapes s exit) : ∃ d, piece = .directive d ∧ d.MayEscape exit := by
  cases escapes with
  | @directive d field places s' s'' width precision escape =>
      refine ⟨d, rfl, ?_⟩
      generalize written : d.conversion = conversion at escape
      cases escape with
      | tooPrecise read finite many =>
          exact .places written (precision_of_places precision many)
      | endless read noText => exact .value written

theorem Escapes.mayEscape {exit : Exit} {pieces : List Piece} {s : Cursor × Engine β}
    (escapes : Escapes exit pieces s) : ∃ d, .directive d ∈ pieces ∧ d.MayEscape exit := by
  induction escapes with
  | here escapes =>
      obtain ⟨d, rfl, may⟩ := escapes.mayEscape
      exact ⟨d, List.mem_cons_self, may⟩
  | later _ _ ih =>
      obtain ⟨d, member, may⟩ := ih
      exact ⟨d, List.mem_cons_of_mem _ member, may⟩

theorem renderPiece_ends (piece : Piece) {s : Cursor × Engine β} (unpinned : s.2.pinned = []) :
    Ends Prod.snd (fun exit => exit.IsFault ∨ piece.Escapes s exit) 1 (renderPiece piece) s := by
  cases piece with
  | literal b => exact (Ends.pure _ s).mono (fun _ => id) (Nat.zero_le 1)
  | directive d =>
      rw [renderPiece_directive]
      have width := readWidth_ends d s
      refine .bind (m := 0) (n := 1) (width.mono (fun _ => .inl) (Nat.le_refl 0)) ?_
      intro field s' gotWidth
      have precision := readPrecision_ends d s'
      refine .bind (m := 0) (n := 1) (precision.mono (fun _ => .inl) (Nat.le_refl 0)) ?_
      intro places s'' gotPrecision
      have unpinned'' : s''.2.pinned = [] :=
        ((width.returned gotWidth).trans (precision.returned gotPrecision)).pinned.trans unpinned
      refine (convert_ends unpinned'' _ _).mono ?_ (Nat.le_refl 1)
      rintro exit (fault | escape)
      · exact .inl fault
      · exact .inr (.directive gotWidth gotPrecision escape)

theorem renderPiece_of_escapes {piece : Piece} {s : Cursor × Engine β} {exit : Exit}
    (unpinned : s.2.pinned = []) (escapes : piece.Escapes s exit) :
    ∃ after, (renderPiece piece).runOn s = (.error exit, after) := by
  cases escapes with
  | @directive d _ _ s' s'' gotWidth gotPrecision escape =>
      have unpinned'' : s''.2.pinned = [] :=
        (((readWidth_ends d s).returned gotWidth).trans
          ((readPrecision_ends d s').returned gotPrecision)).pinned.trans unpinned
      obtain ⟨after, left⟩ := convert_of_escape unpinned'' escape
      refine ⟨after, ?_⟩
      rw [renderPiece_directive, Proc.runOn_bind_of_ok gotWidth,
        Proc.runOn_bind_of_ok gotPrecision, left]

theorem renderPieces_ends (pieces : List Piece) {s : Cursor × Engine β}
    (unpinned : s.2.pinned = []) :
    Ends Prod.snd (fun exit => exit.IsFault ∨ Escapes exit pieces s) pieces.length
      (renderPieces pieces) s := by
  induction pieces generalizing s with
  | nil => exact .pure [] s
  | cons piece rest ih =>
      have front := renderPiece_ends piece unpinned
      rw [renderPieces_cons, List.length_cons, Nat.add_comm]
      apply Ends.bind
      · refine front.mono ?_ (Nat.le_refl 1)
        rintro exit (fault | escapes)
        · exact .inl fault
        · exact .inr (.here escapes)
      · intro text s' written
        refine .bind (n := 0) (Ends.mono (ih ?_) ?_ (Nat.le_refl _)) fun _ _ _ => .pure _ _
        · exact (front.returned written).pinned.trans unpinned
        · rintro exit (fault | escapes)
          · exact .inl fault
          · exact .inr (.later written escapes)

theorem renderPieces_of_escapes {pieces : List Piece} {s : Cursor × Engine β} {exit : Exit}
    (unpinned : s.2.pinned = []) (escapes : Escapes exit pieces s) :
    ∃ after, (renderPieces pieces).runOn s = (.error exit, after) := by
  induction escapes with
  | here escapes =>
      obtain ⟨after, left⟩ := renderPiece_of_escapes unpinned escapes
      exact ⟨after, by rw [renderPieces_cons, Proc.runOn_bind_of_error left]⟩
  | @later piece rest s s' text written escapes ih =>
      have spent := (renderPiece_ends piece unpinned).returned written
      obtain ⟨after, left⟩ := ih (spent.pinned.trans unpinned)
      refine ⟨after, ?_⟩
      rw [renderPieces_cons, Proc.runOn_bind_of_ok written, Proc.runOn_bind_of_error left]

end NativeGate.Format
