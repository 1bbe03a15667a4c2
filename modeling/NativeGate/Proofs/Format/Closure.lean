import NativeGate.Proofs.Format.Render

namespace NativeGate.Format

open NativeGate Trailing

variable {β : Type}

/-- What holds of the calls that formatting is made of and is kept by sequencing. -/
structure Closed (Q : {α : Type} → Trailing (Engine β) α → Prop) : Prop where
  pure : ∀ {α : Type} (a : α), Q (pure a)
  bind : ∀ {α γ : Type} {p : Trailing (Engine β) α} {next : α → Trailing (Engine β) γ},
    Q p → (∀ a, Q (next a)) → Q (p >>= next)
  read : ∀ kind, Q (onCursor (Cursor.read kind))
  value : ∀ flags v, Q (valueText flags v)
  malformed : ∀ {α : Type} (message : Bytes), Q (malformed message : Trailing (Engine β) α)
  tooPrecise : Q (throw (.foreign tooManyPlaces) : Trailing (Engine β) Bytes)

namespace Closed

variable {Q : {α : Type} → Trailing (Engine β) α → Prop} (closed : Closed Q)

include closed

theorem readMap {α : Type} (kind : ReadKind) (look : Argument → α) :
    Q (onCursor (Cursor.read kind >>= fun argument => Pure.pure (look argument))) := by
  rw [onCursor_map]
  exact closed.bind (closed.read kind) fun argument => closed.pure (look argument)

theorem checkField (n : Nat) (what : String) : Q (checkField n what) := by
  unfold Format.checkField
  split
  · exact closed.pure n
  · exact closed.malformed _

theorem readWidth (d : Directive) : Q (readWidth d) := by
  unfold Format.readWidth
  split
  · exact closed.bind (closed.checkField _ _) fun _ => closed.pure _
  · exact closed.bind (closed.read .int) fun _ =>
      closed.bind (closed.checkField _ _) fun _ => closed.pure _

theorem readPrecision (d : Directive) : Q (readPrecision d) := by
  unfold Format.readPrecision
  split
  · exact closed.pure _
  · exact closed.bind (closed.checkField _ _) fun _ => closed.pure _
  · exact closed.bind (closed.read .int) fun _ => closed.pure _

theorem convert (layout : Layout) (conversion : Conversion) : Q (convert layout conversion) := by
  cases conversion with
  | percent => exact closed.pure _
  | value =>
      exact closed.bind (closed.readMap _ _) fun _ =>
        closed.bind (closed.value _ _) fun _ => closed.pure _
  | signed => exact closed.bind (closed.readMap _ _) fun _ => closed.pure _
  | unsigned => exact closed.bind (closed.readMap _ _) fun _ => closed.pure _
  | character => exact closed.bind (closed.read _) fun _ => closed.pure _
  | text => exact closed.bind (closed.readMap _ _) fun _ => closed.pure _
  | pointer => exact closed.bind (closed.read _) fun _ => closed.pure _
  | float style =>
      refine closed.bind (closed.read _) fun argument => ?_
      cases layout.float? style ⟨argument.word⟩ with
      | some field => exact closed.pure _
      | none => exact closed.tooPrecise
  | unknown letter => exact closed.malformed _
  | missing => exact closed.malformed _

theorem piece (piece : Piece) : Q (renderPiece piece) := by
  cases piece with
  | literal b => exact closed.pure _
  | directive d =>
      exact closed.bind (closed.readWidth d) fun _ =>
        closed.bind (closed.readPrecision d) fun _ => closed.convert _ _

theorem pieces (pieces : List Piece) : Q (renderPieces pieces) := by
  induction pieces with
  | nil => exact closed.pure _
  | cons piece rest ih =>
      exact closed.bind (closed.piece piece) fun _ => closed.bind ih fun _ => closed.pure _

theorem render (format : Bytes) : Q (render format) :=
  closed.pieces _

end Closed

theorem valueText_raises (flags : Flags) (v : Value) :
    Engine.Raises (Engine.perform (textOperation flags) [v] >>= Engine.readString :
      Proc (Engine β) Bytes) :=
  (Engine.perform_raises _ _).bind fun _ => Engine.asking_raises _

end NativeGate.Format
