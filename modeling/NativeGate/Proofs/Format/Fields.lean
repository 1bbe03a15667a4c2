import NativeGate.Proofs.Format.Figures

namespace NativeGate.Format

open NativeGate Proc Trailing

variable {β : Type}

def integerKind (length : Length) : ReadKind :=
  if length = .long then .long else .int

def Letter.kind (length : Length) : Letter → ReadKind
  | .integer _ => integerKind length
  | .character => .int
  | .text => .text
  | .pointer => .pointer
  | .float _ => .double
  | .value => .value

namespace Layout

def integer (layout : Layout) (conversion : IntegerConversion) (word : UInt64) : Field :=
  match conversion.conversion with
  | .unsigned radix => layout.unsigned radix (layout.unsignedOf word)
  | _ => layout.signed (layout.signedOf word)

def field (layout : Layout) : Letter → Argument → Trailing (Engine β) Field
  | .integer conversion, argument => pure (layout.integer conversion argument.word)
  | .character, argument => pure (layout.character argument.word)
  | .text, argument => pure (layout.text argument.content?)
  | .pointer, argument => pure (layout.pointer argument.word)
  | .float style, argument =>
      match layout.float? style ⟨argument.word⟩ with
      | some field => pure field
      | none => throw (.foreign tooManyPlaces)
  | .value, argument => do
      return { body := ← valueText layout.flags ⟨argument.word⟩ }

end Layout

theorem convert_eq (layout : Layout) (letter : Letter) :
    (convert layout letter.conversion : Trailing (Engine β) Bytes) =
      (onCursor (Cursor.read (letter.kind layout.length)) >>= fun argument =>
        layout.field letter argument >>= fun field => pure (field.write layout)) := by
  have reads {α : Type} (kind : ReadKind) (look : Argument → α)
      (next : α → Trailing (Engine β) Bytes) :
      (onCursor (Cursor.read kind >>= fun argument => pure (look argument)) >>= next) =
        onCursor (Cursor.read kind) >>= fun argument => next (look argument) := by
    simp only [onCursor_map, bind_assoc, pure_bind]
  cases letter with
  | integer conversion => cases conversion <;> exact reads _ Argument.word _
  | text => exact reads _ Argument.content? _
  | value =>
      refine (reads _ _ _).trans (bind_congr fun argument => ?_)
      simp only [Layout.field, bind_assoc, pure_bind]
  | float style =>
      refine bind_congr fun argument => ?_
      dsimp only [Layout.field]
      cases layout.float? style ⟨argument.word⟩ <;> rfl
  | _ => rfl

section Run

variable {cursor : Cursor} {argument : Argument} {rest : List Argument}
  (next : cursor.rest = argument :: rest)

include next

theorem runOn_convert (layout : Layout) (letter : Letter)
    (fits : argument.fits (letter.kind layout.length) = true) (engine : Engine β) :
    (convert layout letter.conversion).runOn (cursor, engine) =
      (layout.field letter argument >>= fun field => pure (field.write layout)).runOn
        (cursor.past [letter.kind layout.length] rest, engine) := by
  rw [convert_eq, runOn_bind_of_ok (runOn_onCursor_read next fits engine)]

end Run

end NativeGate.Format
