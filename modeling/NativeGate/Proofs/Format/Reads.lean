import NativeGate.Proofs.Format.Demand

namespace NativeGate

variable {α γ τ β : Type}

def Argument.AllFit : List Argument → List ReadKind → Prop :=
  List.Forall₂ fun argument kind => argument.fits kind = true

namespace Cursor

theorem exists_rest_of_next {cursor after : Cursor} {kind : ReadKind} {argument : Argument}
    (taken : cursor.next kind = (.ok argument, after)) :
    ∃ rest, cursor.rest = argument :: rest ∧ argument.fits kind = true := by
  unfold Cursor.next at taken
  split at taken
  next => cases taken
  next other rest next =>
    split at taken
    next fits =>
      cases taken
      exact ⟨rest, next, fits⟩
    next => cases taken

theorem attempts_read (kind : ReadKind) (cursor : Cursor) :
    ((read kind).runOn cursor).2.attempts = cursor.attempts ++ [kind] := by
  have attempts : (cursor.next kind).2.attempts = cursor.attempts ++ [kind] := by
    unfold Cursor.next
    split
    · rfl
    · split <;> rfl
  rw [← attempts, read, Proc.runOn_ofRun]
  rcases cursor.next kind with ⟨_ | _, _⟩ <;> rfl

end Cursor

namespace Trailing

/-- A call that reads arguments of these kinds.  When it returns, it has taken all of them, and what
stands behind them has made no difference; when it leaves, it has attempted the first of them. -/
structure Demands (kinds : List ReadKind) (p : Trailing τ α) : Prop where
  returned : ∀ {cursor : Cursor} {t : τ} {a : α} {s : Cursor × τ},
    p.runOn (cursor, t) = (.ok a, s) →
      ∃ taken rest, cursor.rest = taken ++ rest ∧ Argument.AllFit taken kinds ∧
        ∀ others, p.runOn ({ cursor with rest := taken ++ others }, t) =
          (.ok a, cursor.past kinds others, s.2)
  left : ∀ {cursor : Cursor} {t : τ} {exit : Exit} {s : Cursor × τ},
    p.runOn (cursor, t) = (.error exit, s) →
      ∃ attempted, attempted <+: kinds ∧ s.1.attempts = cursor.attempts ++ attempted

namespace Demands

theorem pure (a : α) : Demands [] (Pure.pure a : Trailing τ α) where
  returned := by
    intro cursor t b s ran
    rw [Proc.runOn_pure] at ran
    cases ran
    refine ⟨[], cursor.rest, rfl, .nil, fun others => ?_⟩
    rw [Proc.runOn_pure, List.nil_append, ← @Cursor.past_nil { cursor with rest := others } _ rfl]
    rfl
  left ran := by cases ran

theorem throw (exit : Exit) : Demands [] (throw exit : Trailing τ α) where
  returned ran := by cases ran
  left := by
    intro cursor t _ s ran
    cases ran
    exact ⟨[], List.prefix_rfl, (List.append_nil _).symm⟩

theorem onState (p : Proc τ α) : Demands [] (onState p) where
  returned := by
    intro cursor t a s ran
    rw [runOn_onState] at ran
    obtain ⟨answered, rfl⟩ := Prod.mk.inj ran
    refine ⟨[], cursor.rest, rfl, .nil, fun others => ?_⟩
    rw [runOn_onState, List.nil_append, ← answered,
      ← @Cursor.past_nil { cursor with rest := others } _ rfl]
    rfl
  left := by
    intro cursor t _ s ran
    rw [runOn_onState] at ran
    obtain ⟨-, rfl⟩ := Prod.mk.inj ran
    exact ⟨[], List.prefix_rfl, (List.append_nil _).symm⟩

theorem read (kind : ReadKind) :
    Demands [kind] (onCursor (Cursor.read kind) : Trailing τ Argument) where
  returned := by
    intro cursor t argument s ran
    obtain ⟨after, taken, rfl⟩ := onCursor_eq_ok.mp ran
    obtain ⟨rest, next, fits⟩ := Cursor.exists_rest_of_next (Cursor.read_eq_ok.mp taken)
    refine ⟨[argument], rest, next, .cons fits .nil, fun others => ?_⟩
    have again := @Cursor.runOn_read { cursor with rest := argument :: others } kind _ _ rfl fits
    rw [runOn_onCursor, List.singleton_append]
    dsimp only
    rw [again]
    rfl
  left := by
    intro cursor t exit s ran
    rw [runOn_onCursor] at ran
    obtain ⟨-, rfl⟩ := Prod.mk.inj ran
    exact ⟨[kind], List.prefix_rfl, Cursor.attempts_read kind cursor⟩

section Bind

variable {kinds more : List ReadKind} {p : Trailing τ α} {next : α → Trailing τ γ}

theorem bind (first : Demands kinds p) (rest : ∀ a, Demands more (next a)) :
    Demands (kinds ++ more) (p >>= next) where
  returned := by
    intro cursor t c s ran
    obtain ⟨a, ⟨middle, t'⟩, front, back⟩ := Proc.runOn_bind_eq_ok.mp ran
    obtain ⟨taken, behind, split, fit, anyway⟩ := first.returned front
    have reached : middle = cursor.past kinds behind := by
      have again := anyway behind
      rw [← split, front] at again
      cases again
      rfl
    obtain ⟨taken', behind', split', fit', anyway'⟩ := (rest a).returned back
    subst reached
    refine ⟨taken ++ taken', behind', ?_, ?_, fun others => ?_⟩
    · rw [split, List.append_assoc, ← split']
      rfl
    · exact List.rel_append fit fit'
    · rw [List.append_assoc, Proc.runOn_bind_of_ok (anyway _), ← Cursor.past_past]
      exact anyway' others
  left := by
    intro cursor t exit s ran
    obtain front | ⟨a, ⟨middle, t'⟩, front, back⟩ := Proc.runOn_bind_eq_error.mp ran
    · obtain ⟨attempted, first, attempts⟩ := first.left front
      exact ⟨attempted, first.trans (List.prefix_append _ _), attempts⟩
    · obtain ⟨taken, behind, split, fit, anyway⟩ := first.returned front
      have again := anyway behind
      rw [← split, front] at again
      cases again
      obtain ⟨attempted, later, attempts⟩ := (rest a).left back
      refine ⟨kinds ++ attempted, List.prefix_append_right_inj _ |>.mpr later, ?_⟩
      rw [attempts, ← List.append_assoc]
      rfl

theorem bind_of_nothing (first : Demands kinds p) (rest : ∀ a, Demands [] (next a)) :
    Demands kinds (p >>= next) :=
  List.append_nil kinds ▸ first.bind rest

theorem bind_of_stuck (first : Demands kinds p) (stuck : ∀ {s a s'}, p.runOn s ≠ (.ok a, s')) :
    Demands kinds (p >>= next) where
  returned ran :=
    have ⟨_, _, front, _⟩ := Proc.runOn_bind_eq_ok.mp ran
    absurd front stuck
  left ran :=
    match Proc.runOn_bind_eq_error.mp ran with
    | .inl front => first.left front
    | .inr ⟨_, _, front, _⟩ => absurd front stuck

end Bind

theorem readMap (kind : ReadKind) (look : Argument → α) :
    Demands [kind] (onCursor (Cursor.read kind >>= fun argument => Pure.pure (look argument)) :
      Trailing τ α) := by
  rw [onCursor_map]
  exact (read kind).bind_of_nothing fun argument => .pure (look argument)

end Demands

end Trailing

namespace Format

open Trailing

theorem malformed_demands (message : Bytes) :
    Demands [] (malformed message : Trailing (Engine β) α) :=
  .onState _

theorem malformed_stuck {message : Bytes} {s s' : Cursor × Engine β} {a : α} :
    (malformed message).runOn s ≠ (.ok a, s') :=
  nofun

theorem checkField_demands (n : Nat) (what : String) :
    Demands [] (checkField n what : Trailing (Engine β) Nat) := by
  unfold checkField
  split
  · exact .pure n
  · exact malformed_demands _

theorem readWidth_demands (d : Directive) :
    Demands d.width.demand (readWidth d : Trailing (Engine β) (Flags × Nat)) := by
  unfold readWidth
  cases d.width with
  | given n => exact (checkField_demands n "width").bind fun _ => .pure _
  | star =>
      exact (Demands.read .int).bind fun _ => (checkField_demands _ "width").bind fun _ => .pure _

theorem readPrecision_demands (d : Directive) :
    Demands ((d.precision.map Amount.demand).getD [])
      (readPrecision d : Trailing (Engine β) (Option Nat)) := by
  unfold readPrecision
  cases d.precision with
  | none => exact .pure none
  | some amount =>
      cases amount with
      | given n => exact (checkField_demands n "precision").bind fun _ => .pure _
      | star => exact (Demands.read .int).bind fun _ => .pure _

theorem convert_demands (layout : Layout) (conversion : Conversion) :
    Demands ((conversion.demand? layout.length).getD [])
      (convert layout conversion : Trailing (Engine β) Bytes) := by
  cases conversion with
  | percent => exact .pure _
  | value =>
      refine (Demands.readMap .value _).bind_of_nothing fun v => ?_
      refine Demands.bind_of_nothing ?_ fun _ => .pure _
      rw [valueText_eq]
      exact .onState _
  | signed => exact (Demands.readMap _ _).bind_of_nothing fun _ => .pure _
  | unsigned radix => exact (Demands.readMap _ _).bind_of_nothing fun _ => .pure _
  | character => exact (Demands.read .int).bind_of_nothing fun _ => .pure _
  | text => exact (Demands.readMap .text _).bind_of_nothing fun _ => .pure _
  | pointer => exact (Demands.read .pointer).bind_of_nothing fun _ => .pure _
  | float style =>
      refine (Demands.read .double).bind_of_nothing fun argument => ?_
      cases layout.float? style ⟨argument.word⟩ with
      | some field => exact .pure _
      | none => exact .throw _
  | unknown letter => exact malformed_demands _
  | missing => exact malformed_demands _

theorem renderDirective_demands (d : Directive) :
    Demands (d.stars ++ (d.conversion.demand? d.length).getD [])
      (renderPiece (.directive d) : Trailing (Engine β) Bytes) := by
  rw [renderPiece_directive, Directive.stars, List.append_assoc]
  exact (readWidth_demands d).bind fun _ =>
    (readPrecision_demands d).bind fun _ => convert_demands (d.layout _ _) d.conversion

theorem renderDirective_stuck {d : Directive} (malformed : d.conversion.demand? d.length = none)
    {s s' : Cursor × Engine β} {text : Bytes} :
    (renderPiece (.directive d)).runOn s ≠ (.ok text, s') := by
  intro ran
  rw [renderPiece_directive] at ran
  obtain ⟨_, _, _, ran⟩ := Proc.runOn_bind_eq_ok.mp ran
  obtain ⟨_, _, _, ran⟩ := Proc.runOn_bind_eq_ok.mp ran
  cases conversion : d.conversion with
  | unknown letter =>
      rw [conversion] at ran
      exact malformed_stuck ran
  | missing =>
      rw [conversion] at ran
      exact malformed_stuck ran
  | _ =>
      rw [conversion] at malformed
      cases malformed

theorem renderPieces_demands (pieces : List Piece) :
    Demands (demandOf pieces) (renderPieces pieces : Trailing (Engine β) Bytes) := by
  induction pieces with
  | nil => exact .pure []
  | cons piece rest ih =>
      rw [renderPieces_cons]
      cases piece with
      | literal b => exact (Demands.pure [b]).bind fun _ => ih.bind_of_nothing fun _ => .pure _
      | directive d =>
          have front := @renderDirective_demands β d
          rw [demandOf]
          cases own : d.conversion.demand? d.length with
          | some kinds =>
              rw [own, Option.getD_some] at front
              have whole := front.bind fun text =>
                ih.bind_of_nothing fun behind => .pure (text ++ behind)
              rwa [List.append_assoc] at whole
          | none =>
              rw [own, Option.getD_none, List.append_nil] at front
              exact front.bind_of_stuck (renderDirective_stuck own)

theorem render_demands (format : Bytes) :
    Demands (demanded format) (render format : Trailing (Engine β) Bytes) := by
  rw [← demandOf_pieces]
  exact renderPieces_demands (pieces format)

/-- `render` reads exactly the arguments that `demanded format` lists, each as the kind listed, and
no others make a difference.  Where it fails, its attempts are a prefix of that list. -/
theorem render_reads_demanded (format : Bytes) (engine : Engine β) (cursor : Cursor) :
    let kinds := demanded format
    match (render format).runOn (cursor, engine) with
    | (.ok text, after, engine') =>
        let taken := cursor.rest.take kinds.length
        Argument.AllFit taken kinds ∧
        after = cursor.past kinds (cursor.rest.drop kinds.length) ∧
        ∀ others, (render format).runOn ({ cursor with rest := taken ++ others }, engine) =
          (.ok text, cursor.past kinds others, engine')
    | (.error _, after, _) =>
        ∃ attempted, attempted <+: kinds ∧ after.attempts = cursor.attempts ++ attempted := by
  intro kinds
  have demands := @render_demands β format
  cases ran : (render format).runOn (cursor, engine) with
  | mk result s =>
      obtain ⟨after, engine'⟩ := s
      cases result with
      | error exit => exact demands.left ran
      | ok text =>
          obtain ⟨taken, rest, split, fit, anyway⟩ := demands.returned ran
          have counted : taken.length = kinds.length := fit.length_eq
          have front : cursor.rest.take kinds.length = taken := by
            rw [split, ← counted, List.take_left]
          have behind : cursor.rest.drop kinds.length = rest := by
            rw [split, ← counted, List.drop_left]
          have again := anyway rest
          rw [← split, ran] at again
          refine ⟨front.symm ▸ fit, ?_, front.symm ▸ anyway⟩
          rw [behind]
          exact congrArg (·.2.1) again

example :
    let arguments : List Argument := [.integer 4, .integer 7, .null, .pointer 1]
    let s := (render (octets "%*d%s%.*q%c")).runOn (.start arguments, ({} : Engine Unit))
    s.2.1.attempts = [.int, .int, .text, .int] ∧ s.2.1.position = 3 := by
  decide

end Format

end NativeGate
