import NativeGate.Proofs.Format.Closure
import NativeGate.Proofs.Format.Scan

namespace NativeGate

variable {α β τ : Type}

def CursorFault.countedFrom (start : Nat) : CursorFault → CursorFault
  | .exhausted read => .exhausted (start + read)
  | .mismatch index expected passed => .mismatch (start + index) expected passed

def Exit.countedFrom (start : Nat) : Exit → Exit
  | .failed (.cursor fault) => .failed (.cursor (fault.countedFrom start))
  | exit => exit

def Cursor.behind (cursor prior : Cursor) : Cursor where
  rest := cursor.rest
  index := prior.index + cursor.index
  position := prior.position + cursor.position
  attempts := prior.attempts ++ cursor.attempts

theorem Cursor.next_behind (cursor prior : Cursor) (kind : ReadKind) :
    (cursor.behind prior).next kind =
      ((cursor.next kind).1.mapError (·.countedFrom prior.index),
        (cursor.next kind).2.behind prior) := by
  unfold next behind
  cases cursor.rest with
  | nil => simp [Except.mapError, CursorFault.countedFrom]
  | cons argument rest =>
      dsimp only
      split <;> simp [Except.mapError, CursorFault.countedFrom, Nat.add_assoc]

theorem Cursor.counts_next {cursor after : Cursor} {kind : ReadKind} {argument : Argument}
    (taken : cursor.next kind = (.ok argument, after)) :
    after.rest = cursor.rest.drop 1 ∧ after.index = cursor.index + 1 ∧
      after.position = cursor.position + 1 := by
  unfold next at taken
  cases front : cursor.rest with
  | nil => simp [front] at taken
  | cons _ rest =>
      simp only [front] at taken
      split at taken
      · cases taken
        exact ⟨rfl, rfl, rfl⟩
      · cases taken

namespace Trailing

def resumed (prior : Cursor) (ended : Except Exit α × Cursor × τ) : Except Exit α × Cursor × τ :=
  (ended.1.mapError (·.countedFrom prior.index), ended.2.1.behind prior, ended.2.2)

/-- What was read before makes no difference but for where faults are counted from. -/
def Resumes (p : Trailing τ α) : Prop :=
  ∀ prior cursor t, p.runOn (cursor.behind prior, t) = resumed prior (p.runOn (cursor, t))

theorem Resumes.bind {γ : Type} {p : Trailing τ α} {next : α → Trailing τ γ} (first : p.Resumes)
    (rest : ∀ a, (next a).Resumes) : (p >>= next).Resumes := by
  intro prior cursor t
  rw [Proc.runOn_bind, Proc.runOn_bind, first]
  rcases p.runOn (cursor, t) with ⟨exit | a, cursor', t'⟩
  · rfl
  · exact rest a prior cursor' t'

theorem onCursor_read_resumes (kind : ReadKind) :
    (onCursor (Cursor.read kind) : Trailing τ Argument).Resumes := by
  intro prior cursor t
  rw [runOn_onCursor, runOn_onCursor, Cursor.read, Proc.runOn_ofRun, Proc.runOn_ofRun,
    Cursor.next_behind]
  rcases cursor.next kind with ⟨fault | argument, after⟩ <;> rfl

theorem onState_resumes {p : Proc τ α}
    (apart : ∀ t exit after, p.runOn t = (.error exit, after) → ∀ fault,
      exit ≠ .failed (.cursor fault)) : (onState p).Resumes := by
  intro prior cursor t
  rw [runOn_onState, runOn_onState]
  cases ran : p.runOn t with
  | mk result after =>
      cases result with
      | ok a => rfl
      | error exit =>
          have other := apart t exit after ran
          have same : exit.countedFrom prior.index = exit := by
            cases exit with
            | failed fault =>
                cases fault with
                | cursor fault => exact absurd rfl (other fault)
                | _ => rfl
            | _ => rfl
          simp [resumed, Except.mapError, same]

/-- A call that returns has taken some of the arguments, each as what it was passed as. -/
def Counts (p : Trailing τ α) : Prop :=
  ∀ ⦃cursor t a after t'⦄, p.runOn (cursor, t) = (.ok a, after, t') → ∃ count,
    after.rest = cursor.rest.drop count ∧ after.index = cursor.index + count ∧
      after.position = cursor.position + count

theorem Counts.bind {γ : Type} {p : Trailing τ α} {next : α → Trailing τ γ} (first : p.Counts)
    (rest : ∀ a, (next a).Counts) : (p >>= next).Counts := by
  intro cursor t c after t' ran
  obtain ⟨a, ⟨between, t''⟩, front, back⟩ := Proc.runOn_bind_eq_ok.mp ran
  obtain ⟨m, rest', index', position'⟩ := first front
  obtain ⟨n, rest'', index'', position''⟩ := rest a back
  refine ⟨m + n, ?_, ?_, ?_⟩
  · rw [rest'', rest', List.drop_drop]
  · rw [index'', index', Nat.add_assoc]
  · rw [position'', position', Nat.add_assoc]

theorem onState_counts (p : Proc τ α) : (onState p).Counts := by
  intro cursor t a after t' ran
  rw [runOn_onState] at ran
  obtain ⟨-, same⟩ := Prod.mk.inj ran
  cases same
  exact ⟨0, rfl, rfl, rfl⟩

theorem onCursor_read_counts (kind : ReadKind) :
    (onCursor (Cursor.read kind) : Trailing τ Argument).Counts := by
  intro cursor t argument after t' ran
  obtain ⟨_, read, same⟩ := onCursor_eq_ok.mp ran
  cases same
  exact ⟨1, Cursor.counts_next (Cursor.read_eq_ok.mp read)⟩

end Trailing

theorem Engine.Raises.resumes {p : Proc (Engine β) α} (raises : Raises p) :
    (Trailing.onState p).Resumes := by
  refine Trailing.onState_resumes fun engine exit after ran fault => ?_
  obtain ⟨exception, rfl⟩ | rfl := raises ran <;> exact nofun

namespace Format

open Trailing

theorem resumes_closed : Closed (β := β) Resumes where
  pure a _ _ _ := rfl
  bind first rest := first.bind rest
  read := onCursor_read_resumes
  value flags v := by
    rw [valueText_eq]
    exact (valueText_raises flags v).resumes
  malformed message := (Engine.failWith_raises _ message).resumes
  tooPrecise _ _ _ := rfl

theorem counts_closed : Closed (β := β) Counts where
  pure a := by
    intro cursor t _ after t' ran
    cases ran
    exact ⟨0, rfl, rfl, rfl⟩
  bind first rest := first.bind rest
  read := onCursor_read_counts
  value flags v := onState_counts _
  malformed message := onState_counts _
  tooPrecise := by
    intro cursor t _ after t' ran
    cases ran

theorem renderPieces_append (front back : List Piece) :
    (renderPieces (front ++ back) : Trailing (Engine β) Bytes) =
      (renderPieces front >>= fun text => renderPieces back >>= fun more =>
        pure (text ++ more)) := by
  induction front with
  | nil =>
      change _ = (pure [] >>= fun text : Bytes => _)
      simp
  | cons piece rest ih =>
      rw [List.cons_append, renderPieces_cons, renderPieces_cons, ih]
      simp only [bind_assoc, pure_bind, List.append_assoc]

theorem renderPieces_missing {pieces : List Piece} {d : Directive}
    (broken : d.complete .missing ∈ pieces) {s after : Cursor × Engine β} {text : Bytes} :
    (renderPieces pieces).runOn s ≠ (.ok text, after) := by
  induction pieces generalizing s after text with
  | nil => cases broken
  | cons piece rest ih =>
      intro ran
      rw [renderPieces_cons] at ran
      obtain ⟨front, s', written, ran⟩ := Proc.runOn_bind_eq_ok.mp ran
      obtain ⟨back, s'', writtenRest, _⟩ := Proc.runOn_bind_eq_ok.mp ran
      obtain rfl | later := List.mem_cons.mp broken
      · change (renderPiece (.directive _)).runOn s = _ at written
        rw [renderPiece_directive] at written
        obtain ⟨_, _, _, written⟩ := Proc.runOn_bind_eq_ok.mp written
        obtain ⟨_, _, _, written⟩ := Proc.runOn_bind_eq_ok.mp written
        cases written
      · exact ih later writtenRest

/-- `format ++ more` is written as `format` is, and then `more` from where the arguments and the
engine stand; its faults count all arguments. -/
theorem render_append {format more : Bytes}
    (apart : ¬ (EndsInLongInteger format ∧ more.head? = some valueMark))
    {arguments : List Argument} {engine between : Engine β} {text : Bytes} {read : Cursor}
    (written : (render format).runOn (.start arguments, engine) = (.ok text, read, between)) :
    (render (format ++ more)).runOn (.start arguments, engine) =
      match (render more).runOn (.start (arguments.drop read.position), between) with
      | (.ok text', cursor, after) => (.ok (text ++ text'), cursor.behind read, after)
      | (.error exit, cursor, after) =>
          (.error (exit.countedFrom read.position), cursor.behind read, after) := by
  obtain ⟨count, rest, index, position⟩ := counts_closed.render format written
  have whole (d : Directive) : d.complete .missing ∉ pieces format :=
    fun broken => renderPieces_missing broken written
  have counted : read.index = read.position := index.trans position.symm
  have left : read.rest = arguments.drop read.position := by
    rw [rest, position]
    simp [Cursor.start]
  have same : (Cursor.start read.rest).behind read = read := by
    simp [Cursor.start, Cursor.behind]
  have resumed := resumes_closed.pieces (pieces more) read (.start read.rest) between
  rw [same, left] at resumed
  rw [render, pieces_append apart whole, renderPieces_append,
    Proc.runOn_bind_of_ok (p := renderPieces (pieces format)) written, Proc.runOn_bind, resumed,
    render, Trailing.resumed, counted]
  rcases (renderPieces (pieces more)).runOn _ with ⟨exit | text', cursor, after⟩ <;> rfl

theorem render_append_exhausted :
    ∃ (read cursor : Cursor) (engine : Engine Unit),
      (render (octets "%s, ")).runOn
        (.start [.text 4096 (octets "each"), .text 8192 (octets "map")], ({} : Engine Unit)) =
          (.ok (octets "each, "), read, engine) ∧
      (render (octets "%s, " ++ octets "%s%s")).runOn
        (.start [.text 4096 (octets "each"), .text 8192 (octets "map")], ({} : Engine Unit)) =
          (.error (.failed (.cursor (.exhausted 2))), cursor, engine) ∧
      cursor.position = 2 := by
  let arguments := [Argument.text 4096 (octets "each"), .text 8192 (octets "map")]
  have written : (render (octets "%s, ")).runOn (.start arguments, ({} : Engine Unit)) =
      (.ok (octets "each, "),
        { rest := arguments.drop 1, index := 1, position := 1, attempts := [.text] }, {}) := rfl
  have apart : ¬ (EndsInLongInteger (octets "%s, ") ∧
      (octets "%s%s").head? = some valueMark) := by
    rintro ⟨_, mark⟩
    exact absurd mark (by decide)
  exact ⟨_, _, {}, written, render_append apart written, rfl⟩

end Format

end NativeGate
