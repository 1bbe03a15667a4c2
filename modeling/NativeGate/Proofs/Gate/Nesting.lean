import NativeGate.Gate.Blocks
import NativeGate.Proofs.Gate.Clause

namespace NativeGate.Protected

open NativeGate

/-! Nested `rb_ensure`, `rb_rescue`, `rb_rescue2`, `rb_protect` and blocks. -/

variable {β ω : Type}

inductive Frame (β ω : Type)
  | rescue (clause : Clause) (handler : Option (Value → Native β ω Value))
  | protect (cell : Option (StateCell ω))
  | ensure (cleanup : Native β ω Value)
  | withBlock (number : Nat) (block : β)

namespace Frame

def around (frame : Frame β ω) (body : Native β ω Value) : Native β ω Value :=
  match frame with
  | .rescue clause handler => clause.rescuing body handler
  | .protect cell => protectInto cell body
  | .ensure cleanup => Protected.ensure body cleanup
  | .withBlock number block => Blocks.withBlockOn number block body

/-- The gate on which a frame runs its body. -/
inductive Enters (gate : Gate β ω) : Frame β ω → Gate β ω → Prop
  | rescue {clause : Clause} {classes : List Value} {start : Gate β ω}
      (enters : clause.Enters gate classes start)
      (handler : Option (Value → Native β ω Value)) : Enters gate (.rescue clause handler) start
  | protect (cell : Option (StateCell ω)) : Enters gate (.protect cell) gate
  | ensure (cleanup : Native β ω Value) : Enters gate (.ensure cleanup) gate
  | withBlock (number : Nat) (block : β) :
      Enters gate (.withBlock number block)
        (gate.setEngine number ((gate.engine number).pushBlock block))

/-- What a frame does to a gate that an unwinding body has left, if the cleanup returns. -/
inductive Passes (left : Gate β ω) : Frame β ω → Gate β ω → Prop
  | rescue (clause : Clause) (handler : Option (Value → Native β ω Value)) :
      Passes left (.rescue clause handler) left
  | protect (cell : Option (StateCell ω)) : Passes left (.protect cell) left
  | ensure {cleanup : Native β ω Value} {v : Value} {after : Gate β ω}
      (returned : cleanup.runOn left = (.ok v, after)) : Passes left (.ensure cleanup) after
  | withBlock (number : Nat) (block : β) :
      Passes left (.withBlock number block)
        (left.setEngine number (left.engine number).popBlock)

theorem runOn_withBlockOn (number : Nat) (block : β) (body : Native β ω Value) (gate : Gate β ω) :
    (Blocks.withBlockOn number block body).runOn gate =
      (body.ensuring (Native.atEngine number (modify (·.popBlock)))).runOn
        (gate.setEngine number ((gate.engine number).pushBlock block)) := by
  rw [Blocks.withBlockOn, Proc.runOn_bind, Native.runOn_atEngine, Proc.runOn_modify]

theorem around_congr {frame : Frame β ω} {gate start : Gate β ω} (enters : frame.Enters gate start)
    {body other : Native β ω Value} (same : body.runOn start = other.runOn start) :
    (frame.around body).runOn gate = (frame.around other).runOn gate := by
  cases enters with
  | rescue enters handler =>
      rw [around, around, Clause.runOn_rescuing enters, Clause.runOn_rescuing enters,
        Native.runOn_raising, Native.runOn_raising, runOn_rescueAny, runOn_rescueAny, same]
  | protect cell =>
      rw [around, around, runOn_protectInto, runOn_protectInto, Native.runOn_raising,
        Native.runOn_raising, runOn_protect, runOn_protect, same]
  | ensure cleanup =>
      rw [around, around, Protected.ensure, Protected.ensure, Proc.runOn_ensuring,
        Proc.runOn_ensuring, same]
  | withBlock number block =>
      rw [around, around, runOn_withBlockOn, runOn_withBlockOn, Proc.runOn_ensuring,
        Proc.runOn_ensuring, same]

theorem enters_or_const (frame : Frame β ω) (gate : Gate β ω) :
    (∃ start, frame.Enters gate start) ∨
      ∀ body other, (frame.around body).runOn gate = (frame.around other).runOn gate := by
  cases frame with
  | rescue clause handler =>
      obtain ⟨classes, start, enters⟩ | ⟨ended, const⟩ := clause.enters_or_const gate
      · exact .inl ⟨start, .rescue enters handler⟩
      · exact .inr fun body other => (const body handler).trans (const other handler).symm
  | protect cell => exact .inl ⟨_, .protect cell⟩
  | ensure cleanup => exact .inl ⟨_, .ensure cleanup⟩
  | withBlock number block => exact .inl ⟨_, .withBlock number block⟩

theorem around_unwinds {frame : Frame β ω} {gate start left after : Gate β ω}
    (enters : frame.Enters gate start) (passes : frame.Passes left after)
    {body : Native β ω Value} {exit : Exit} (ran : body.runOn start = (.error exit, left))
    (unrescuable : exit.IsUnrescuable) : (frame.around body).runOn gate = (.error exit, after) := by
  cases enters with
  | rescue enters handler =>
      cases passes
      exact Clause.runOn_rescuing_of_not_raised enters ran unrescuable.not_raised
        unrescuable.not_failed handler
  | protect cell =>
      cases passes
      exact runOn_protectInto_of_not_raised cell ran unrescuable.not_raised unrescuable.not_failed
  | ensure cleanup =>
      cases passes with
      | ensure returned =>
          rw [around, runOn_ensure_of_alive ran unrescuable.alive, returned]
  | withBlock number block =>
      cases passes
      rw [around, runOn_withBlockOn, Proc.runOn_ensuring_of_alive ran unrescuable.alive,
        Native.runOn_atEngine, Proc.runOn_modify]

end Frame

def nest (frames : List (Frame β ω)) (body : Native β ω Value) : Native β ω Value :=
  frames.foldr Frame.around body

@[simp] theorem nest_cons (frame : Frame β ω) (frames : List (Frame β ω))
    (body : Native β ω Value) : nest (frame :: frames) body = frame.around (nest frames body) := rfl

theorem nest_append (outer inner : List (Frame β ω)) (body : Native β ω Value) :
    nest (outer ++ inner) body = nest outer (nest inner body) :=
  List.foldr_append

inductive Reaches : Gate β ω → List (Frame β ω) → Gate β ω → Prop
  | nil (gate : Gate β ω) : Reaches gate [] gate
  | cons {gate middle start : Gate β ω} {frame : Frame β ω} {frames : List (Frame β ω)}
      (enters : frame.Enters gate middle) (rest : Reaches middle frames start) :
      Reaches gate (frame :: frames) start

/-- The innermost frame comes first, and every cleanup returns. -/
inductive Unwound (left : Gate β ω) : List (Frame β ω) → Gate β ω → Prop
  | nil : Unwound left [] left
  | cons {middle after : Gate β ω} {frame : Frame β ω} {frames : List (Frame β ω)}
      (rest : Unwound left frames middle) (passes : frame.Passes middle after) :
      Unwound left (frame :: frames) after

/-- A cleanup leaves by `exit`, with the frames of `outer` still to be left. -/
inductive Interrupted (left : Gate β ω) (outer : List (Frame β ω)) (exit : Exit)
    (after : Gate β ω) : List (Frame β ω) → Prop
  | intro {cleanup : Native β ω Value} {inner : List (Frame β ω)} {middle : Gate β ω}
      (unwound : Unwound left inner middle)
      (ran : cleanup.runOn middle = (.error exit, after)) :
      Interrupted left outer exit after (outer ++ .ensure cleanup :: inner)

theorem Reaches.of_append {gate start : Gate β ω} {outer inner : List (Frame β ω)}
    (reaches : Reaches gate (outer ++ inner) start) :
    ∃ between, Reaches gate outer between ∧ Reaches between inner start := by
  induction outer generalizing gate with
  | nil => exact ⟨gate, .nil gate, reaches⟩
  | cons frame outer ih =>
      cases reaches with
      | cons enters rest =>
          obtain ⟨between, front, back⟩ := ih rest
          exact ⟨between, .cons enters front, back⟩

theorem nest_congr {gate start : Gate β ω} {frames : List (Frame β ω)}
    (reaches : Reaches gate frames start) {body other : Native β ω Value}
    (same : body.runOn start = other.runOn start) :
    (nest frames body).runOn gate = (nest frames other).runOn gate := by
  induction reaches with
  | nil => exact same
  | cons enters _ ih => exact Frame.around_congr enters (ih same)

theorem nest_unwinds {gate start left after : Gate β ω} {frames : List (Frame β ω)}
    (reaches : Reaches gate frames start) (unwound : Unwound left frames after)
    {body : Native β ω Value} {exit : Exit} (ran : body.runOn start = (.error exit, left))
    (unrescuable : exit.IsUnrescuable) : (nest frames body).runOn gate = (.error exit, after) := by
  -- Frames are entered from the outermost and left from the innermost, so what the rest of them
  -- leaves differs from frame to frame.
  induction reaches generalizing after with
  | nil =>
      cases unwound
      exact ran
  | cons enters _ ih =>
      cases unwound with
      | cons rest passes => exact Frame.around_unwinds enters passes (ih rest ran) unrescuable

theorem unwound_or_interrupted (left : Gate β ω) (frames : List (Frame β ω)) :
    (∃ after, Unwound left frames after) ∨
      ∃ outer exit after, Interrupted left outer exit after frames := by
  induction frames with
  | nil => exact .inl ⟨left, .nil⟩
  | cons frame frames ih =>
      obtain ⟨middle, unwound⟩ | ⟨outer, exit, after, interrupted⟩ := ih
      · cases frame with
        | rescue clause handler => exact .inl ⟨_, .cons unwound (.rescue clause handler)⟩
        | protect cell => exact .inl ⟨_, .cons unwound (.protect cell)⟩
        | withBlock number block => exact .inl ⟨_, .cons unwound (.withBlock number block)⟩
        | ensure cleanup =>
            cases ran : cleanup.runOn middle with
            | mk result after =>
                cases result with
                | ok v => exact .inl ⟨_, .cons unwound (.ensure ran)⟩
                | error exit => exact .inr ⟨[], exit, after, .intro unwound ran⟩
      · cases interrupted with
        | intro unwound ran => exact .inr ⟨frame :: outer, exit, after, .intro unwound ran⟩

theorem nest_interrupted {gate start left after : Gate β ω} {outer frames : List (Frame β ω)}
    (reaches : Reaches gate frames start) {pending exit : Exit}
    (interrupted : Interrupted left outer exit after frames) {body : Native β ω Value}
    (ran : body.runOn start = (.error pending, left)) (unrescuable : pending.IsUnrescuable) :
    ∃ between, Reaches gate outer between ∧
      ∀ other : Native β ω Value, other.runOn between = (.error exit, after) →
        (nest frames body).runOn gate = (nest outer other).runOn gate := by
  obtain @⟨cleanup, inner, middle, unwound, replaced⟩ := interrupted
  obtain ⟨between, front, back⟩ := reaches.of_append
  refine ⟨between, front, fun other same => ?_⟩
  have cleaned : (nest (.ensure cleanup :: inner) body).runOn between = (.error exit, after) := by
    cases back with
    | cons enters rest =>
        cases enters
        have unwinds := nest_unwinds rest unwound ran unrescuable
        rw [nest_cons, Frame.around, runOn_ensure_of_alive unwinds unrescuable.alive, replaced]
  rw [nest_append]
  exact nest_congr front (cleaned.trans same.symm)

theorem reaches_or_const (frames : List (Frame β ω)) (gate : Gate β ω) :
    (∃ start, Reaches gate frames start) ∨
      ∀ body other, (nest frames body).runOn gate = (nest frames other).runOn gate := by
  induction frames generalizing gate with
  | nil => exact .inl ⟨gate, .nil gate⟩
  | cons frame frames ih =>
      obtain ⟨middle, enters⟩ | const := frame.enters_or_const gate
      · obtain ⟨start, reaches⟩ | const := ih middle
        · exact .inl ⟨start, .cons enters reaches⟩
        · exact .inr fun body other => Frame.around_congr enters (const body other)
      · exact .inr fun body other => const _ _

theorem exists_reaches {frames : List (Frame β ω)}
    (terminated : ∀ arguments handler, Frame.rescue (.listed arguments) handler ∈ frames →
      ∃ classes, Cursor.Lists classes arguments (.ok classes))
    {gate : Gate β ω} {scope : Scope} (current : gate.context.current? = some scope)
    (unpinned : (gate.engine scope.engine).pinned = []) :
    ∃ start, Reaches gate frames start := by
  induction frames generalizing gate with
  | nil => exact ⟨gate, .nil gate⟩
  | cons frame frames ih =>
      have others := fun arguments handler member =>
        terminated arguments handler (List.mem_cons_of_mem frame member)
      have entered : ∃ middle, frame.Enters gate middle ∧
          middle.context.current? = some scope ∧ (middle.engine scope.engine).pinned = [] := by
        cases frame with
        | rescue clause handler =>
            cases clause with
            | standardErrors =>
                refine ⟨_, .rescue (Clause.enters_standardErrors current unpinned) handler,
                  current, ?_⟩
                rw [Gate.noted, Gate.pinned_changeHost, unpinned]
            | listed arguments =>
                obtain ⟨classes, lists⟩ := terminated arguments handler List.mem_cons_self
                exact ⟨_, .rescue (.listed lists) handler, current, unpinned⟩
        | protect cell => exact ⟨_, .protect cell, current, unpinned⟩
        | ensure cleanup => exact ⟨_, .ensure cleanup, current, unpinned⟩
        | withBlock number block =>
            refine ⟨_, .withBlock number block, current, ?_⟩
            by_cases same : scope.engine = number
            · subst number
              rw [Gate.engine_setEngine]
              exact unpinned
            · rw [Gate.engine_setEngine_of_ne gate same]
              exact unpinned
      obtain ⟨middle, enters, current, unpinned⟩ := entered
      obtain ⟨start, reaches⟩ := ih others current unpinned
      exact ⟨start, .cons enters reaches⟩

/-- What unwinds past every protected call leaves any nesting of them as it is: no handler runs, no
state is written, and each cleanup runs once, from the innermost outwards.  A cleanup that does not
return puts its own exit in the place of the pending one, from its frame on. -/
theorem unrescuable_unwinds (frames : List (Frame β ω)) (gate : Gate β ω) :
    ((∃ start, Reaches gate frames start) ∨
      ∀ body other, (nest frames body).runOn gate = (nest frames other).runOn gate) ∧
    (∀ scope, gate.context.current? = some scope → (gate.engine scope.engine).pinned = [] →
      (∀ arguments handler, Frame.rescue (.listed arguments) handler ∈ frames →
        ∃ classes, Cursor.Lists classes arguments (.ok classes)) →
      ∃ start, Reaches gate frames start) ∧
    ∀ start body exit left, Reaches gate frames start →
      body.runOn start = (.error exit, left) → exit.IsUnrescuable →
      ((∃ after, Unwound left frames after) ∨
        ∃ outer exit' after, Interrupted left outer exit' after frames) ∧
      (∀ after, Unwound left frames after → (nest frames body).runOn gate = (.error exit, after)) ∧
      ∀ outer exit' after, Interrupted left outer exit' after frames →
        ∃ between, Reaches gate outer between ∧
          ∀ other : Native β ω Value, other.runOn between = (.error exit', after) →
            (nest frames body).runOn gate = (nest outer other).runOn gate := by
  refine ⟨reaches_or_const frames gate, fun scope current unpinned terminated =>
    exists_reaches terminated current unpinned, ?_⟩
  intro start body exit left reaches ran unrescuable
  refine ⟨unwound_or_interrupted left frames, ?_, ?_⟩
  · exact fun after unwound => nest_unwinds reaches unwound ran unrescuable
  · exact fun outer exit' after interrupted => nest_interrupted reaches interrupted ran unrescuable

theorem unrescuable_unwinds_bug :
    let mark (n : Int) : Native Unit (List Int) Value := do
      modify fun gate => { gate with program := n :: gate.program }
      return .nil
    let cell : StateCell (List Int) :=
      { read := (·.headD 0), write := fun state program => state :: program
        read_write := fun _ _ => rfl }
    let frames : List (Frame Unit (List Int)) :=
      [.ensure (mark 2), .rescue .standardErrors (some fun _ => mark 9),
        .rescue (.listed [.value Builtin.fatal.value, .null]) (some fun _ => mark 8),
        .protect (some cell), .withBlock 0 (), .ensure (mark 1)]
    (∃ start, Reaches (.installed []) frames start) ∧
    (∃ after, (nest frames (throw (.bug []))).runOn (.installed []) = (.error (.bug []), after) ∧
      after.program = [2, 1]) ∧
    ∃ after : Gate Unit (List Int),
      (nest [.protect (some cell), .ensure (throw (.raised .yes))] (throw (.bug []))).runOn
        (.installed []) = (.ok .nil, after) ∧ after.program = [6] := by
  intro mark cell frames
  have lists : Cursor.Lists [Builtin.fatal.value] [.value Builtin.fatal.value, .null]
      (.ok [Builtin.fatal.value]) := .terminated (by decide) rfl rfl []
  have listed : ∀ arguments handler, Frame.rescue (.listed arguments) handler ∈ frames →
      ∃ classes, Cursor.Lists classes arguments (.ok classes) := by
    intro arguments handler member
    simp only [frames, List.mem_cons, List.not_mem_nil, reduceCtorEq, Frame.rescue.injEq,
      Clause.listed.injEq, false_and, false_or, or_false] at member
    exact ⟨_, member.1 ▸ lists⟩
  obtain ⟨-, come, through⟩ := unrescuable_unwinds frames (.installed [])
  refine ⟨come _ rfl rfl listed, ?_, ?_⟩
  · have asked := @Clause.enters_standardErrors Unit (List Int) (.installed []) _ rfl rfl
    have reaches : Reaches (.installed []) frames _ :=
      .cons (.ensure _) (.cons (.rescue asked _) (.cons (.rescue (.listed lists) _)
        (.cons (.protect _) (.cons (.withBlock 0 ()) (.cons (.ensure _) (.nil _))))))
    have unwound (left : Gate Unit (List Int)) : Unwound left frames _ :=
      .cons (.cons (.cons (.cons (.cons (.cons .nil (.ensure rfl)) (.withBlock 0 ()))
        (.protect _)) (.rescue _ _)) (.rescue _ _)) (.ensure rfl)
    have ran := (through _ (throw (.bug [])) (.bug []) _ reaches rfl trivial).2.1 _ (unwound _)
    refine ⟨_, ran, ?_⟩
    rfl
  · obtain ⟨-, -, through⟩ :=
      unrescuable_unwinds [.protect (some cell), .ensure (throw (.raised .yes))]
        (Gate.installed (β := Unit) ([] : List Int))
    obtain ⟨between, front, same⟩ :=
      (through _ (throw (.bug [])) (.bug []) _ (.cons (.protect _) (.cons (.ensure _) (.nil _))) rfl
        trivial).2.2 [.protect (some cell)] _ _ (.intro .nil rfl)
    cases front with
    | cons enters rest =>
        cases enters
        cases rest
        exact ⟨_, (same (throw (.raised .yes)) rfl).trans (Prod.ext rfl rfl), rfl⟩

end NativeGate.Protected
