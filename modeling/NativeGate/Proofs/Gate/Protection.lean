import NativeGate.Proofs.Gate.Protected
import NativeGate.Proofs.Program.Run

namespace NativeGate.Protected

open NativeGate

variable {α β ω : Type}

def protectThenJump (cell : StateCell ω) (body : Native β ω Value) : Native β ω Value := do
  let v ← protectInto (some cell) body
  let state := cell.read (← get).program
  if state = 0 then return v else jump state

theorem runOn_protectThenJump (cell : StateCell ω) (body : Native β ω Value) (gate : Gate β ω) :
    (protectThenJump cell body).runOn gate =
      match (protectInto (some cell) body).runOn gate with
      | (.ok v, after) =>
          (if cell.read after.program = 0 then pure v
            else jump (cell.read after.program)).runOn after
      | (.error exit, after) => (.error exit, after) := by
  rw [protectThenJump, Proc.runOn_bind]
  rcases (protectInto (some cell) body).runOn gate with ⟨exit | v, after⟩ <;> rfl

theorem runOn_jump {gate : Gate β ω} {scope : Scope} (current : gate.context.current? = some scope)
    (unpinned : (gate.engine scope.engine).pinned = [])
    (raised : gate.errinfo scope.engine ≠ .nil) {state : Int} (nonzero : state ≠ 0) :
    ((jump state : Native β ω α).runOn gate).1 =
      .error (.raised (gate.errinfo scope.engine)) := by
  have refused : ¬(state = 0 ∨ (gate.errinfo scope.engine).isNil) := by
    simpa [nonzero, Value.isNil] using raised
  have asked : (exceptionOfState state : Native β ω Value).runOn gate =
      (.ok (gate.errinfo scope.engine), gate.noted scope.engine [Operation.errinfo.name]) := by
    rw [exceptionOfState, Native.onEngine,
      Proc.runOn_bind_of_ok (Native.runOn_engineNumber current)]
    apply Native.runOn_atEngine_of_host
    rw [Proc.runOn_bind_of_ok (Engine.runOn_perform_of_value unpinned (Host.invoke_errinfo _))]
    exact congrArg (Proc.runOn · _) (if_neg refused)
  rw [jump, Proc.runOn_bind_of_ok (Native.raising_eq_ok.mpr asked), Proc.runOn_throw]

@[simp] theorem read_withState (gate : Gate β ω) (cell : StateCell ω) (state : Int) :
    cell.read (gate.withState (some cell) state).program = state :=
  cell.read_write state gate.program

@[simp] theorem errinfo_withState (gate : Gate β ω) (cell : Option (StateCell ω)) (state : Int) :
    (gate.withState cell state).errinfo = gate.errinfo := by
  cases cell <;> rfl

section Protecting

variable {gate : Gate β ω} (hosted : gate.Hosted) {scope : Scope}
  (current : gate.context.current? = some scope) {body : Native β ω Value}
  (native : body.Callback) (balanced : body.Balanced) (cell : StateCell ω)

include hosted current native balanced

theorem protectInto_of_raised {exception : Value} {caught : Gate β ω}
    (ran : body.runOn gate = (.error (.raised exception), caught)) :
    ∃ after, (protectInto (some cell) body).runOn gate = (.ok .nil, after) ∧
      after.Hosted ∧ after.context.current? = some scope ∧
      cell.read after.program = raisedState ∧ after.errinfo scope.engine = exception := by
  have restored := balanced gate
  rw [ran] at restored
  have still := (restored.resolve_left nofun).current? current
  have caughtHosted := native.hosted ran hosted
  refine ⟨_, runOn_protectInto_of_raised _ ran still (caughtHosted _), ?_, still,
    read_withState _ _ _, ?_⟩
  · exact caughtHosted.withErrinfo _ _ _
  · rw [errinfo_withState, Gate.errinfo_withErrinfo]

theorem protectThenJump_exit {ended : Except Exit Value} {left : Gate β ω}
    (ran : body.runOn gate = (ended, left)) (other : ended ≠ .error (.raised .nil)) :
    ((protectThenJump cell body).runOn gate).1 = ended := by
  rw [runOn_protectThenJump]
  rcases ended with exit | v
  · cases exit with
    | raised exception =>
        obtain ⟨after, stopped, afterHosted, still, state, errinfo⟩ :=
          protectInto_of_raised hosted current native balanced cell ran
        have raised : after.errinfo scope.engine ≠ .nil := by
          rw [errinfo]
          rintro rfl
          exact other rfl
        rw [stopped]
        dsimp only
        rw [state, if_neg (by decide), runOn_jump still (afterHosted _) raised (by decide), errinfo]
    | failed fault => exact absurd rfl (native.not_failed ran fault)
    | _ => rw [runOn_protectInto_of_not_raised (some cell) ran nofun nofun]
  · rw [runOn_protectInto_of_ok (some cell) ran]
    dsimp only
    rw [read_withState, if_pos rfl, Proc.runOn_pure]

/-- `rb_protect` and then `rb_jump_tag` end as the body does, unless it raises nil.  Errinfo and the
state tell of an exception that was raised, and of nothing else. -/
theorem protectThenJump_refines :
    (∀ ended left, body.runOn gate = (ended, left) → ended ≠ .error (.raised .nil) →
      ((protectThenJump cell body).runOn gate).1 = ended) ∧
    (∀ v left, body.runOn gate = (.ok v, left) →
      ∃ after, (protectInto (some cell) body).runOn gate = (.ok v, after) ∧
        cell.read after.program = 0 ∧ after.errinfo = left.errinfo) ∧
    (∀ exception left, body.runOn gate = (.error (.raised exception), left) →
      ∃ after, (protectInto (some cell) body).runOn gate = (.ok .nil, after) ∧
        cell.read after.program ≠ 0 ∧ after.errinfo scope.engine = exception) ∧
    ∀ exit left, body.runOn gate = (.error exit, left) → exit.IsUnrescuable →
      (protectInto (some cell) body).runOn gate = (.error exit, left) := by
  refine ⟨fun ended left => protectThenJump_exit hosted current native balanced cell, ?_, ?_, ?_⟩
  · intro v left ran
    exact ⟨_, runOn_protectInto_of_ok _ ran, read_withState _ _ _, errinfo_withState _ _ _⟩
  · intro exception left ran
    obtain ⟨after, stopped, -, -, state, errinfo⟩ :=
      protectInto_of_raised hosted current native balanced cell ran
    exact ⟨after, stopped, by rw [state]; decide, errinfo⟩
  · intro exit left ran unrescuable
    exact runOn_protectInto_of_not_raised _ ran unrescuable.not_raised unrescuable.not_failed

end Protecting

theorem protectThenJump_refines_ok_raised_fatal :
    let program (call : Call) : Programmed Value :=
      Script.run (.mk [.mk none call] (.value .yes)) []
    let raising := program (.raise (.raise (.value .no)))
    let fatal := program (.variadic (.fatal (octets "fatal")) [] false)
    ((protectThenJump Registers.stateCell (program (.string .abiVersion))).runOn
      (.installed {})).1 = .ok .yes ∧
    ((protectThenJump Registers.stateCell raising).runOn (.installed {})).1 =
      .error (.raised .no) ∧
    (∃ after, (protectInto (some Registers.stateCell) raising).runOn (.installed {}) =
      (.ok .nil, after) ∧ after.errinfo 0 = .no) ∧
    ((protectInto (some Registers.stateCell) fatal).runOn (.installed {})).1 =
      .error (.fatal (.handle 21)) := by
  intro program raising fatal
  have hosted : (Gate.installed {} : Gate Script Registers).Hosted := Gate.installed_hosted _ {}
  have fit (call : Call) (alone : call.parts = []) (quiet : ¬ call.Yields)
      (pinless : ¬ call.Pins) (still : ¬ call.Scopes) :
      (program call).Callback ∧ (program call).Balanced :=
    ⟨Script.All.callback (.single ⟨quiet, pinless⟩ alone _ _) [],
      Script.All.balanced (.single ⟨quiet, still⟩ alone _ _) []⟩
  obtain ⟨native, balanced⟩ := fit (.string .abiVersion) rfl id id id
  obtain ⟨returns, -⟩ :=
    protectThenJump_refines hosted rfl native balanced Registers.stateCell
  obtain ⟨native, balanced⟩ := fit (.raise (.raise (.value .no))) rfl id id id
  obtain ⟨raisesAgain, -, raises, -⟩ :=
    protectThenJump_refines hosted rfl native balanced Registers.stateCell
  obtain ⟨native, balanced⟩ :=
    fit (.variadic (.fatal (octets "fatal")) [] false) rfl id id id
  obtain ⟨-, -, -, unwinds⟩ :=
    protectThenJump_refines hosted rfl native balanced Registers.stateCell
  obtain ⟨after, stopped, -, errinfo⟩ := raises _ _ rfl
  exact ⟨returns _ _ rfl nofun, raisesAgain _ _ rfl (by decide), ⟨after, stopped, errinfo⟩,
    congrArg Prod.fst (unwinds _ _ rfl trivial)⟩

end NativeGate.Protected
