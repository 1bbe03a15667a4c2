import NativeGate.Gate.Basic
import NativeGate.Proofs.Engine
import NativeGate.Proofs.Trailing

namespace NativeGate

/-! Calls through the gate reach the current engine and nothing else. -/

variable {α β ω : Type}

namespace Gate

@[simp] theorem engine_setEngine (gate : Gate β ω) (number : Nat) (engine : Engine β) :
    (gate.setEngine number engine).engine number = engine := by
  simp [setEngine, Gate.engine]

@[simp] theorem context_setEngine (gate : Gate β ω) (number : Nat) (engine : Engine β) :
    (gate.setEngine number engine).context = gate.context := rfl

@[simp] theorem engine_setEngine_of_ne (gate : Gate β ω) {number other : Nat}
    (distinct : other ≠ number) (engine : Engine β) :
    (gate.setEngine number engine).engine other = gate.engine other := by
  have missed : (other == number) = false := beq_false_of_ne distinct
  have kept : (gate.engines.filter (·.1 ≠ number)).lookup other = gate.engines.lookup other := by
    induction gate.engines with
    | nil => rfl
    | cons entry rest ih =>
        obtain ⟨key, stored⟩ := entry
        by_cases same : key = number
        · subst key
          simpa [List.lookup_cons, missed] using ih
        · simp only [ne_eq, decide_not] at ih
          simp [List.lookup_cons, same, ih]
  simp only [setEngine, Gate.engine, List.lookup_cons, missed, kept]

@[simp] theorem setEngine_setEngine (gate : Gate β ω) (number : Nat) (first second : Engine β) :
    (gate.setEngine number first).setEngine number second = gate.setEngine number second := by
  simp [setEngine, List.filter_filter]

def changeHost (gate : Gate β ω) (number : Nat) (change : Host → Host) : Gate β ω :=
  gate.setEngine number
    { gate.engine number with host := change (gate.engine number).host }

@[simp] theorem context_changeHost (gate : Gate β ω) (number : Nat) (change : Host → Host) :
    (gate.changeHost number change).context = gate.context := rfl

@[simp] theorem engine_changeHost (gate : Gate β ω) (number : Nat) (change : Host → Host) :
    (gate.changeHost number change).engine number =
      { gate.engine number with host := change (gate.engine number).host } :=
  engine_setEngine ..

theorem engine_changeHost_of_ne (gate : Gate β ω) {number other : Nat}
    (distinct : other ≠ number) (change : Host → Host) :
    (gate.changeHost number change).engine other = gate.engine other :=
  engine_setEngine_of_ne gate distinct _

@[simp] theorem pinned_changeHost (gate : Gate β ω) (number other : Nat) (change : Host → Host) :
    ((gate.changeHost number change).engine other).pinned = (gate.engine other).pinned := by
  by_cases same : other = number
  · subst other
    rw [engine_changeHost]
  · rw [engine_changeHost_of_ne gate same]

theorem changeHost_changeHost (gate : Gate β ω) (number : Nat) (first second : Host → Host) :
    (gate.changeHost number first).changeHost number second =
      gate.changeHost number (second ∘ first) := by
  simp [changeHost]

/-- Calls are routed to an engine with this host, and nothing is pinned on it. -/
def Routes (gate : Gate β ω) (host : Host) : Prop :=
  ∃ scope, gate.context.current? = some scope ∧
    (gate.engine scope.engine).host = host ∧ (gate.engine scope.engine).pinned = []

/-- A gate on which nothing but the installation of an engine has happened. -/
def installed (program : ω) (settings : Settings := {}) : Gate β ω where
  context := { installed := some { engine := 0, settings } }
  program

theorem installed_routes (program : ω) (settings : Settings) :
    (installed program settings : Gate β ω).Routes .new :=
  ⟨{ engine := 0, settings }, rfl, rfl, rfl⟩

theorem installed_current? (program : ω) (settings : Settings) :
    (installed program settings : Gate β ω).current? = some {} := rfl

end Gate

namespace Native

theorem runOn_atEngine (number : Nat) (p : Proc (Engine β) α) (gate : Gate β ω) :
    (atEngine number p).runOn gate =
      ((p.runOn (gate.engine number)).1,
        gate.setEngine number (p.runOn (gate.engine number)).2) := rfl

theorem runOn_atEngine_of_host {number : Nat} {p : Proc (Engine β) α} {gate : Gate β ω}
    {result : Except Exit α} {change : Host → Host}
    (ran : p.runOn (gate.engine number) =
      (result, { gate.engine number with host := change (gate.engine number).host })) :
    (atEngine number p).runOn gate = (result, gate.changeHost number change) := by
  rw [runOn_atEngine, ran]
  rfl

theorem runOn_atEngine_of_answers {gate : Gate β ω} {number : Nat} {p : Proc (Engine β) α} {a : α}
    {after : Host} (unpinned : (gate.engine number).pinned = [])
    (answers : Engine.Answers p (gate.engine number).host a after) :
    (atEngine number p : Native β ω α).runOn gate =
      (.ok a, gate.changeHost number fun _ => after) :=
  runOn_atEngine_of_host (answers _ rfl unpinned)

theorem runOn_engineNumber {gate : Gate β ω} {scope : Scope}
    (current : gate.context.current? = some scope) :
    (engineNumber : Native β ω Nat).runOn gate = (.ok scope.engine, gate) := by
  rw [engineNumber, Proc.runOn_bind, Proc.runOn_get]
  simp [current]

theorem runOn_onEngine {gate : Gate β ω} {scope : Scope}
    (current : gate.context.current? = some scope) (p : Proc (Engine β) α) :
    (onEngine p : Native β ω α).runOn gate =
      ((p.runOn (gate.engine scope.engine)).1,
        gate.setEngine scope.engine (p.runOn (gate.engine scope.engine)).2) := by
  rw [onEngine, Proc.runOn_bind_of_ok (runOn_engineNumber current), runOn_atEngine]

theorem onEngine_ran {gate gate' : Gate β ω} {scope : Scope}
    (current : gate.context.current? = some scope) {p : Proc (Engine β) α}
    {result : Except Exit α} (ran : (onEngine p : Native β ω α).runOn gate = (result, gate')) :
    ∃ engine, p.runOn (gate.engine scope.engine) = (result, engine) ∧
      gate' = gate.setEngine scope.engine engine := by
  rw [runOn_onEngine current] at ran
  cases ran
  exact ⟨_, rfl, rfl⟩

theorem onEngine_of_routes {gate : Gate β ω} {host after : Host} (routed : gate.Routes host)
    {p : Proc (Engine β) α} {result : Except Exit α}
    (runs : ∀ engine : Engine β, engine.host = host → engine.pinned = [] →
      p.runOn engine = (result, { engine with host := after })) :
    ∃ gate', (onEngine p : Native β ω α).runOn gate = (result, gate') ∧ gate'.Routes after := by
  obtain ⟨scope, current, hasHost, unpinned⟩ := routed
  rw [runOn_onEngine current, runs _ hasHost unpinned]
  exact ⟨_, rfl, scope, current, by simp, by simpa using unpinned⟩

theorem onEngine_newString {gate : Gate β ω} {host : Host} (routed : gate.Routes host)
    (bytes : Bytes) (encoding : Encoding) :
    ∃ gate', (onEngine (Engine.newString bytes encoding) : Native β ω Value).runOn gate =
        (.ok (host.newString bytes encoding).1, gate') ∧
      gate'.Routes (host.newString bytes encoding).2 :=
  onEngine_of_routes routed (Engine.newString_answers host bytes encoding)

theorem onEngine_perform {gate : Gate β ω} {host after : Host} (routed : gate.Routes host)
    {op : Operation} {args : List Value} {v : Value}
    (replied : host.invoke op.name args = (.value v, after)) :
    ∃ gate', (onEngine (Engine.perform op args) : Native β ω Value).runOn gate = (.ok v, gate') ∧
      gate'.Routes after :=
  onEngine_of_routes routed (Engine.perform_answers replied)

theorem raiseFault_ne_ok (fault : Fault) (gate gate' : Gate β ω) (a : α) :
    (raiseFault fault : Native β ω α).runOn gate ≠ (.ok a, gate') := by
  rw [raiseFault, Proc.runOn_bind, Proc.runOn_get]
  dsimp only
  cases gate.context.current? with
  | none => simp [abort]
  | some scope =>
      cases fault.counterpart with
      | existing exception => simp
      | fresh kind message => simp [Proc.runOn_bind, runOn_atEngine, Engine.runOn_newException]
      | missing => simp [abort]

theorem runOn_raiseFault {gate : Gate β ω} {scope : Scope}
    (current : gate.context.current? = some scope) (fault : Fault) :
    (raiseFault fault : Native β ω α).runOn gate =
      match fault.counterpart with
      | .existing exception => (.error (.raised exception), gate)
      | .fresh kind message =>
          (.error (.raised ((gate.engine scope.engine).host.newException kind message).1),
            gate.changeHost scope.engine (·.newException kind message |>.2))
      | .missing => (.error .aborted, gate) := by
  rw [raiseFault, Proc.runOn_bind, Proc.runOn_get]
  simp only [current]
  cases fault.counterpart with
  | existing exception => rfl
  | fresh kind message =>
      dsimp only
      rw [Proc.runOn_bind, runOn_atEngine, Engine.runOn_newException]
      rfl
  | missing => rfl

theorem raising_eq_ok {p : Native β ω α} {gate gate' : Gate β ω} {a : α} :
    (raising p).runOn gate = (.ok a, gate') ↔ p.runOn gate = (.ok a, gate') := by
  rw [raising, Proc.runOn_bind, Proc.runOn_catchFault]
  rcases p.runOn gate with ⟨exit | b, after⟩
  · cases exit with
    | failed fault => simpa using raiseFault_ne_ok fault after gate' a
    | _ => simp
  · simp

/-- Through any gate to the host the call returns `a`, and the gate then leads to `after`. -/
def Answers (call : Native β ω α) (host : Host) (a : α) (after : Host) : Prop :=
  ∀ gate : Gate β ω, gate.Routes host →
    ∃ gate', call.runOn gate = (.ok a, gate') ∧ gate'.Routes after

section Answers

variable {γ : Type} {host middle after : Host} {a : α}

theorem Answers.pure (host : Host) (a : α) :
    Answers (Pure.pure a : Native β ω α) host a host :=
  fun gate routed => ⟨gate, rfl, routed⟩

theorem Answers.bind {call : Native β ω α} {next : α → Native β ω γ} {c : γ}
    (first : Answers call host a middle) (rest : Answers (next a) middle c after) :
    Answers (call >>= next) host c after := by
  intro gate routed
  obtain ⟨between, ran, routedBetween⟩ := first gate routed
  rw [Proc.runOn_bind_of_ok ran]
  exact rest between routedBetween

theorem Answers.raising {call : Native β ω α} (answers : Answers call host a after) :
    Answers (raising call) host a after := by
  intro gate routed
  obtain ⟨gate', ran, routedAfter⟩ := answers gate routed
  exact ⟨gate', raising_eq_ok.mpr ran, routedAfter⟩

theorem onEngine_answers {p : Proc (Engine β) α} (answers : Engine.Answers p host a after) :
    Answers (onEngine p : Native β ω α) host a after :=
  fun _ routed => onEngine_of_routes routed answers

end Answers

end Native

namespace Variadic

theorem runOn_raising (p : Variadic β ω α) (s : Cursor × Gate β ω) :
    (raising p).runOn s =
      match p.runOn s with
      | (.error (.failed fault), cursor, after) =>
          (((Native.raiseFault fault : Native β ω α).runOn after).1, cursor,
            ((Native.raiseFault fault : Native β ω α).runOn after).2)
      | (result, after) => (result, after) := by
  rw [raising, Proc.runOn_bind, Proc.runOn_catchFault]
  rcases p.runOn s with ⟨exit | a, after⟩
  · cases exit <;> rfl
  · rfl

theorem runOn_engineNumber {gate : Gate β ω} {scope : Scope}
    (current : gate.context.current? = some scope) (cursor : Cursor) :
    (Trailing.onState (Native.engineNumber : Native β ω Nat)).runOn (cursor, gate) =
      (.ok scope.engine, cursor, gate) := by
  rw [Trailing.runOn_onState, Native.runOn_engineNumber current]

theorem onEngine_of_current {gate : Gate β ω} {engine after : Engine β} {cursor rest : Cursor}
    (current : gate.current? = some engine) {p : Trailing (Engine β) α} {result : Except Exit α}
    (ran : p.runOn (cursor, engine) = (result, rest, after)) :
    ∃ gate', (onEngine p : Variadic β ω α).runOn (cursor, gate) = (result, rest, gate') ∧
      gate'.current? = some after ∧ gate'.context = gate.context := by
  obtain ⟨scope, routed, rfl⟩ := Option.map_eq_some_iff.mp current
  refine ⟨gate.setEngine scope.engine after, ?_, ?_, rfl⟩
  · change (Trailing.onState Native.engineNumber >>= _).runOn (cursor, gate) = _
    rw [Proc.runOn_bind_of_ok (runOn_engineNumber routed cursor), atEngine, Trailing.zoomState,
      Proc.runOn_zoom, ran]
  · simp [Gate.current?, routed]

end Variadic

end NativeGate
