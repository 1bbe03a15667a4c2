import NativeGate.Fault

namespace NativeGate

/-- How a call ends when it does not return. -/
inductive Exit
  /-- The caller is handed a fault, and nothing unwinds. -/
  | failed (fault : Fault)
  /-- `rb_rescue2` and `rb_protect` can stop it. -/
  | raised (exception : Value)
  /-- `rb_fatal`: nothing stops it. -/
  | fatal (exception : Value)
  | bug (report : Bytes)
  /-- Unwinding that the gate did not start. -/
  | foreign (report : Bytes)
  /-- The process is gone. -/
  | aborted
deriving DecidableEq, Repr

@[simp] def Exit.exception? : Exit → Option Value
  | .raised exception => some exception
  | _ => none

@[simp] def Exit.fault? : Exit → Option Fault
  | .failed fault => some fault
  | _ => none

/-- A call keeps what it did to the state, however it ends. -/
abbrev Proc (σ : Type) := ExceptT Exit (StateM σ)

namespace Proc

variable {σ τ α : Type}

def ofRun (run : σ → Except Exit α × σ) : Proc σ α :=
  ExceptT.mk fun s => pure (run s)

def runOn (p : Proc σ α) (s : σ) : Except Exit α × σ :=
  Id.run (StateT.run (ExceptT.run p) s)

@[simp] theorem runOn_ofRun (run : σ → Except Exit α × σ) (s : σ) :
    (ofRun run).runOn s = run s := rfl

@[simp] theorem runOn_pure (a : α) (s : σ) : (pure a : Proc σ α).runOn s = (.ok a, s) := rfl

@[simp] theorem runOn_throw (exit : Exit) (s : σ) :
    (throw exit : Proc σ α).runOn s = (.error exit, s) := rfl

theorem runOn_bind {β : Type} (p : Proc σ α) (next : α → Proc σ β) (s : σ) :
    (p >>= next).runOn s =
      match p.runOn s with
      | (.ok a, s) => (next a).runOn s
      | (.error exit, s) => (.error exit, s) := by
  have continued (r : Except Exit α × σ) :
      Id.run (ExceptT.bindCont next r.1 r.2) =
        match r with
        | (.ok a, s) => (next a).runOn s
        | (.error exit, s) => (.error exit, s) := by
    rcases r with ⟨_ | _, _⟩ <;> rfl
  exact continued (p.runOn s)

def zoom (get : σ → τ) (set : τ → σ → σ) (p : Proc τ α) : Proc σ α :=
  .ofRun fun s =>
    let (result, part) := p.runOn (get s)
    (result, set part s)

/-- The exit of a call as a value; `aborted` stays an exit. -/
def attempt (p : Proc σ α) : Proc σ (Except Exit α) :=
  .ofRun fun s =>
    match p.runOn s with
    | (.error .aborted, s) => (.error .aborted, s)
    | (result, s) => (.ok result, s)

/-- Exits for which `stopped?` has a value are caught. -/
@[simp] def stop {ε : Type} (stopped? : Exit → Option ε) : Except Exit α → Except Exit (Except ε α)
  | .ok a => .ok (.ok a)
  | .error exit =>
      match stopped? exit with
      | some stopped => .ok (.error stopped)
      | none => .error exit

def liftExcept : Except Exit α → Proc σ α
  | .ok a => pure a
  | .error exit => throw exit

def catching {ε : Type} (stopped? : Exit → Option ε) (p : Proc σ α) : Proc σ (Except ε α) := do
  liftExcept (stop stopped? (← p.attempt))

def catchRaise (p : Proc σ α) : Proc σ (Except Value α) :=
  p.catching Exit.exception?

def catchFault (p : Proc σ α) : Proc σ (Except Fault α) :=
  p.catching Exit.fault?

def ensuring (body : Proc σ α) (cleanup : Proc σ Unit) : Proc σ α := do
  let result ← body.attempt
  cleanup
  liftExcept result

def fail (fault : Fault) : Proc σ α :=
  throw (.failed fault)

end Proc

end NativeGate
