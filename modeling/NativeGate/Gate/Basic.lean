import NativeGate.Context
import NativeGate.Engine
import NativeGate.Memory
import NativeGate.Trailing

namespace NativeGate

/-! The gate: engines, the scopes that choose among them, and native memory.  `β` is what a block
is, and `ω` is what the native program itself keeps. -/

structure Gate (β ω : Type) where
  /-- Engines that have been used; all others are new. -/
  engines : List (Nat × Engine β) := []
  context : Context := {}
  memory : Memory := {}
  program : ω

namespace Gate

variable {β ω : Type}

def engine (gate : Gate β ω) (number : Nat) : Engine β :=
  (gate.engines.lookup number).getD {}

def setEngine (gate : Gate β ω) (number : Nat) (engine : Engine β) : Gate β ω :=
  { gate with engines := (number, engine) :: gate.engines.filter (·.1 ≠ number) }

def current? (gate : Gate β ω) : Option (Engine β) :=
  gate.context.current?.map fun scope => gate.engine scope.engine

end Gate

abbrev Native (β ω : Type) := Proc (Gate β ω)

namespace Native

variable {β ω α : Type}

def atEngine (number : Nat) (p : Proc (Engine β) α) : Native β ω α :=
  p.zoom (·.engine number) (fun engine gate => gate.setEngine number engine)

def engineNumber : Native β ω Nat := do
  match (← get).context.current? with
  | some scope => return scope.engine
  | none => Proc.fail .noEngine

def onEngine (p : Proc (Engine β) α) : Native β ω α := do
  atEngine (← engineNumber) p

def settings : Native β ω Settings := do
  return (← get).context.settings

def abort : Native β ω α :=
  throw .aborted

/-- Without an engine nothing can be raised. -/
def raiseFault (fault : Fault) : Native β ω α := do
  match (← get).context.current? with
  | none => abort
  | some scope =>
      match fault.counterpart with
      | .existing exception => throw (.raised exception)
      | .fresh kind message =>
          throw (.raised (← atEngine scope.engine (Engine.newException kind message)))
      | .missing => abort

/-- Native entry points raise what the calls behind them fail with. -/
def raising (p : Native β ω α) : Native β ω α := do
  match ← p.catchFault with
  | .ok a => return a
  | .error fault => raiseFault fault

end Native

abbrev Variadic (β ω : Type) := Trailing (Gate β ω)

namespace Variadic

variable {β ω α : Type}

def atEngine (number : Nat) (p : Trailing (Engine β) α) : Variadic β ω α :=
  p.zoomState (·.engine number) (fun engine gate => gate.setEngine number engine)

def onEngine (p : Trailing (Engine β) α) : Variadic β ω α := do
  let number ← (Native.engineNumber : Native β ω Nat)
  atEngine number p

def raising (p : Variadic β ω α) : Variadic β ω α := do
  match ← p.catchFault with
  | .ok a => return a
  | .error fault => (Native.raiseFault fault : Native β ω α)

end Variadic

end NativeGate
