import NativeGate.Program.Perform

namespace NativeGate

open Programmed

namespace Step

def answered (run : Runner) (step : Step) : Programmed (Answer × Except Exit Result) := do
  let outer := (← get).program
  modifyRegisters fun registers => { registers with trace := [], reads := none }
  let result ← (step.call.perform run).attempt
  let inner := (← get).program
  let outcome := Outcome.ofResult (← host?) result
  modifyRegisters fun registers =>
    let registers := { registers with trace := outer.trace, reads := outer.reads }
    match step.label with
    | some label => registers.bindResult label result
    | none => registers
  return ({ outcome, reads := inner.reads, trace := inner.trace }, result)

/-- A fault is answered, all else unwinds further. -/
def perform (run : Runner) (step : Step) : Programmed Unit := do
  let (answer, result) ← step.answered run
  modifyRegisters fun registers => { registers with trace := registers.trace ++ [answer] }
  match result with
  | .ok _ => return ()
  | .error (.failed _) => return ()
  | .error exit => throw exit

end Step

namespace Script

def performAll (run : Runner) : List Step → Programmed Unit
  | [] => return ()
  | step :: rest => do
      step.perform run
      performAll run rest

/-- Run a program in which programs nest at most `depth` deep; the native stack holds no more. -/
def runWithin : Nat → Runner
  | 0 => fun _ _ => Native.abort
  | depth + 1 => fun script bindings => do
      modifyRegisters (·.bindAll bindings)
      performAll (runWithin depth) script.steps
      eval script.result

def deepest : Nat := 1000

def run : Runner :=
  runWithin deepest

end Script

end NativeGate
