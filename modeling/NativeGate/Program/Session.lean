import NativeGate.Program.Run

namespace NativeGate

/-! Sessions: steps run one after the other, each answered whatever becomes of it. -/

structure Session where
  steps : List Step
  entered : Option Settings

structure Summary where
  operations : List String
  handles : Nat
  symbols : Nat
deriving DecidableEq, Repr

structure SessionAnswer where
  answer : Answer
  /-- Absent when there is no current engine. -/
  summary : Option Summary
deriving Repr

structure Transcript where
  answers : List SessionAnswer
  aborted : Bool
deriving Repr

namespace Session

abbrev World := Gate Script Registers

def currentHost? (world : World) : Option (Nat × Host) :=
  world.context.current?.map fun scope => (scope.engine, (world.engine scope.engine).host)

def summarize (before after : World) : Option Summary :=
  (currentHost? after).map fun (number, host) =>
    { operations :=
        match currentHost? before with
        | some (previous, old) => if previous = number then host.log.drop old.log.length else []
        | none => []
      handles := host.objects.size
      symbols := host.symbols.size }

def start (session : Session) : World where
  context :=
    match session.entered with
    | some settings => ({} : Context).enter { engine := 0, settings }
    | none => {}
  program := {}

def runSteps (world : World) : List Step → Transcript
  | [] => { answers := [], aborted := false }
  | step :: rest =>
      match (step.answered Script.run).runOn world with
      | (.ok (answer, _), after) =>
          let transcript := runSteps after rest
          { transcript with
            answers := { answer, summary := summarize world after } :: transcript.answers }
      | (.error _, _) => { answers := [], aborted := true }

def run (session : Session) : Transcript :=
  runSteps session.start session.steps

end Session

end NativeGate
