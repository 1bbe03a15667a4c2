import NativeGate.Gate.Protected
import NativeGate.Program.Answer
import NativeGate.Program.Script

namespace NativeGate

/-- What a program keeps: words and blocks of memory under labels, and the answers so far of the
steps that run at this level. -/
structure Registers where
  words : List (String × UInt64) := []
  blocks : List (String × Address) := []
  trace : List Answer := []
  reads : Option Nat := none
  state : Int := -1

namespace Registers

def word (registers : Registers) (label : String) : UInt64 :=
  (registers.words.lookup label).getD 0

def bind (registers : Registers) (label : String) (word : UInt64) : Registers :=
  { registers with words := (label, word) :: registers.words }

def bindAll (registers : Registers) (bindings : List (String × Value)) : Registers :=
  bindings.foldl (fun registers b => registers.bind b.1 b.2.bits) registers

def address (registers : Registers) (label : String) : Address :=
  (registers.blocks.lookup label).getD 0

def bindBlock (registers : Registers) (label : String) (address : Address) : Registers :=
  { registers with blocks := (label, address) :: registers.blocks }

/-- Only blocks that were allocated replace others. -/
def bindResult (registers : Registers) (label : String) (result : Except Exit Result) :
    Registers :=
  match result with
  | .ok (.allocated address) => (registers.bind label 0).bindBlock label address
  | .ok result => registers.bind label result.word
  | .error exit => registers.bind label exit.word

def stateCell : StateCell Registers where
  read registers := registers.state
  write state registers := { registers with state }
  read_write _ _ := rfl

end Registers

abbrev Programmed := Native Script Registers

/-- How a program that is part of another one is run, with words bound on entry. -/
abbrev Runner := Script → List (String × Value) → Programmed Value

/-- Call a block, which finds how many arguments it got and each of them. -/
def Runner.callBlock (run : Runner) (block : Script) (args : List Value) : Programmed Value :=
  run block <|
    ("$argc", .fixnum (Int64.ofNat args.length)) ::
      args.zipIdx.map fun (v, i) => ("$" ++ toString i, v)

namespace Programmed

def modifyRegisters (change : Registers → Registers) : Programmed Unit :=
  modify fun gate => { gate with program := change gate.program }

def host? : Programmed (Option Host) := do
  return (← get).current?.map (·.host)

def onHost {α : Type} (look : Host → α) : Programmed α :=
  Native.onEngine do return look (← get).host

def changeHost {α : Type} (change : Host → α × Host) : Programmed α :=
  Native.onEngine (Engine.modifyHost change)

def eval (operand : Operand) : Programmed Value := do
  match operand with
  | .value v => return v
  | .label name => return ⟨(← get).program.word name⟩
  | .symbolOf label => return .symbol ((← get).program.word label)

def evalId (operand : Operand) : Programmed UInt64 := do
  return (← eval operand).bits

def evalAll : List Operand → Programmed (List Value)
  | [] => return []
  | operand :: rest => do
      let v ← eval operand
      return v :: (← evalAll rest)

def evalOption : Option Operand → Programmed (Option Value)
  | none => return none
  | some operand => do return some (← eval operand)

def evalArguments : List ArgumentForm → Programmed (List Argument)
  | [] => return []
  | .fixed argument :: rest => do return argument :: (← evalArguments rest)
  | .value operand :: rest => do
      let v ← eval operand
      return .value v :: (← evalArguments rest)

def evalBlock (label : Option String) : Programmed Address := do
  match label with
  | some label => return (← get).program.address label
  | none => return 0

/-- Run a call over trailing arguments and keep count of its reads. -/
def withArguments {α : Type} (arguments : List Argument)
    (call : Variadic Script Registers α) : Programmed α :=
  call.supplied arguments fun cursor gate =>
    { gate with program := { gate.program with reads := some cursor.attempts.length } }

end Programmed

end NativeGate
