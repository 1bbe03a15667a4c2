import NativeGate.Exit
import NativeGate.Host.Invoke

namespace NativeGate

/-! The engine native calls are routed to: a host, the blocks `rb_yield_values` can call, and
answers pinned to operations. -/

structure Engine (β : Type) where
  host : Host := .new
  /-- Innermost first. -/
  blocks : List β := []
  pinned : List (String × Except Value Value) := []

namespace Engine

variable {α β : Type}

def pin (engine : Engine β) (name : String) (answer : Except Value Value) : Engine β :=
  { engine with pinned := (name, answer) :: engine.pinned }

def unpin (engine : Engine β) (name : String) : Engine β :=
  { engine with pinned := engine.pinned.filter (·.1 ≠ name) }

def pushBlock (engine : Engine β) (block : β) : Engine β :=
  { engine with blocks := block :: engine.blocks }

def popBlock (engine : Engine β) : Engine β :=
  { engine with blocks := engine.blocks.drop 1 }

def block? (engine : Engine β) : Option β :=
  engine.blocks.head?

def asking (answer : Host → Reply α × Host) : Proc (Engine β) α :=
  .ofRun fun engine =>
    match answer engine.host with
    | (.value a, host) => (.ok a, { engine with host })
    | (.raised exception, host) => (.error (.failed (.raised exception)), { engine with host })
    | (.endless, host) => (.error .aborted, { engine with host })

def modifyHost (change : Host → α × Host) : Proc (Engine β) α :=
  asking fun host => let (a, host) := change host; (.value a, host)

/-- A pinned answer comes before the host's. -/
def unlessPinned (name : String) (read : Value → α) (otherwise : Proc (Engine β) α) :
    Proc (Engine β) α := do
  match (← get).pinned.lookup name with
  | some (.ok v) => return read v
  | some (.error exception) => Proc.fail (.raised exception)
  | none => otherwise

def invokeNamed (name : String) (args : List Value) : Proc (Engine β) Value :=
  unlessPinned name id (asking (·.invoke name args))

def predicateNamed (name : String) (args : List Value) : Proc (Engine β) Bool :=
  unlessPinned name Value.isTruthy (asking (·.invokePredicate name args))

def perform (op : Operation) (args : List Value) : Proc (Engine β) Value :=
  invokeNamed op.name args

def ask (query : Query) (args : List Value) : Proc (Engine β) Bool :=
  predicateNamed query.name args

def newString (bytes : Bytes) (encoding : Encoding) : Proc (Engine β) Value :=
  modifyHost (·.newString bytes encoding)

def newException (kind : ErrorKind) (message : Bytes) : Proc (Engine β) Value :=
  modifyHost (·.newException kind message)

def readString (string : Value) : Proc (Engine β) Bytes :=
  asking (·.readString string)

def failWith (kind : ErrorKind) (message : Bytes) : Proc (Engine β) α := do
  Proc.fail (.raised (← newException kind message))

def inspect (v : Value) : Proc (Engine β) Bytes := do
  readString (← perform .inspect [v])

def textOf (v : Value) : Proc (Engine β) Bytes := do
  readString (← perform .objAsString [v])

end Engine

end NativeGate
