import NativeGate.Exit

namespace NativeGate

namespace Cursor

def read (kind : ReadKind) : Proc Cursor Argument :=
  .ofRun fun cursor =>
    match cursor.next kind with
    | (.ok argument, cursor) => (.ok argument, cursor)
    | (.error fault, cursor) => (.error (.failed (.cursor fault)), cursor)

def readValue : Proc Cursor Value := do
  return ⟨(← read .value).word⟩

def readValues : Nat → Proc Cursor (List Value)
  | 0 => pure []
  | n + 1 => do
      let v ← readValue
      return v :: (← readValues n)

/-- Read a C string; the null pointer is none. -/
def readText : Proc Cursor (Option Bytes) := do
  return (← read .text).content?

def remaining : Proc Cursor Nat := do
  return (← get).rest.length

/-- Read values up to a zero word.  Every turn uses up an argument, so that `fuel` turns are enough
for fewer than `fuel` of them. -/
def readUntilZeroWithin : Nat → Proc Cursor (List Value)
  | 0 => return []
  | fuel + 1 => do
      let v ← readValue
      if v.bits = 0 then return []
      else return v :: (← readUntilZeroWithin fuel)

def readUntilZero : Proc Cursor (List Value) := do
  readUntilZeroWithin ((← remaining) + 1)

end Cursor

/-- A call over some state that has trailing arguments besides. -/
abbrev Trailing (τ : Type) := Proc (Cursor × τ)

namespace Trailing

variable {τ υ α : Type}

def onCursor (p : Proc Cursor α) : Trailing τ α :=
  p.zoom (·.1) (fun cursor s => (cursor, s.2))

def onState (p : Proc τ α) : Trailing τ α :=
  p.zoom (·.2) (fun t s => (s.1, t))

def zoomState (get : τ → υ) (set : υ → τ → τ) (p : Trailing υ α) : Trailing τ α :=
  p.zoom (fun s => (s.1, get s.2)) (fun part s => (part.1, set part.2 s.2))

/-- Call with these trailing arguments; `ended` is what the state keeps of the cursor over them. -/
def supplied (arguments : List Argument) (p : Trailing τ α)
    (ended : Cursor → τ → τ := fun _ t => t) : Proc τ α :=
  .ofRun fun t =>
    let (result, cursor, t) := p.runOn (Cursor.start arguments, t)
    (result, ended cursor t)

instance : MonadLift (Proc Cursor) (Trailing τ) := ⟨onCursor⟩

instance : MonadLift (Proc τ) (Trailing τ) := ⟨onState⟩

end Trailing

end NativeGate
