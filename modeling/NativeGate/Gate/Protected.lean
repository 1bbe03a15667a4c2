import NativeGate.Gate.Basic

namespace NativeGate

/-- Where a program keeps the state `rb_protect` writes. -/
structure StateCell (ω : Type) where
  read : ω → Int
  write : Int → ω → ω
  read_write : ∀ state program, read (write state program) = state

namespace Protected

/-! `rb_rescue`, `rb_rescue2`, `rb_ensure`, `rb_protect` and `rb_jump_tag`. -/

variable {α β ω : Type}

def isAnyOf (exception : Value) : List Value → Proc (Engine β) Bool
  | [] => return false
  | definition :: rest => do
      if ← Engine.ask .isKindOf [exception, definition] then return true
      else isAnyOf exception rest

def setErrinfo (number : Nat) (v : Value) : Native β ω Unit := do
  let _ ← (Native.atEngine number (Engine.perform .setErrinfo [v]) : Native β ω Value)

/-- An engine that refuses is left alone. -/
def restoreErrinfo (number : Nat) (saved : Value) : Native β ω Unit := do
  let _ ← (setErrinfo number saved : Native β ω Unit).catchFault

/-- While the handler runs, errinfo is the exception; then it is what it was before. -/
def handle (number : Nat) (exception : Value) (handler : Value → Native β ω Value) :
    Native β ω Value := do
  let saved ← Native.atEngine number (Engine.perform .errinfo [])
  setErrinfo number exception
  match ← (handler exception).catchRaise.ensuring (restoreErrinfo number saved) with
  | .ok v => return v
  | .error raised => Proc.fail (.raised raised)

/-- Exceptions of `classes` go to the handler; without a handler the answer is nil. -/
def rescueAny (classes : List Value) (body : Native β ω Value)
    (handler : Option (Value → Native β ω Value)) : Native β ω Value := do
  match ← body.catchRaise with
  | .ok v => return v
  | .error exception =>
      let number ← Native.engineNumber
      if ← Native.atEngine number (isAnyOf exception classes) then
        match handler with
        | none => return .nil
        | some handler => handle number exception handler
      else Proc.fail (.raised exception)

def rescue (body : Native β ω Value) (handler : Option (Value → Native β ω Value)) :
    Native β ω Value := do
  let standardError ← Native.onEngine (Engine.perform .standardError [])
  rescueAny [standardError] body handler

/-- `rb_rescue2`: the classes are the trailing arguments, up to a zero word. -/
def rescueListed (body : Native β ω Value) (handler : Option (Value → Native β ω Value)) :
    Variadic β ω Value := do
  let classes ← Cursor.readUntilZero
  (rescueAny classes body handler : Native β ω Value)

def ensure (body cleanup : Native β ω Value) : Native β ω Value :=
  body.ensuring do
    let _ ← cleanup

/-- The state `rb_protect` writes for a raised exception. -/
def raisedState : Int := 6

def protect (body : Native β ω Value) : Native β ω (Value × Int) := do
  match ← body.catchRaise with
  | .ok v => return (v, 0)
  | .error exception =>
      let _ ← (Native.onEngine (Engine.perform .setErrinfo [exception]) : Native β ω Value)
      return (.nil, raisedState)

/-- `rb_protect`.  A body that neither returns nor raises leaves the cell alone. -/
def protectInto (cell : Option (StateCell ω)) (body : Native β ω Value) : Native β ω Value := do
  let (v, state) ← Native.raising (protect body)
  match cell with
  | some cell => modify fun gate => { gate with program := cell.write state gate.program }
  | none => pure ()
  return v

def exceptionOfState (state : Int) : Native β ω Value :=
  Native.onEngine do
    let errinfo ← Engine.perform .errinfo []
    if state = 0 ∨ errinfo.isNil then
      Engine.failWith .argumentError
        (octets "no exception to re-raise for tag " ++ Numeral.integer state)
    else return errinfo

/-- `rb_jump_tag`: raise the exception of a state again. -/
def jump (state : Int) : Native β ω α := do
  throw (.raised (← Native.raising (exceptionOfState state)))

end Protected

end NativeGate
