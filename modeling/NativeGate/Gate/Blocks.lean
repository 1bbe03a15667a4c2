import NativeGate.Gate.Basic

namespace NativeGate.Blocks

open NativeGate

variable {α β ω : Type}

/-- How a block is called with the values yielded to it. -/
abbrev Caller (β ω : Type) := β → List Value → Native β ω Value

def withBlockOn (number : Nat) (block : β) (body : Native β ω α) : Native β ω α := do
  Native.atEngine number (modify (·.pushBlock block))
  body.ensuring (Native.atEngine number (modify (·.popBlock)))

def withBlock (block : β) (body : Native β ω α) : Native β ω α := do
  withBlockOn (← Native.engineNumber) block body

def noBlockText : Bytes :=
  octets "no block given (yield)"

/-- What a yield comes to on the engine's side: an answer at once, or a block to call. -/
def startYield : Proc (Engine β) (Value ⊕ β) :=
  Engine.unlessPinned yieldName .inl do
    modify fun engine => { engine with host := engine.host.note yieldName }
    match (← get).block? with
    | some block => return .inr block
    | none => Engine.failWith .localJumpError noBlockText

def yield (call : Caller β ω) (args : List Value) : Native β ω Value := do
  match ← (Native.onEngine startYield : Native β ω (Value ⊕ β)) with
  | .inl v => return v
  | .inr block => call block args

/-- `rb_yield_values`: call the innermost block with the first `n` arguments. -/
def yieldValues (call : Caller β ω) (n : Int) : Variadic β ω Value := do
  let values ← Cursor.readValues n.toNat
  (yield call values : Native β ω Value)

def invoke (call : Caller β ω) (name : String) (args : List Value) : Native β ω Value :=
  if name = yieldName then yield call args else Native.onEngine (Engine.invokeNamed name args)

def invokePredicate (call : Caller β ω) (name : String) (args : List Value) :
    Native β ω Bool := do
  if name = yieldName then return (← yield call args).isTruthy
  else Native.onEngine (Engine.predicateNamed name args)

end NativeGate.Blocks
