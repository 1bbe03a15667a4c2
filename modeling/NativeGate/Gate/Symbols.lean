import NativeGate.Gate.Basic

namespace NativeGate.Symbols

open NativeGate

/-! A static symbol is its ID, shifted and tagged, so `ID2SYM` and `SYM2ID` are done here; whatever
looks at the symbol table is the engine's. -/

variable {β ω : Type}

/-- Any number but zero is taken for an ID. -/
def checkId (raw : UInt64) : Native β ω Id :=
  if raw = 0 then Proc.fail (.invalidId raw) else return raw

def idArgument (id : Id) : Value :=
  .fixnum id.toInt64

def idResult? (v : Value) : Option Id :=
  v.asFixnum?.bind fun n => if n = 0 then none else some n.toUInt64

def symbol? (v : Value) : Native β ω Bool :=
  if v.isSymbol then return true else Native.onEngine (Engine.ask .symbolP [v])

def lookUpId (v : Value) : Proc (Engine β) Id := do
  match idResult? (← Engine.perform .symToId [v]) with
  | some id => return id
  | none => Engine.failWith .typeError (octets "symbol has no identifier")

def toId (symbol : Value) : Native β ω Id :=
  match symbol.symbolId? with
  | some id => return id
  | none => Native.onEngine (lookUpId symbol)

def stringOf (name : Value) : Proc (Engine β) Value := do
  if ← Engine.ask .stringP [name] then return name
  else
    let converted ← Engine.perform .checkStringType [name]
    if converted.isNil then
      let text ← Engine.inspect name
      Engine.failWith .typeError (text ++ octets " is not a symbol")
    else return converted

def internString (string : Value) : Native β ω Id := do
  toId (← Native.onEngine (Engine.perform .intern [string]))

def intern (name : Bytes) (encoding : Encoding) : Native β ω Id := do
  internString (← Native.onEngine (Engine.newString name encoding))

/-- `rb_to_id`. -/
def idOf (name : Value) : Native β ω Id := do
  if ← symbol? name then toId name
  else internString (← Native.onEngine (stringOf name))

/-- `rb_check_id`: what `rb_to_id` would answer without a new symbol. -/
def existingId? (name : Value) : Native β ω (Option Id) := do
  if ← symbol? name then return some (← toId name)
  else
    let symbol ← Native.onEngine do
      let string ← stringOf name
      Engine.perform .checkSymbol [string]
    if symbol.isNil then return none else return some (← toId symbol)

/-- `rb_check_symbol_cstr`: nil unless the symbol exists. -/
def existing (name : Bytes) (encoding : Encoding) : Native β ω Value :=
  Native.onEngine do
    let string ← Engine.newString name encoding
    Engine.perform .checkSymbol [string]

def toSymbol (name : Value) : Native β ω Value :=
  Native.onEngine (Engine.perform .toSymbol [name])

def nameString (symbol : Value) : Native β ω Value :=
  Native.onEngine (Engine.perform .symToString [symbol])

def copyName (symbol : Value) : Native β ω Value :=
  Native.onEngine (Engine.perform .symToS [symbol])

/-- `rb_id2str`, which answers zero with `false`. -/
def nameStringOfId (id : UInt64) : Native β ω Value :=
  if id = 0 then return .no else Native.onEngine (Engine.perform .idToString [.symbol id])

/-- `rb_id2name`, which answers zero with a null pointer. -/
def name? (id : UInt64) : Native β ω (Option Bytes) := do
  if id = 0 then return none
  else
    let string ← nameStringOfId id
    return some (Bytes.beforeNul (← Native.onEngine (Engine.readString string)))

/-- `rb_id_attrset`: from `name` to `name=`. -/
def setterId (id : Id) : Native β ω Id := do
  toId (← Native.onEngine (Engine.perform .idAttrset [.symbol id]))

def classify (query : Query) (id : Id) : Native β ω Bool :=
  Native.onEngine (Engine.ask query [.symbol id])

end NativeGate.Symbols
