import NativeGate.Text.Numeral

namespace NativeGate

/-! Tagged words.  Every reference that crosses the gate is one 64-bit word. -/

structure Value where
  bits : UInt64
deriving DecidableEq, Hashable, Repr

/-- An interned name crosses the gate as a word as well; zero stands for no name. -/
abbrev Id := UInt64

namespace Value

def no : Value := ⟨0x00⟩
def nil : Value := ⟨0x04⟩
def yes : Value := ⟨0x14⟩
def undefined : Value := ⟨0x24⟩

instance : Inhabited Value := ⟨nil⟩

def ofBool (b : Bool) : Value :=
  if b then yes else no

def fixnum (n : Int64) : Value :=
  ⟨(n <<< 1).toUInt64 ||| 1⟩

def fixnumMax : Int64 := Int64.maxValue >>> 1
def fixnumMin : Int64 := Int64.minValue >>> 1

def checkedFixnum? (n : Int64) : Option Value :=
  if fixnumMin ≤ n ∧ n ≤ fixnumMax then some (fixnum n) else none

def symbol (id : Id) : Value :=
  ⟨(id <<< 8) ||| 0x0c⟩

/-- Handles are multiples of eight and start above the special constants. -/
def handle (index : UInt64) : Value :=
  ⟨(index + 8) <<< 3⟩

def isNil (v : Value) : Bool := v = nil
def isFalse (v : Value) : Bool := v = no
def isUndefined (v : Value) : Bool := v = undefined

def isTruthy (v : Value) : Bool :=
  v.bits &&& ~~~(0x04 : UInt64) ≠ 0

def isFixnum (v : Value) : Bool :=
  v.bits &&& 0x01 ≠ 0

def isFlonum (v : Value) : Bool :=
  v.bits &&& 0x03 = 0x02

def isSymbol (v : Value) : Bool :=
  v.bits &&& 0xff = 0x0c

def isSpecialConst (v : Value) : Bool :=
  v.bits &&& 0x07 ≠ 0 || v.bits = 0

def isHandle (v : Value) : Bool :=
  !v.isSpecialConst && !v.isSymbol

def asFixnum? (v : Value) : Option Int64 :=
  if v.isFixnum then some (v.bits.toInt64 >>> 1) else none

def symbolId? (v : Value) : Option Id :=
  let id := v.bits >>> 8
  if v.isSymbol && id ≠ 0 then some id else none

def handleIndex? (v : Value) : Option UInt64 :=
  if v.isHandle && v.bits ≥ 64 then some ((v.bits >>> 3) - 8) else none

def describe (v : Value) : Bytes :=
  if v = no then octets "False"
  else if v = nil then octets "Nil"
  else if v = yes then octets "True"
  else if v = undefined then octets "Undef"
  else
    match v.asFixnum?, v.symbolId?, v.handleIndex? with
    | some n, _, _ => octets "Fixnum(" ++ Numeral.integer n.toInt ++ octets ")"
    | none, some id, _ => octets "Symbol(" ++ Numeral.decimal id.toNat ++ octets ")"
    | none, none, some i => octets "Handle(" ++ Numeral.decimal i.toNat ++ octets ")"
    | none, none, none => octets "Unknown(" ++ Numeral.address v.bits ++ octets ")"

end Value

end NativeGate
