import NativeGate.Cursor
import NativeGate.ErrorKind
import NativeGate.Text.Numeral
import NativeGate.Text.Unprintable

namespace NativeGate

/-- A character in double quotes; one that would not show is spelled out. -/
def Quoted.escape (c : Char) : Bytes :=
  if c = '"' then octets "\\\""
  else if c = '\\' then octets "\\\\"
  else if c = '\n' then octets "\\n"
  else if c = '\r' then octets "\\r"
  else if c = '\t' then octets "\\t"
  else if c = '\x00' then octets "\\0"
  else if Unprintable.holds c then
    octets "\\u\x7b" ++ Numeral.inBase 16 .lower c.toNat ++ octets "\x7d"
  else octets (String.singleton c)

def Quoted.quote (text : String) : Bytes :=
  octets "\"" ++ text.toList.flatMap escape ++ octets "\""

inductive Fault
  | raised (exception : Value)
  | sizeOverflow (count elementSize : UInt64)
  | cursor (fault : CursorFault)
  | invalidId (raw : UInt64)
  | unknownEncoding (index : Int)
  | negativeBufferSize (length : Int)
  | invalidAbiVersion (text : String)
  | noEngine
  | engineAlreadyInstalled
deriving DecidableEq, Repr

namespace Fault

def overflowText (count elementSize : UInt64) : Bytes :=
  octets "malloc: possible integer overflow (" ++ Numeral.decimal count.toNat ++ octets "*" ++
    Numeral.decimal elementSize.toNat ++ octets ")"

def message : Fault → Bytes
  | .raised exception =>
      octets "managed exception Exception(" ++ exception.describe ++ octets ")"
  | .sizeOverflow count elementSize => overflowText count elementSize
  | .cursor fault => fault.message
  | .invalidId raw => octets "invalid identifier " ++ Numeral.decimal raw.toNat
  | .unknownEncoding index => octets "unknown encoding index " ++ Numeral.integer index
  | .negativeBufferSize length =>
      octets "negative buffer size (or size too big): " ++ Numeral.integer length
  | .invalidAbiVersion text => octets "invalid ABI version string " ++ Quoted.quote text
  | .noEngine => octets "no managed engine is installed"
  | .engineAlreadyInstalled => octets "a managed engine is already installed"

/-- What `raiseFault` raises for a fault. -/
inductive Counterpart
  | existing (exception : Value)
  | fresh (kind : ErrorKind) (message : Bytes)
  /-- Without an engine nothing can be raised. -/
  | missing
deriving DecidableEq, Repr

def counterpart : Fault → Counterpart
  | .raised exception => .existing exception
  | .noEngine | .engineAlreadyInstalled => .missing
  | .negativeBufferSize _ =>
      .fresh .argumentError (octets "negative buffer size (or size too big)")
  | fault => .fresh .argumentError fault.message

end Fault

end NativeGate
