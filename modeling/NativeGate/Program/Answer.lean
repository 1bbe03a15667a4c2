import NativeGate.Exit
import NativeGate.Host.Invoke
import NativeGate.Settings

namespace NativeGate

/-- An exception, and what the current engine knows of it if there is one. -/
structure ExceptionView where
  value : Value
  known : Option (Option ErrorKind × Option Bytes)
deriving DecidableEq, Repr

structure Description where
  value : Value
  frozen : Bool
  string : Option ManagedString
  elements : Option (List Value)
  classDef : Option ClassDef
  members : Option (List Bytes)
  fields : Option (List Value)
  kind : Option ErrorKind
  message : Option Bytes
deriving DecidableEq, Repr

inductive Result
  | nothing
  | allocated (address : UInt64)
  | flag (b : Bool)
  | number (n : Int)
  | id (raw : UInt64)
  | optionalId (raw : Option UInt64)
  | value (v : Value)
  | optionalValue (v : Option Value)
  | values (vs : List Value)
  | bytes (b : Bytes)
  | optionalBytes (b : Option Bytes)
  | texts (ts : List Bytes)
  | names (ns : List String)
  | text (t : String)
  | exception (view : ExceptionView)
  | protection (v : Value) (state : Int)
  | scratch (stored : Bool) (afterRelease : Value)
  | descriptor (d : Option Encoding.Descriptor)
  | description (d : Description)
  | context (hasEngine : Bool) (action : BugAction)
deriving DecidableEq, Repr

def Result.word : Result → UInt64
  | .id raw => raw
  | .optionalId raw => raw.getD 0
  | .value v => v.bits
  | .optionalValue v => (v.map (·.bits)).getD 0
  | .exception view => view.value.bits
  | .protection v _ => v.bits
  | _ => 0

def Exit.word : Exit → UInt64
  | .failed (.raised exception) => exception.bits
  | .raised exception => exception.bits
  | .fatal exception => exception.bits
  | _ => 0

inductive Outcome
  | ok (result : Result)
  /-- The exception is there if the engine raised one. -/
  | failed (fault : Fault) (exception : Option ExceptionView)
  | raised (exception : ExceptionView)
  | fatal (exception : ExceptionView)
  | bug (report : Bytes)
  | foreign (report : Bytes)
  | aborted
deriving DecidableEq, Repr

structure Answer where
  outcome : Outcome
  /-- Reads attempted on the trailing arguments, if the step had any and came to them. -/
  reads : Option Nat
  trace : List Answer
deriving Repr

namespace Host

def describe (host : Host) (v : Value) : Description where
  value := v
  frozen := host.isFrozen v
  string := host.objects.string? v
  elements := host.objects.array? v
  classDef := host.objects.classDef? v
  members := host.members? v
  fields := host.objects.fields? v
  kind := host.exceptionKind? v
  message := host.exceptionMessage? v

def viewException (host : Option Host) (exception : Value) : ExceptionView where
  value := exception
  known := host.map fun host => (host.exceptionKind? exception, host.exceptionMessage? exception)

end Host

def Outcome.ofResult (host : Option Host) : Except Exit Result → Outcome
  | .ok result => .ok result
  | .error (.failed (.raised exception)) =>
      .failed (.raised exception) (some (Host.viewException host exception))
  | .error (.failed fault) => .failed fault none
  | .error (.raised exception) => .raised (Host.viewException host exception)
  | .error (.fatal exception) => .fatal (Host.viewException host exception)
  | .error (.bug report) => .bug report
  | .error (.foreign report) => .foreign report
  | .error .aborted => .aborted

end NativeGate
