import NativeGate.Cursor
import NativeGate.Encoding
import NativeGate.Fault
import NativeGate.Host.Operation
import NativeGate.Settings

namespace NativeGate

/-! Native programs: lists of calls through the gate, with bodies, handlers and blocks that are
programs themselves. -/

inductive Operand
  | value (v : Value)
  | label (name : String)
  /-- The symbol whose ID is kept under the label. -/
  | symbolOf (label : String)
deriving DecidableEq, Repr

inductive ArgumentForm
  | value (operand : Operand)
  | fixed (argument : Argument)
deriving DecidableEq, Repr

structure ByteView where
  bytes : Bytes
  isNull : Bool := false
  length : Int
deriving DecidableEq, Repr

def ByteView.octets (view : ByteView) : Bytes :=
  view.bytes.view view.isNull view.length

/-- Blocks of memory are named by labels; no label is the null pointer. -/
inductive AllocationCall
  | allocate (size : UInt64)
  | allocateArray (count elementSize : UInt64)
  | allocateZeroed (count elementSize : UInt64)
  | reallocate (block : Option String) (size : UInt64)
  | reallocateArray (block : Option String) (count elementSize : UInt64)
  | release (block : Option String)
  | reportOverflow (count elementSize : UInt64)
  | reportOutOfMemory
  | fill (block : String) (bytes : Bytes)
  | peek (block : String) (length : Nat)
  | scratch (length : Int)
  | countedScratch (length : UInt64)
  | clear (slots : List Operand) (n : Int)
deriving DecidableEq, Repr

inductive SymbolCall
  | isSymbol (v : Operand)
  | toId (symbol : Operand)
  | idOf (name : Operand)
  | internText (name : Bytes)
  | intern (name : ByteView)
  | internEncoded (name : ByteView) (encoding : EncodingPointer)
  | internString (string : Operand)
  | nameString (symbol : Operand)
  | copyName (symbol : Operand)
  | toSymbol (name : Operand)
  | nameStringOfId (id : Operand)
  | symbolOfId (id : Operand)
  | nameOfId (id : Operand)
  | setterId (id : Operand)
  | classify (query : Query) (id : Operand)
  | existingId (name : Option Operand)
  | existing (name : ByteView) (encoding : EncodingPointer)
  | checkId (id : Operand)
deriving DecidableEq, Repr

inductive StringCall
  | encodingIndex (encoding : EncodingPointer)
  | encodingOfIndex (index : Int)
  | coderange (string : Operand)
  | literal (view : ByteView) (encoding : EncodingPointer) (frozen : Bool)
  | abiVersion
deriving DecidableEq, Repr

inductive VariadicCall
  | newArray (n : Int)
  | newRecord (definition : Operand)
  | define (name : Option Bytes)
  | defineUnder (scope : Operand) (name : Bytes)
  | defineData (superclass : Operand)
  | yieldValues (n : Int)
  | warnUnlessSilent (format : Bytes)
  | warnIfVerbose (format : Bytes)
  | warnIfEnabled (category : WarningCategory) (format : Bytes)
  | fatal (format : Bytes)
  | bug (format : Bytes)
deriving DecidableEq, Repr

inductive RaiseCall
  | raiseNew (kind : ErrorKind) (message : Bytes)
  | raise (exception : Operand)
  | raiseFault (fault : Fault)
  | raiseAgain (exception : Operand)
  | jump (state : Int)
deriving DecidableEq, Repr

inductive EngineCall
  | invoke (name : String) (args : List Operand)
  | invokePredicate (name : String) (args : List Operand)
  | inspect (v : Operand)
  | readString (string : Operand)
  | newString (bytes : Bytes) (encoding : Encoding)
  | newException (kind : ErrorKind) (message : Bytes)
  | idResult (v : Operand)
  | idArgument (id : Operand)
  | describe (v : Operand)
  | append (string : Operand) (bytes : Bytes)
  | constant (scope : Operand) (name : Bytes)
  | defineClass (name : Bytes) (superclass : Option Operand)
  | setVerbose (v : Operand)
  | setCategory (category : WarningCategory) (on : Bool)
  | warnings
  | operations
  | clearOperations
  | pin (name : String) (v : Operand)
  | pinRaise (name : String) (exception : Operand)
  | unpin (name : String)
deriving DecidableEq, Repr

inductive ContextCall
  | enter (engine : Nat) (settings : Settings)
  | leave
  | install (engine : Nat) (settings : Settings)
  | current
deriving DecidableEq, Repr

mutual

inductive Script
  | mk (steps : List Step) (result : Operand)

/-- A call, and the label that its word is kept under. -/
inductive Step
  | mk (label : Option String) (call : Call)

inductive Call
  | allocation (call : AllocationCall)
  | symbol (call : SymbolCall)
  | string (call : StringCall)
  /-- Direct calls hand faults back; others raise them. -/
  | variadic (call : VariadicCall) (arguments : List ArgumentForm) (direct : Bool)
  | format (format : Bytes) (arguments : List ArgumentForm)
  | raise (call : RaiseCall)
  | engine (call : EngineCall)
  | context (call : ContextCall)
  | rescue (body : Script) (data : Operand) (handler : Option Script) (handlerData : Operand)
  | rescueListed (body : Script) (data : Operand) (handler : Option Script)
      (handlerData : Operand) (arguments : List ArgumentForm) (direct : Bool)
  | ensure (body : Script) (data : Operand) (cleanup : Script) (cleanupData : Operand)
  | protect (body : Script) (data : Operand) (hasState : Bool)
  | withBlock (block : Script) (body : Script)

end

namespace Script

def steps : Script → List Step
  | .mk steps _ => steps

def result : Script → Operand
  | .mk _ result => result

end Script

namespace Step

def label : Step → Option String
  | .mk label _ => label

def call : Step → Call
  | .mk _ call => call

end Step

instance : Inhabited Script := ⟨.mk [] (.value .nil)⟩

instance : Inhabited Call := ⟨.context .current⟩

instance : Inhabited Step := ⟨.mk none default⟩

end NativeGate
