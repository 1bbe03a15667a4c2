import NativeGate.AbiVersion
import NativeGate.Gate.Allocation
import NativeGate.Gate.Blocks
import NativeGate.Gate.Protected
import NativeGate.Gate.Records
import NativeGate.Gate.Reports
import NativeGate.Gate.Strings
import NativeGate.Program.Registers

namespace NativeGate

/-! What each call of a native program does, one function for each family of calls. -/

open Programmed Native

namespace AllocationCall

def perform : AllocationCall → Programmed Result
  | .allocate size => do return .allocated (← raising (Allocation.allocate size.toNat))
  | .allocateArray count size => do
      return .allocated (← raising (Allocation.allocateArray count size))
  | .allocateZeroed count size => do
      return .allocated (← raising (Allocation.allocateZeroed count size))
  | .reallocate block size => do
      let address ← evalBlock block
      return .allocated (← raising (Allocation.reallocate address size.toNat))
  | .reallocateArray block count size => do
      let address ← evalBlock block
      return .allocated (← raising (Allocation.reallocateArray address count size))
  | .release block => do
      Allocation.release (← evalBlock block)
      return .nothing
  | .reportOverflow count size => raiseFault (.sizeOverflow count size)
  | .reportOutOfMemory => Allocation.outOfMemory
  | .fill block bytes => do
      let address ← evalBlock (some block)
      modify fun gate => { gate with memory := gate.memory.write address bytes }
      return .nothing
  | .peek block length => do
      let address ← evalBlock (some block)
      return .bytes (((← get).memory.read? address length).getD [])
  | .scratch length => scratch length
  | .countedScratch length => scratch (Allocation.scratchLength length)
  | .clear slots n => do return .values (Allocation.clear (← evalAll slots) n)
where
  /-- `rb_free_tmp_buffer` called once more changes nothing. -/
  scratch (length : Int) : Programmed Result := do
    let slot ← raising (Allocation.allocateScratch length)
    let stored := ((← get).memory.block? slot.bits).isSome
    let slot ← Allocation.releaseScratch slot
    return .scratch stored (← Allocation.releaseScratch slot)

end AllocationCall

namespace SymbolCall

def perform : SymbolCall → Programmed Result
  | .isSymbol v => do return .flag (← raising (Symbols.symbol? (← eval v)))
  | .toId symbol => do return .id (← raising (Symbols.toId (← eval symbol)))
  | .idOf name => do return .id (← raising (Symbols.idOf (← eval name)))
  | .internText name => do return .id (← raising (Symbols.intern name.beforeNul .binary))
  | .intern name => do return .id (← raising (Symbols.intern name.octets .binary))
  | .internEncoded name pointer => do
      let encoding ← raising (Strings.encodingOf pointer)
      return .id (← raising (Symbols.intern name.octets encoding))
  | .internString string => do return .id (← raising (Symbols.internString (← eval string)))
  | .nameString symbol => do return .value (← raising (Symbols.nameString (← eval symbol)))
  | .copyName symbol => do return .value (← raising (Symbols.copyName (← eval symbol)))
  | .toSymbol name => do return .value (← raising (Symbols.toSymbol (← eval name)))
  | .nameStringOfId id => do return .value (← raising (Symbols.nameStringOfId (← evalId id)))
  | .symbolOfId id => do
      return .value (.symbol (← raising (Symbols.checkId (← evalId id))))
  | .nameOfId id => do return .optionalBytes (← raising (Symbols.name? (← evalId id)))
  | .setterId id => do
      let id ← raising (Symbols.checkId (← evalId id))
      return .id (← raising (Symbols.setterId id))
  | .classify query id => do
      let id ← raising (Symbols.checkId (← evalId id))
      return .number (if ← raising (Symbols.classify query id) then 1 else 0)
  | .existingId name => do
      match ← evalOption name with
      | some name => return .id ((← raising (Symbols.existingId? name)).getD 0)
      | none => return .id 0
  | .existing name pointer => do
      let encoding ← raising (Strings.encodingOf pointer)
      return .value (← raising (Symbols.existing name.octets encoding))
  | .checkId id => do return .id (← Symbols.checkId (← evalId id))

end SymbolCall

namespace StringCall

def perform : StringCall → Programmed Result
  | .encodingIndex pointer => do
      return .number (← raising (Strings.encodingOf pointer)).index
  | .encodingOfIndex index => return .descriptor ((Encoding.ofIndex? index).map (·.descriptor))
  | .coderange string => do
      return .number (← raising (Strings.coderangeFlags (← eval string)))
  | .literal view pointer true => do
      return .value (← raising (Strings.frozenLiteral view.octets pointer))
  | .literal view pointer false => do
      return .value (← raising (Strings.ofLiteral view.octets pointer))
  | .abiVersion => return .text AbiVersion.currentText

end StringCall

namespace VariadicCall

/-- Direct calls are run as they are, all others raise what they fail with. -/
def valued (direct : Bool) (call : Variadic Script Registers Value) :
    Variadic Script Registers Result := do
  return .value (← if direct then call else call.raising)

def lastWarning : Programmed Result := do
  return .optionalBytes ((← host?).bind (·.warnings.getLast?))

def warned (call : Variadic Script Registers Unit) : Variadic Script Registers Result := do
  call
  (lastWarning : Programmed Result)

def perform (run : Runner) (direct : Bool) : VariadicCall → Variadic Script Registers Result
  | .newArray n => valued direct (Records.newArray n)
  | .newRecord definition => do
      let definition ← (eval definition : Programmed Value)
      valued direct (Records.newRecord definition)
  | .define name => valued direct (Records.define name)
  | .defineUnder scope name => do
      let scope ← (eval scope : Programmed Value)
      valued direct (Records.defineUnder scope name)
  | .defineData superclass => do
      let superclass ← (eval superclass : Programmed Value)
      valued direct (Records.defineData
        (if direct then superclass else Records.dataSuperclass superclass))
  | .yieldValues n =>
      valued direct (Blocks.yieldValues run.callBlock n)
  | .warnUnlessSilent format =>
      warned (if direct then Reports.warn format else Reports.warnUnlessSilent format)
  | .warnIfVerbose format =>
      warned (if direct then Reports.warn format else Reports.warnIfVerbose format)
  | .warnIfEnabled category format =>
      warned (if direct then Reports.warnOf category format
        else Reports.warnIfEnabled category format)
  | .fatal format =>
      if direct then do
        let exception ← Reports.fatalException format
        let host ← (host? : Programmed (Option Host))
        return .exception (Host.viewException host exception)
      else Reports.fatal format
  | .bug format =>
      if direct then do return .bytes (← Reports.bugReport format) else Reports.bug format

end VariadicCall

namespace RaiseCall

def perform : RaiseCall → Programmed Result
  | .raiseNew kind message => do
      throw (.raised (← onEngine (Engine.newException kind message)))
  | .raise exception => do throw (.raised (← eval exception))
  | .raiseFault fault => Native.raiseFault fault
  | .raiseAgain exception => do Native.raiseFault (.raised (← eval exception))
  | .jump state => Protected.jump state

end RaiseCall

namespace EngineCall

def pinning (change : Engine Script → Engine Script) : Programmed Result := do
  onEngine (modify change)
  return .nothing

def perform (run : Runner) : EngineCall → Programmed Result
  | .invoke name args => do
      return .value (← Blocks.invoke run.callBlock name (← evalAll args))
  | .invokePredicate name args => do
      return .flag (← Blocks.invokePredicate run.callBlock name (← evalAll args))
  | .inspect v => do
      let v ← eval v
      return .bytes (← onEngine (Engine.inspect v))
  | .readString string => do
      let string ← eval string
      return .bytes (← onEngine (Engine.readString string))
  | .newString bytes encoding => do
      return .value (← onEngine (Engine.newString bytes encoding))
  | .newException kind message => do
      let exception ← onEngine (Engine.newException kind message)
      return .exception (Host.viewException (← host?) exception)
  | .idResult v => do return .optionalId (Symbols.idResult? (← eval v))
  | .idArgument id => do return .value (Symbols.idArgument (← Symbols.checkId (← evalId id)))
  | .describe v => do
      let v ← eval v
      return .description (← onHost (·.describe v))
  | .append string bytes => do
      let string ← eval string
      return .flag (← changeHost (·.append string bytes))
  | .constant scope name => do
      let scope ← eval scope
      return .optionalValue (← onHost (·.constant? scope name))
  | .defineClass name superclass => do
      let superclass ← evalOption superclass
      return .value (← changeHost (·.defineClass name superclass))
  | .setVerbose v => do
      let v ← eval v
      changeHost fun host => ((), host.setVerbose v)
      return .nothing
  | .setCategory category on => do
      changeHost fun host => ((), host.setCategory category on)
      return .nothing
  | .warnings => do return .texts (← onHost (·.warnings))
  | .operations => do return .names (← onHost (·.log))
  | .clearOperations => do
      changeHost fun host => ((), host.clearLog)
      return .nothing
  | .pin name v => do
      let v ← eval v
      pinning (·.pin name (.ok v))
  | .pinRaise name exception => do
      let exception ← eval exception
      pinning (·.pin name (.error exception))
  | .unpin name => pinning (·.unpin name)

end EngineCall

namespace ContextCall

def changing (change : Context → Context) : Programmed Result := do
  modify fun gate => { gate with context := change gate.context }
  return .nothing

def perform : ContextCall → Programmed Result
  | .enter engine settings => changing (·.enter { engine, settings })
  | .leave => changing (·.leave)
  | .install engine settings => do
      match (← get).context.install? { engine, settings } with
      | some context => changing fun _ => context
      | none => Proc.fail .engineAlreadyInstalled
  | .current => do
      let context := (← get).context
      return .context context.current?.isSome context.settings.bugAction

end ContextCall

namespace Call

def bodyOf (run : Runner) (body : Script) (data : Value) : Programmed Value :=
  run body [("$data", data)]

def handlerOf (run : Runner) (handler : Option Script) (data : Value) :
    Option (Value → Programmed Value) :=
  handler.map fun handler exception => run handler [("$data", data), ("$exc", exception)]

def perform (run : Runner) : Call → Programmed Result
  | .allocation call => call.perform
  | .symbol call => call.perform
  | .string call => call.perform
  | .variadic call arguments direct => do
      let arguments ← evalArguments arguments
      withArguments arguments (call.perform run direct)
  | .format template arguments => do
      let arguments ← evalArguments arguments
      let number ← engineNumber
      withArguments arguments do
        return .bytes (← Variadic.atEngine number (Format.render template))
  | .raise call => call.perform
  | .engine call => call.perform run
  | .context call => call.perform
  | .rescue body data handler handlerData => do
      let data ← eval data
      let handlerData ← eval handlerData
      return .value (← raising
        (Protected.rescue (bodyOf run body data) (handlerOf run handler handlerData)))
  | .rescueListed body data handler handlerData arguments direct => do
      let data ← eval data
      let handlerData ← eval handlerData
      let arguments ← evalArguments arguments
      withArguments arguments <| VariadicCall.valued direct <|
        Protected.rescueListed (bodyOf run body data) (handlerOf run handler handlerData)
  | .ensure body data cleanup cleanupData => do
      let data ← eval data
      let cleanupData ← eval cleanupData
      return .value (← Protected.ensure (bodyOf run body data) (bodyOf run cleanup cleanupData))
  | .protect body data hasState => do
      let data ← eval data
      let cell := if hasState then some Registers.stateCell else none
      let v ← Protected.protectInto cell (bodyOf run body data)
      let written := (← get).program.state
      return .protection v (if hasState then written else -1)
  | .withBlock block body => do
      let _ ← Blocks.withBlock block (run body [])
      return .nothing

end Call

end NativeGate
