import NativeGate.Program.Session
import NativeGate.Proofs.Gate.Conduct

namespace NativeGate

/-! Whatever a native program does, hosts change by their own actions only. -/

open Engine Native Proc Trailing

variable {α : Type}

def EngineCall.Pins : EngineCall → Prop
  | .pin .. | .pinRaise .. | .unpin .. => True
  | _ => False

def EngineCall.Yields : EngineCall → Prop
  | .invoke name _ | .invokePredicate name _ => name = yieldName
  | _ => False

section Respects

variable {R : Gate Script Registers → Gate Script Registers → Prop} [Gate.Admits R]

namespace Programmed

theorem modifyRegisters_respects (change : Registers → Registers) :
    (modifyRegisters change).Respects R :=
  Respects.modify fun gate => Gate.Admits.setAside gate gate.memory _

theorem host?_respects : host?.Respects R :=
  Respects.get.bind fun _ => .pure _

theorem onHost_respects (look : Host → α) : (onHost look).Respects R :=
  onEngine_respects (Respects.get.bind fun _ => .pure _)

theorem changeHost_respects {change : Host → α × Host}
    (leads : ∀ host : Host, host.Leads (change host).2) : (changeHost change).Respects R :=
  onEngine_respects (modifyHost_respects leads)

theorem eval_respects (operand : Operand) : (eval operand).Respects R := by
  cases operand with
  | value v => exact .pure _
  | label | symbolOf => exact Respects.get.bind fun _ => .pure _

theorem evalId_respects (operand : Operand) : (evalId operand).Respects R :=
  (eval_respects operand).bind fun _ => .pure _

theorem evalAll_respects (operands : List Operand) : (evalAll operands).Respects R := by
  induction operands with
  | nil => exact .pure _
  | cons operand rest ih => exact (eval_respects operand).bind fun _ => ih.bind fun _ => .pure _

theorem evalOption_respects (operand : Option Operand) : (evalOption operand).Respects R := by
  cases operand with
  | none => exact .pure _
  | some operand => exact (eval_respects operand).bind fun _ => .pure _

theorem evalArguments_respects (forms : List ArgumentForm) :
    (evalArguments forms).Respects R := by
  induction forms with
  | nil => exact .pure _
  | cons form rest ih =>
      cases form with
      | fixed argument => exact ih.bind fun _ => .pure _
      | value operand => exact (eval_respects operand).bind fun _ => ih.bind fun _ => .pure _

theorem evalBlock_respects (label : Option String) : (evalBlock label).Respects R := by
  cases label with
  | some label => exact Respects.get.bind fun _ => .pure _
  | none => exact .pure _

theorem withArguments_respects {call : Variadic Script Registers α}
    (respects : call.Respects (OnState R)) (arguments : List Argument) :
    (withArguments arguments call).Respects R :=
  supplied_respects respects arguments fun _ gate => Gate.Admits.setAside gate gate.memory _

end Programmed

open Programmed

theorem AllocationCall.perform_respects (call : AllocationCall) : call.perform.Respects R := by
  have scratches (length : Int) : (AllocationCall.perform.scratch length).Respects R :=
    (raising_respects (Allocation.allocateScratch_respects length)).bind fun _ =>
      Respects.get.bind fun _ => (Allocation.releaseScratch_respects _).bind fun _ =>
        (Allocation.releaseScratch_respects _).bind fun _ => .pure _
  cases call with
  | allocate size =>
      exact (raising_respects (Allocation.orOutOfMemory_respects _)).bind fun _ => .pure _
  | allocateArray count size | allocateZeroed count size =>
      exact (raising_respects ((Allocation.checkedSize_respects count size).bind fun _ =>
        Allocation.orOutOfMemory_respects _)).bind fun _ => .pure _
  | reallocate block size =>
      exact (evalBlock_respects block).bind fun _ =>
        (raising_respects (Allocation.orOutOfMemory_respects _)).bind fun _ => .pure _
  | reallocateArray block count size =>
      exact (evalBlock_respects block).bind fun _ =>
        (raising_respects ((Allocation.checkedSize_respects count size).bind fun _ =>
          Allocation.orOutOfMemory_respects _)).bind fun _ => .pure _
  | release block =>
      exact (evalBlock_respects block).bind fun _ =>
        (Allocation.release_respects _).bind fun _ => .pure _
  | reportOverflow count size => exact raiseFault_respects _
  | reportOutOfMemory => exact Allocation.outOfMemory_respects
  | fill block bytes =>
      exact (evalBlock_respects _).bind fun _ =>
        (Respects.modify fun gate => Gate.Admits.setAside gate _ gate.program).bind
          fun _ => .pure _
  | peek block length =>
      exact (evalBlock_respects _).bind fun _ => Respects.get.bind fun _ => .pure _
  | scratch length | countedScratch length => exact scratches _
  | clear slots n => exact (evalAll_respects slots).bind fun _ => .pure _

theorem SymbolCall.perform_respects (call : SymbolCall) : call.perform.Respects R := by
  cases call with
  | isSymbol v =>
      exact (eval_respects v).bind fun _ =>
        (raising_respects (Symbols.respects_closed.symbol? _)).bind fun _ => .pure _
  | toId symbol =>
      exact (eval_respects symbol).bind fun _ =>
        (raising_respects (Symbols.respects_closed.toId _)).bind fun _ => .pure _
  | idOf name =>
      exact (eval_respects name).bind fun _ =>
        (raising_respects (Symbols.respects_closed.idOf _)).bind fun _ => .pure _
  | internText name | intern name =>
      exact (raising_respects (Symbols.respects_closed.intern _ _)).bind fun _ => .pure _
  | internEncoded name pointer =>
      exact (raising_respects (Strings.encodingOf_respects pointer)).bind fun _ =>
        (raising_respects (Symbols.respects_closed.intern _ _)).bind fun _ => .pure _
  | internString string =>
      exact (eval_respects string).bind fun _ =>
        (raising_respects (Symbols.respects_closed.internString _)).bind fun _ => .pure _
  | nameString v | copyName v | toSymbol v =>
      exact (eval_respects v).bind fun _ =>
        (raising_respects (onEngine_respects (Engine.perform_respects _ _))).bind fun _ => .pure _
  | nameStringOfId id =>
      exact (evalId_respects id).bind fun _ =>
        (raising_respects (Symbols.respects_closed.nameStringOfId _)).bind fun _ => .pure _
  | symbolOfId id =>
      exact (evalId_respects id).bind fun _ =>
        (raising_respects (Symbols.checkId_respects _)).bind fun _ => .pure _
  | nameOfId id =>
      exact (evalId_respects id).bind fun _ =>
        (raising_respects (Symbols.respects_closed.name? _)).bind fun _ => .pure _
  | setterId id =>
      exact (evalId_respects id).bind fun _ =>
        (raising_respects (Symbols.checkId_respects _)).bind fun _ =>
          (raising_respects ((onEngine_respects (Engine.perform_respects _ _)).bind
            Symbols.respects_closed.toId)).bind fun _ => .pure _
  | classify query id =>
      exact (evalId_respects id).bind fun _ =>
        (raising_respects (Symbols.checkId_respects _)).bind fun _ =>
          (raising_respects (onEngine_respects (ask_respects _ _))).bind fun _ => .pure _
  | existingId name =>
      refine (evalOption_respects name).bind fun name => ?_
      cases name with
      | none => exact .pure _
      | some name =>
          exact (raising_respects (Symbols.respects_closed.existingId? name)).bind fun _ => .pure _
  | existing name pointer =>
      exact (raising_respects (Strings.encodingOf_respects pointer)).bind fun _ =>
        (raising_respects (onEngine_respects ((newString_respects _ _).bind fun _ =>
          Engine.perform_respects _ _))).bind fun _ => .pure _
  | checkId id =>
      exact (evalId_respects id).bind fun _ => (Symbols.checkId_respects _).bind fun _ => .pure _

theorem StringCall.perform_respects (call : StringCall) : call.perform.Respects R := by
  cases call with
  | encodingIndex pointer =>
      exact (raising_respects (Strings.encodingOf_respects pointer)).bind fun _ => .pure _
  | encodingOfIndex index | abiVersion => exact .pure _
  | coderange string =>
      exact (eval_respects string).bind fun _ =>
        (raising_respects ((onEngine_respects (Engine.perform_respects _ _)).bind fun _ =>
          .pure _)).bind fun _ => .pure _
  | literal view pointer frozen =>
      cases frozen with
      | true => exact (raising_respects (Strings.frozenLiteral_respects _ _)).bind fun _ => .pure _
      | false => exact (raising_respects (Strings.ofLiteral_respects _ _)).bind fun _ => .pure _

namespace VariadicCall

theorem valued_respects {call : Variadic Script Registers Value}
    (respects : call.Respects (OnState R)) (direct : Bool) :
    (valued direct call).Respects (OnState R) := by
  cases direct with
  | true => exact respects.bind fun _ => .pure _
  | false => exact (Variadic.raising_respects respects).bind fun _ => .pure _

theorem warned_respects {call : Variadic Script Registers Unit}
    (respects : call.Respects (OnState R)) : (warned call).Respects (OnState R) :=
  respects.bind fun _ => onState_respects (host?_respects.bind fun _ => .pure _)

theorem perform_respects {run : Runner} {call : VariadicCall}
    (yields : ∀ n, call = .yieldValues n → ∀ block args, (run.callBlock block args).Respects R)
    (direct : Bool) : (call.perform run direct).Respects (OnState R) := by
  cases call with
  | newArray n => exact valued_respects (Records.newArray_respects n) direct
  | newRecord definition =>
      exact (onState_respects (eval_respects definition)).bind fun _ =>
        valued_respects (Records.newRecord_respects _ _) direct
  | define name => exact valued_respects (Records.define_respects name) direct
  | defineUnder scope name =>
      exact (onState_respects (eval_respects scope)).bind fun _ =>
        valued_respects (Records.defineUnder_respects _ _) direct
  | defineData superclass =>
      exact (onState_respects (eval_respects superclass)).bind fun _ =>
        valued_respects (Records.defineData_respects _) direct
  | yieldValues n => exact valued_respects (Blocks.yieldValues_respects (yields n rfl) n) direct
  | warnUnlessSilent format =>
      cases direct with
      | true => exact warned_respects (Reports.warn_respects format)
      | false => exact warned_respects (Reports.warnUnlessSilent_respects format)
  | warnIfVerbose format =>
      cases direct with
      | true => exact warned_respects (Reports.warn_respects format)
      | false => exact warned_respects (Reports.warnIfVerbose_respects format)
  | warnIfEnabled category format =>
      cases direct with
      | true => exact warned_respects (Reports.warnOf_respects category format)
      | false => exact warned_respects (Reports.warnIfEnabled_respects category format)
  | fatal format =>
      cases direct with
      | true =>
          exact (Reports.fatalException_respects format).bind fun _ =>
            (onState_respects host?_respects).bind fun _ => .pure _
      | false => exact Reports.fatal_respects format
  | bug format =>
      cases direct with
      | true => exact (Reports.bugReport_respects format).bind fun _ => .pure _
      | false => exact Reports.bug_respects format

end VariadicCall

theorem RaiseCall.perform_respects (call : RaiseCall) : call.perform.Respects R := by
  cases call with
  | raiseNew kind message =>
      exact (onEngine_respects (newException_respects kind message)).bind fun _ => .throw _
  | raise exception => exact (eval_respects exception).bind fun _ => .throw _
  | raiseFault fault => exact raiseFault_respects fault
  | raiseAgain exception => exact (eval_respects exception).bind fun _ => raiseFault_respects _
  | jump state => exact Protected.jump_respects state

theorem EngineCall.perform_respects {run : Runner} {call : EngineCall} (pinless : ¬ call.Pins)
    (yields : call.Yields → ∀ block args, (run.callBlock block args).Respects R) :
    (call.perform run).Respects R := by
  cases call with
  | invoke name args =>
      refine (evalAll_respects args).bind fun args => Respects.bind ?_ fun _ => .pure _
      unfold Blocks.invoke
      split
      · exact Blocks.yield_respects (yields ‹_›) args
      · exact onEngine_respects (invokeNamed_respects _ _)
  | invokePredicate name args =>
      refine (evalAll_respects args).bind fun args => Respects.bind ?_ fun _ => .pure _
      unfold Blocks.invokePredicate
      split
      · exact (Blocks.yield_respects (yields ‹_›) args).bind fun _ => .pure _
      · exact onEngine_respects (predicateNamed_respects _ _)
  | inspect v =>
      exact (eval_respects v).bind fun _ =>
        (onEngine_respects (inspect_respects _)).bind fun _ => .pure _
  | readString string =>
      exact (eval_respects string).bind fun _ =>
        (onEngine_respects (readString_respects _)).bind fun _ => .pure _
  | newString bytes encoding =>
      exact (onEngine_respects (newString_respects _ _)).bind fun _ => .pure _
  | newException kind message =>
      exact (onEngine_respects (newException_respects _ _)).bind fun _ =>
        host?_respects.bind fun _ => .pure _
  | idResult v => exact (eval_respects v).bind fun _ => .pure _
  | idArgument id =>
      exact (evalId_respects id).bind fun _ => (Symbols.checkId_respects _).bind fun _ => .pure _
  | describe v =>
      exact (eval_respects v).bind fun _ => (onHost_respects _).bind fun _ => .pure _
  | append string bytes =>
      exact (eval_respects string).bind fun string =>
        (changeHost_respects fun host => host.leads_act (.append string bytes)).bind
          fun _ => .pure _
  | constant scope name =>
      exact (eval_respects scope).bind fun _ => (onHost_respects _).bind fun _ => .pure _
  | defineClass name superclass =>
      exact (evalOption_respects superclass).bind fun superclass =>
        (changeHost_respects fun host => host.leads_act (.defineClass name superclass)).bind
          fun _ => .pure _
  | setVerbose v =>
      exact (eval_respects v).bind fun v =>
        (changeHost_respects fun host => host.leads_act (.setVerbose v)).bind fun _ => .pure _
  | setCategory category on =>
      exact (changeHost_respects fun host => host.leads_act (.setCategory category on)).bind
        fun _ => .pure _
  | warnings | operations => exact (onHost_respects _).bind fun _ => .pure _
  | clearOperations =>
      exact (changeHost_respects fun host => host.leads_act .clearLog).bind fun _ => .pure _
  | pin | pinRaise | unpin => exact absurd trivial pinless

end Respects

end NativeGate
