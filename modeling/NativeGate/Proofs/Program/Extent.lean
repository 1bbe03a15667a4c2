import NativeGate.Proofs.Gate.Extent
import NativeGate.Proofs.Program.Run

namespace NativeGate

open Engine Native Proc Programmed Trailing

/-- How a program is run within calls that have these blocks, innermost first for each engine. -/
abbrev ScopedRunner := (Nat → List Script) → Runner

namespace Call

/-- What a call does when `active` are the blocks of the calls it is within: a yield goes by these
alone. -/
def performScoped (run : ScopedRunner) (active : Nat → List Script) : Call → Programmed Result
  | .withBlock block body => do
      let number ← Native.engineNumber
      let _ ← Blocks.withBlockOn number block (run (Blocks.within active number block) body [])
      return .nothing
  | .variadic (.yieldValues n) arguments direct => do
      let arguments ← evalArguments arguments
      withArguments arguments <| VariadicCall.valued direct <|
        Blocks.yieldValuesTo active (run active).callBlock n
  | .engine (.invoke name args) => do
      let args ← evalAll args
      if name = yieldName then
        return .value (← Blocks.yieldTo active (run active).callBlock args)
      else return .value (← Native.onEngine (Engine.invokeNamed name args))
  | .engine (.invokePredicate name args) => do
      let args ← evalAll args
      if name = yieldName then
        return .flag (← Blocks.yieldTo active (run active).callBlock args).isTruthy
      else return .flag (← Native.onEngine (Engine.predicateNamed name args))
  | call => call.perform (run active)

end Call

namespace Step

/-- Run a step as `answered` does, whatever calls do. -/
def answeredBy (perform : Call → Programmed Result) (step : Step) :
    Programmed (Answer × Except Exit Result) := do
  let outer := (← get).program
  modifyRegisters fun registers => { registers with trace := [], reads := none }
  let result ← (perform step.call).attempt
  let inner := (← get).program
  let outcome := Outcome.ofResult (← host?) result
  modifyRegisters fun registers =>
    let registers := { registers with trace := outer.trace, reads := outer.reads }
    match step.label with
    | some label => registers.bindResult label result
    | none => registers
  return ({ outcome, reads := inner.reads, trace := inner.trace }, result)

def performBy (perform : Call → Programmed Result) (step : Step) : Programmed Unit := do
  let (answer, result) ← step.answeredBy perform
  modifyRegisters fun registers => { registers with trace := registers.trace ++ [answer] }
  match result with
  | .ok _ => return ()
  | .error (.failed _) => return ()
  | .error exit => throw exit

end Step

namespace Script

def performAllBy (perform : Call → Programmed Result) : List Step → Programmed Unit
  | [] => return ()
  | step :: rest => do
      step.performBy perform
      performAllBy perform rest

/-- Run a program as `runWithin` does, but with blocks handed down. -/
def runScoped : Nat → ScopedRunner
  | 0 => fun _ _ _ => Native.abort
  | depth + 1 => fun active script bindings => do
      modifyRegisters (·.bindAll bindings)
      performAllBy (Call.performScoped (runScoped depth) active) script.steps
      eval script.result

end Script

section Agreement

variable {active : Nat → List Script} {run : Runner} {run' : ScopedRunner}

theorem VariadicCall.valued_agree {call call' : Variadic Script Registers Value}
    (agree : AgreeOn (Trailing.Holds (Gate.Holds active)) call call') (direct : Bool) :
    AgreeOn (Trailing.Holds (Gate.Holds active)) (valued direct call) (valued direct call') := by
  cases direct with
  | true => exact agree.bind fun _ => .pure _
  | false => exact (Variadic.raising_agree agree).bind fun _ => .pure _

theorem VariadicCall.perform_agree (run other : Runner) {call : VariadicCall}
    (quiet : ∀ n, call ≠ .yieldValues n) (direct : Bool) :
    AgreeOn (Trailing.Holds (Gate.Holds active)) (call.perform run direct)
      (call.perform other direct) := by
  have same : call.perform other direct = call.perform run direct := by
    cases call with
    | yieldValues n => exact absurd rfl (quiet n)
    | _ => rfl
  rw [same]
  exact Variadic.agree_self (call.perform_respects (fun n yields => absurd yields (quiet n)) direct)

theorem Programmed.withArguments_agree {α : Type} {call call' : Variadic Script Registers α}
    (agree : AgreeOn (Trailing.Holds (Gate.Holds active)) call call') (arguments : List Argument) :
    AgreeOn (Gate.Holds active) (withArguments arguments call) (withArguments arguments call') :=
  supplied_agree agree arguments fun _ _ => id

theorem EngineCall.pinning_agree (change : Engine Script → Engine Script)
    (kept : ∀ engine : Engine Script, (change engine).blocks = engine.blocks) :
    AgreeOn (Gate.Holds active) (pinning change) (pinning change) := by
  refine AgreeOn.bind ((Native.agree_self engineNumber_respects).bind fun number => ?_)
    fun _ => .pure _
  refine Native.agree_self fun gate => ?_
  change gate.blocks = (gate.setEngine number (change (gate.engine number))).blocks
  rw [Gate.blocks_setEngine, kept]
  exact (Function.update_eq_self number gate.blocks).symm

theorem EngineCall.perform_agree
    (blocks : ∀ block args,
      AgreeOn (Gate.Holds active) (run.callBlock block args) ((run' active).callBlock block args))
    (call : EngineCall) :
    AgreeOn (Gate.Holds active) (call.perform run)
      ((Call.engine call).performScoped run' active) := by
  cases call with
  | invoke name args =>
      refine (Native.agree_self (evalAll_respects args)).bind fun args => ?_
      unfold Blocks.invoke
      split
      · exact (Blocks.yield_agree blocks args).bind fun _ => .pure _
      · exact (Native.agree_self (onEngine_respects (invokeNamed_respects _ _))).bind fun _ =>
          .pure _
  | invokePredicate name args =>
      refine (Native.agree_self (evalAll_respects args)).bind fun args => ?_
      unfold Blocks.invokePredicate
      split
      · rw [bind_assoc]
        exact (Blocks.yield_agree blocks args).bind fun _ => .pure _
      · exact (Native.agree_self (onEngine_respects (predicateNamed_respects _ _))).bind fun _ =>
          .pure _
  | pin name v | pinRaise name v =>
      exact (Native.agree_self (eval_respects v)).bind fun _ => pinning_agree _ fun _ => rfl
  | unpin name => exact pinning_agree _ fun _ => rfl
  | _ => exact Native.agree_self (@EngineCall.perform_respects _ _ run _ id nofun)

theorem ContextCall.perform_agree (call : ContextCall) :
    AgreeOn (Gate.Holds active) call.perform call.perform :=
  Native.agree_self (call.perform_respects fun _ _ => rfl)

namespace Call

theorem perform_agree
    (agree : ∀ active script bindings,
      AgreeOn (Gate.Holds active) (run script bindings) (run' active script bindings))
    (call : Call) :
    AgreeOn (Gate.Holds active) (call.perform run) (call.performScoped run' active) := by
  have blocks (block : Script) (args : List Value) :
      AgreeOn (Gate.Holds active) (run.callBlock block args) ((run' active).callBlock block args) :=
    agree active block _
  have handlers (handler : Option Script) (data : Value) :
      Option.Rel (fun given given' =>
          ∀ exception, AgreeOn (Gate.Holds active) (given exception) (given' exception))
        (handlerOf run handler data) (handlerOf (run' active) handler data) := by
    cases handler with
    | none => exact .none
    | some handler => exact .some fun exception => agree active handler _
  have evaluates (operand : Operand) : AgreeOn (Gate.Holds active) (eval operand) (eval operand) :=
    Native.agree_self (eval_respects operand)
  have reads (forms : List ArgumentForm) :
      AgreeOn (Gate.Holds active) (evalArguments forms) (evalArguments forms) :=
    Native.agree_self (evalArguments_respects forms)
  cases call with
  | allocation call => exact Native.agree_self call.perform_respects
  | symbol call => exact Native.agree_self call.perform_respects
  | string call => exact Native.agree_self call.perform_respects
  | raise call => exact Native.agree_self call.perform_respects
  | context call => exact call.perform_agree
  | format template arguments =>
      exact (reads arguments).bind fun _ => (Native.agree_self engineNumber_respects).bind fun _ =>
        withArguments_agree (Variadic.agree_self
          ((Variadic.atEngine_respects (Format.render_respects _) _).bind fun _ => .pure _)) _
  | variadic call arguments direct =>
      cases call with
      | yieldValues n =>
          exact (reads arguments).bind fun _ => withArguments_agree
            (VariadicCall.valued_agree (Blocks.yieldValues_agree blocks n) direct) _
      | _ =>
          refine (reads arguments).bind fun _ => withArguments_agree
            (VariadicCall.perform_agree run (run' active) ?_ direct) _
          exact fun _ => nofun
  | engine call => exact call.perform_agree blocks
  | rescue body data handler handlerData =>
      exact (evaluates data).bind fun _ => (evaluates handlerData).bind fun _ =>
        (Native.raising_agree (Protected.rescue_agree (agree active body _)
          (handlers handler _))).bind fun _ => .pure _
  | rescueListed body data handler handlerData arguments direct =>
      exact (evaluates data).bind fun _ => (evaluates handlerData).bind fun _ =>
        (reads arguments).bind fun _ => withArguments_agree (VariadicCall.valued_agree
          (Protected.rescueListed_agree (agree active body _) (handlers handler _)) direct) _
  | ensure body data cleanup cleanupData =>
      exact (evaluates data).bind fun _ => (evaluates cleanupData).bind fun _ =>
        (Protected.ensure_agree (agree active body _) (agree active cleanup _)).bind
          fun _ => .pure _
  | protect body data hasState =>
      exact (evaluates data).bind fun _ =>
        (Protected.protectInto_agree (agree active body _) _).bind fun _ =>
          AgreeOn.get.bind fun _ => .pure _
  | withBlock block body =>
      rw [perform, Blocks.withBlock, bind_assoc]
      exact (Native.agree_self engineNumber_respects).bind fun number =>
        (Blocks.withBlockOn_agree (agree _ body [])).bind fun _ => .pure _

end Call

namespace Step

variable {perform : Call → Programmed Result} {step : Step}

theorem answered_agree
    (agree : AgreeOn (Gate.Holds active) (step.call.perform run) (perform step.call)) :
    AgreeOn (Gate.Holds active) (step.answered run) (step.answeredBy perform) :=
  AgreeOn.get.bind fun _ => (Native.agree_self (modifyRegisters_respects _)).bind fun _ =>
    agree.attempt.bind fun _ => AgreeOn.get.bind fun _ =>
      (Native.agree_self host?_respects).bind fun _ =>
        (Native.agree_self (modifyRegisters_respects _)).bind fun _ => .pure _

theorem perform_agree
    (agree : AgreeOn (Gate.Holds active) (step.call.perform run) (perform step.call)) :
    AgreeOn (Gate.Holds active) (step.perform run) (step.performBy perform) := by
  refine (answered_agree agree).bind fun (answer, result) =>
    (Native.agree_self (modifyRegisters_respects _)).bind fun _ => ?_
  rcases result with exit | value
  · cases exit with
    | failed fault => exact .pure _
    | _ => exact .throw _
  · exact .pure _

end Step

namespace Script

theorem performAll_agree {perform : Call → Programmed Result}
    (agree : ∀ call : Call, AgreeOn (Gate.Holds active) (call.perform run) (perform call))
    (steps : List Step) :
    AgreeOn (Gate.Holds active) (performAll run steps) (performAllBy perform steps) := by
  induction steps with
  | nil => exact .pure _
  | cons step rest ih => exact (Step.perform_agree (agree step.call)).bind fun _ => ih

theorem runWithin_agree (depth : Nat) (active : Nat → List Script) (script : Script)
    (bindings : List (String × Value)) :
    AgreeOn (Gate.Holds active) (runWithin depth script bindings)
      (runScoped depth active script bindings) := by
  -- One level down there may be one block more, so the blocks are not fixed.
  induction depth generalizing active script bindings with
  | zero => exact .throw _
  | succ depth ih =>
      exact (Native.agree_self (modifyRegisters_respects _)).bind fun _ =>
        (performAll_agree (Call.perform_agree ih) script.steps).bind fun _ =>
          Native.agree_self (eval_respects _)

end Script

end Agreement

namespace Session

theorem Visits.blocks_eq {world last : World} {steps : List Step}
    (visits : Visits world steps last) : last.blocks = world.blocks := by
  induction visits with
  | here world steps => rfl
  | @later world after last step rest answer ran visits ih =>
      have agree : AgreeOn (Gate.Holds world.blocks) (step.answered Script.run)
          (step.answeredBy (Call.performScoped (Script.runScoped Script.deepest) world.blocks)) :=
        Step.answered_agree (Call.perform_agree (Script.runWithin_agree Script.deepest) step.call)
      have kept := (agree world rfl).2
      rw [ran] at kept
      exact ih.trans (kept nofun)

end Session

namespace Script

/-- Blocks have dynamic extent.  However a call ends short of aborting, it does what it would if
blocks were handed down to what runs within it, and leaves engines with the blocks they had; between
the steps of a session there are none.  A yield calls the innermost block handed down, once and with
the values read, and raises an exception if there is none. -/
theorem blocks_have_dynamic_extent :
    (∀ (depth : Nat) (call : Call) (gate : Gate Script Registers),
      let ran := (call.perform (runWithin depth)).runOn gate
      ran = (call.performScoped (runScoped depth) gate.blocks).runOn gate ∧
      (ran.1 ≠ .error .aborted → ran.2.blocks = gate.blocks)) ∧
    (∀ (session : Session) (world : Session.World),
      Session.Visits session.start session.steps world → world.blocks = fun _ => []) ∧
    ∀ {β ω : Type} (call : Blocks.Caller β ω) (active : Nat → List β) (gate : Gate β ω)
      (scope : Scope) (n : Int) (arguments : List Argument),
      gate.context.current? = some scope → (gate.engine scope.engine).pinned = [] →
      n.toNat ≤ arguments.length →
      (∀ argument ∈ arguments.take n.toNat, argument.fits .value = true) →
      let values := (arguments.take n.toNat).map fun argument => Value.mk argument.word
      let rest := (Cursor.start arguments).afterValues n.toNat (arguments.drop n.toNat)
      let yields := Blocks.yieldValuesTo active call n
      (∀ block outer, active scope.engine = block :: outer →
        let noted := gate.changeHost scope.engine (·.note yieldName)
        yields.runOn (.start arguments, gate) =
          (onState (call block values)).runOn (rest, noted) ∧
        (Variadic.raising yields).runOn (.start arguments, gate) =
          (onState (Native.raising (call block values))).runOn (rest, noted)) ∧
      (active scope.engine = [] →
        let host := (gate.engine scope.engine).host
        let exception := (Blocks.refusal host).1
        let after := gate.changeHost scope.engine (Blocks.refusal · |>.2)
        (host.objects.size < ObjectTable.capacity →
          (Blocks.refusal host).2.exceptionKind? exception = some .localJumpError) ∧
        yields.runOn (.start arguments, gate) =
          (.error (.failed (.raised exception)), rest, after) ∧
        (Variadic.raising yields).runOn (.start arguments, gate) =
          (.error (.raised exception), rest, after)) := by
  refine ⟨fun depth call gate => ?_, ?_, ?_⟩
  · exact Call.perform_agree (runWithin_agree depth) call gate rfl
  · intro session world visits
    exact visits.blocks_eq
  · intro β ω call active gate scope n arguments current unpinned enough fits
    refine ⟨fun block outer handed => ?_, fun none => ⟨Blocks.exceptionKind?_refusal, ?_, ?_⟩⟩
    · have called :=
        Blocks.runOn_yieldValuesTo_of_block call current unpinned enough fits handed
      exact ⟨called, Variadic.raising_onState called⟩
    · exact Blocks.runOn_yieldValuesTo_of_none call current unpinned enough fits none
    · exact Blocks.runOn_raising_yieldValuesTo_of_none call current unpinned enough fits none

theorem blocks_have_dynamic_extent_unwound :
    let outer : Script := .mk [] (.value .yes)
    let inner : Script := .mk [] (.label "$0")
    let unwound : Script :=
      .mk [.mk none (.withBlock inner (.mk [.mk none (.raise (.raise (.value .yes)))]
        (.value .nil)))] (.value .nil)
    let body : Script :=
      .mk [.mk none (.protect unwound (.value .nil) false),
        .mk (some "yielded") (.variadic (.yieldValues 1) [.fixed (.value .no)] false)] (.value .nil)
    let gate : Gate Script Registers := .installed {}
    let ran := ((Call.withBlock outer body).perform (runWithin 4)).runOn gate
    let session : Session := { steps := [.mk none (.withBlock outer body)], entered := some {} }
    let echo : Blocks.Caller Unit Unit := fun _ args => pure (args.headD .nil)
    let yields (active : List Unit) (n : Int) :=
      ((Blocks.yieldValuesTo (fun _ => active) echo n).runOn
        (.start [.value .no, .integer 3], .installed ())).1
    ran.1 = .ok .nothing ∧ ran.2.program.word "yielded" = Value.yes.bits ∧
      ran.2.blocks = gate.blocks ∧ session.start.blocks = (fun _ => []) ∧
      yields [()] 1 = .ok .no ∧ yields [] (-1) = .error (.failed (.raised (.handle 20))) := by
  intro outer inner unwound body gate ran session echo yields
  obtain ⟨calls, visits, yielding⟩ := blocks_have_dynamic_extent
  have returned : ran.1 = .ok .nothing := by decide +kernel
  have yielded : ran.2.program.word "yielded" = Value.yes.bits := by decide +kernel
  have alive : ran.1 ≠ .error .aborted := by
    rw [returned]
    exact nofun
  refine ⟨returned, yielded, (calls 4 (.withBlock outer body) gate).2 alive,
    visits session _ (.here _ _), ?_, ?_⟩
  · obtain ⟨called, -⟩ := yielding echo (fun _ => [()]) (.installed ()) _ 1
      [.value .no, .integer 3] rfl rfl (by decide) (by decide)
    exact congrArg Prod.fst (called () [] rfl).1
  · obtain ⟨-, refused⟩ := yielding echo (fun _ => []) (.installed ()) _ (-1)
      [.value .no, .integer 3] rfl rfl (by decide) (by decide)
    exact congrArg Prod.fst (refused rfl).2.1

end Script

end NativeGate
