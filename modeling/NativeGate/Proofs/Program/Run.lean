import NativeGate.Proofs.Program.Conduct

namespace NativeGate

open Engine Native Proc Programmed Trailing

variable {R : Gate Script Registers → Gate Script Registers → Prop}

namespace Call

/-- The programs that a call runs.  Those of blocks wait for a yield. -/
def parts : Call → List Script
  | .rescue body _ handler _ | .rescueListed body _ handler _ _ _ => body :: handler.toList
  | .ensure body _ cleanup _ => [body, cleanup]
  | .protect body _ _ | .withBlock _ body => [body]
  | _ => []

def Pins : Call → Prop
  | .engine call => call.Pins
  | _ => False

def Scopes : Call → Prop
  | .context (.enter ..) | .context .leave => True
  | _ => False

def Yields : Call → Prop
  | .variadic (.yieldValues _) _ _ => True
  | .engine call => call.Yields
  | _ => False

/-- The call may pin answers to an engine or choose another one. -/
def Rearranges : Call → Prop
  | .engine call => call.Pins
  | .context _ => True
  | _ => False

theorem perform_respects [Gate.Permits R] {run : Runner} {call : Call}
    (parts : ∀ part ∈ call.parts, ∀ bindings, (run part bindings).Respects R)
    (yields : call.Yields → ∀ block args, (run.callBlock block args).Respects R)
    (rearranges : call.Rearranges → (call.perform run).Respects R) :
    (call.perform run).Respects R := by
  have handlers {body : Script} {handler : Option Script}
      (handled : call.parts = body :: handler.toList) (data : Value) :
      ∀ given ∈ handlerOf run handler data, ∀ exception, (given exception).Respects R := by
    intro given member exception
    obtain ⟨script, isScript, rfl⟩ := Option.map_eq_some_iff.mp member
    refine parts script ?_ _
    rw [handled]
    exact List.mem_cons_of_mem _ (Option.mem_toList.mpr isScript)
  cases call with
  | allocation call => exact call.perform_respects
  | symbol call => exact call.perform_respects
  | string call => exact call.perform_respects
  | raise call => exact call.perform_respects
  | context call => exact rearranges trivial
  | engine call =>
      by_cases pins : call.Pins
      · exact rearranges pins
      · exact call.perform_respects pins yields
  | variadic call arguments direct =>
      refine (evalArguments_respects arguments).bind fun _ => withArguments_respects ?_ _
      refine call.perform_respects (fun n same => ?_) direct
      subst same
      exact yields trivial
  | format template arguments =>
      exact (evalArguments_respects arguments).bind fun _ => engineNumber_respects.bind fun _ =>
        withArguments_respects ((Variadic.atEngine_respects (Format.render_respects _) _).bind
          fun _ => .pure _) _
  | rescue body data handler handlerData =>
      exact (eval_respects data).bind fun _ => (eval_respects handlerData).bind fun _ =>
        (raising_respects (Protected.rescue_respects (parts body List.mem_cons_self _)
          (handlers rfl _))).bind fun _ => .pure _
  | rescueListed body data handler handlerData arguments direct =>
      exact (eval_respects data).bind fun _ => (eval_respects handlerData).bind fun _ =>
        (evalArguments_respects arguments).bind fun _ =>
          withArguments_respects (VariadicCall.valued_respects
            (Protected.rescueListed_respects (parts body List.mem_cons_self _)
              (handlers rfl _)) direct) _
  | ensure body data cleanup cleanupData =>
      exact (eval_respects data).bind fun _ => (eval_respects cleanupData).bind fun _ =>
        (Protected.ensure_respects (parts body List.mem_cons_self _)
          (parts cleanup (List.mem_cons_of_mem _ List.mem_cons_self) _)).bind fun _ => .pure _
  | protect body data hasState =>
      exact (eval_respects data).bind fun _ =>
        (Protected.protectInto_respects (parts body List.mem_cons_self _) _).bind fun _ =>
          Respects.get.bind fun _ => .pure _
  | withBlock block body =>
      refine Respects.bind (engineNumber_respects.bind fun number => ?_) fun _ => .pure _
      exact Blocks.withBlockOn_respects number block (parts body List.mem_cons_self [])

end Call

namespace Step

theorem answered_respects [Gate.Permits R] {run : Runner} {step : Step}
    (performs : (step.call.perform run).Respects R) : (step.answered run).Respects R :=
  Respects.get.bind fun _ => (modifyRegisters_respects _).bind fun _ =>
    performs.attempt.bind fun _ => Respects.get.bind fun _ => host?_respects.bind fun _ =>
      (modifyRegisters_respects _).bind fun _ => .pure _

theorem perform_respects [Gate.Permits R] {run : Runner} {step : Step}
    (performs : (step.call.perform run).Respects R) : (step.perform run).Respects R := by
  refine (answered_respects performs).bind fun (answer, result) =>
    (modifyRegisters_respects _).bind fun _ => ?_
  rcases result with exit | value
  · cases exit with
    | failed fault => exact .pure _
    | _ => exact .throw _
  · exact .pure _

end Step

namespace Script

theorem performAll_respects [Gate.Permits R] {run : Runner} {steps : List Step}
    (performs : ∀ step ∈ steps, (step.call.perform run).Respects R) :
    (performAll run steps).Respects R := by
  induction steps with
  | nil => exact .pure _
  | cons step rest ih =>
      exact (Step.perform_respects (performs step List.mem_cons_self)).bind fun _ =>
        ih fun other member => performs other (List.mem_cons_of_mem step member)

/-- A program respects `R` if its calls that may rearrange engines do, as long as `P` passes on to
the parts of a call, and to blocks where there are yields. -/
theorem runWithin_respects [Gate.Permits R] {P : Script → Prop}
    (parts : ∀ script, P script → ∀ step ∈ script.steps, ∀ part ∈ step.call.parts, P part)
    (yields : ∀ script, P script → ∀ step ∈ script.steps, step.call.Yields → ∀ block, P block)
    (rearranges : ∀ script, P script → ∀ step ∈ script.steps, step.call.Rearranges →
      ∀ run, (step.call.perform run).Respects R)
    (depth : Nat) {script : Script} (holds : P script) (bindings : List (String × Value)) :
    (runWithin depth script bindings).Respects R := by
  -- Parts and blocks run one level deeper; a block need not be a part of the program that yields.
  induction depth generalizing script bindings with
  | zero => exact .throw _
  | succ depth ih =>
      refine (modifyRegisters_respects _).bind fun _ => Respects.bind ?_ fun _ => eval_respects _
      refine performAll_respects fun step member => Call.perform_respects ?_ ?_ ?_
      · exact fun part isPart bindings => ih (parts script holds step member part isPart) bindings
      · exact fun yielding block args => ih (yields script holds step member yielding block) _
      · exact fun rearranging => rearranges script holds step member rearranging _

/-- `Q` holds of all calls of a program and of the programs these run. -/
inductive All (Q : Call → Prop) : Script → Prop
  | mk {script : Script} (calls : ∀ step ∈ script.steps, Q step.call)
      (parts : ∀ step ∈ script.steps, ∀ part ∈ step.call.parts, All Q part) : All Q script

theorem All.single {Q : Call → Prop} {call : Call} (holds : Q call) (alone : call.parts = [])
    (label : Option String) (result : Operand) : (Script.mk [.mk label call] result).All Q := by
  constructor
  · intro step member
    cases List.mem_singleton.mp member
    exact holds
  · intro step member part isPart
    cases List.mem_singleton.mp member
    change part ∈ call.parts at isPart
    rw [alone] at isPart
    cases isPart

theorem All.runWithin_respects [Gate.Permits R] {Q : Call → Prop}
    (quiet : ∀ call, Q call → ¬ call.Yields)
    (rearranges : ∀ call, Q call → call.Rearranges → ∀ run, (call.perform run).Respects R)
    (depth : Nat) {script : Script} (all : script.All Q) (bindings : List (String × Value)) :
    (runWithin depth script bindings).Respects R := by
  refine Script.runWithin_respects ?_ ?_ ?_ depth all bindings
  · rintro script ⟨-, parts⟩
    exact parts
  · rintro script ⟨calls, -⟩ step member yielding
    exact absurd yielding (quiet _ (calls step member))
  · rintro script ⟨calls, -⟩ step member
    exact rearranges _ (calls step member)

end Script

theorem EngineCall.perform_respects_of_pins [Gate.Permits R]
    (related : ∀ (gate : Gate Script Registers) number engine,
      (gate.engine number).host.Leads engine.host → R gate (gate.setEngine number engine))
    {call : EngineCall} (pins : call.Pins) (run : Runner) : (call.perform run).Respects R := by
  have pinning {change : Engine Script → Engine Script}
      (aside : ∀ engine : Engine Script, engine.host.Leads (change engine).host) :
      (EngineCall.pinning change).Respects R := by
    refine Respects.bind (engineNumber_respects.bind fun number => ?_) fun _ => .pure _
    exact Respects.zoom (S := fun before after => before.host.Leads after.host)
      (Respects.modify aside) fun gate engine => related gate number engine
  cases call with
  | pin name v | pinRaise name v =>
      exact (eval_respects v).bind fun _ => pinning fun engine => .refl _
  | unpin name => exact pinning fun engine => .refl _
  | _ => exact absurd pins id

theorem ContextCall.perform_respects [Std.Refl R] [IsTrans _ R]
    (related : ∀ gate context, R gate { gate with context }) (call : ContextCall) :
    call.perform.Respects R := by
  have changing (change : Context → Context) : (ContextCall.changing change).Respects R :=
    (Respects.modify fun gate => related gate _).bind fun _ => .pure _
  cases call with
  | enter | leave => exact changing _
  | install engine settings =>
      refine Respects.get.bind fun gate => ?_
      cases gate.context.install? { engine, settings } with
      | some context => exact changing _
      | none => exact .throw _
  | current => exact Respects.get.bind fun _ => .pure _

theorem Call.perform_leads_of_rearranges {call : Call} (rearranges : call.Rearranges)
    (run : Runner) : (call.perform run).Respects Gate.Leads := by
  cases call with
  | engine call =>
      exact call.perform_respects_of_pins (fun gate _ _ => gate.leads_setEngine) rearranges run
  | context call => exact call.perform_respects fun _ _ _ => .refl _
  | _ => exact absurd rearranges id

theorem Script.run_leads (script : Script) (bindings : List (String × Value)) :
    (Script.run script bindings).Respects Gate.Leads :=
  runWithin_respects (P := fun _ => True) (fun _ _ _ _ _ _ => trivial)
    (fun _ _ _ _ _ _ => trivial) (fun _ _ _ _ => Call.perform_leads_of_rearranges) deepest trivial
    bindings

namespace Session

inductive Visits : World → List Step → World → Prop
  | here (world : World) (steps : List Step) : Visits world steps world
  | later {world after last : World} {step : Step} {rest : List Step}
      {answer : Answer × Except Exit Result}
      (ran : (step.answered Script.run).runOn world = (.ok answer, after))
      (visits : Visits after rest last) : Visits world (step :: rest) last

theorem Visits.leads {world last : World} {steps : List Step} (visits : Visits world steps last) :
    world.Leads last := by
  induction visits with
  | here world steps => exact refl_of Gate.Leads world
  | @later world after last step rest answer ran visits ih =>
      have answers : (step.answered Script.run).Respects Gate.Leads :=
        Step.answered_respects <| Call.perform_respects (fun part _ => part.run_leads)
          (fun _ block _ => block.run_leads _) fun rearranges =>
            Call.perform_leads_of_rearranges rearranges _
      have led := answers world
      rw [ran] at led
      exact trans_of Gate.Leads led ih

theorem Visits.reachable {session : Session} {world : World}
    (visits : Visits session.start session.steps world) (number : Nat) :
    (world.engine number).host.Reachable :=
  visits.leads number

end Session

theorem ContextCall.install_restores (engine : Nat) (settings : Settings) :
    (ContextCall.perform (.install engine settings)).Respects
      (Order.Preimage Gate.context Context.Restored) := by
  intro gate
  -- What is installed depends on the context before, which `Respects.bind` would forget.
  have ran : ((ContextCall.perform (.install engine settings)).runOn gate).2.context =
      (gate.context.install? { engine, settings }).getD gate.context := by
    rw [ContextCall.perform, runOn_bind, runOn_get]
    dsimp only
    cases gate.context.install? { engine, settings } <;> rfl
  change gate.context.Restored _
  rw [ran, Context.install?]
  cases installed : gate.context.installed with
  | some scope => exact refl_of Context.Restored _
  | none => exact ⟨rfl, by simp [installed]⟩

theorem Step.perform_neverFails (run : Runner) (step : Step) : (step.perform run).NeverFails := by
  have answers : (step.answered run).NeverFails :=
    get_neverFails.bind fun _ => (modify_neverFails _).bind fun _ =>
      (attempt_neverFails _).bind fun _ => get_neverFails.bind fun _ =>
        (get_neverFails.bind fun _ => pure_neverFails _).bind fun _ =>
          (modify_neverFails _).bind fun _ => pure_neverFails _
  refine answers.bind fun (answer, result) => (modify_neverFails _).bind fun _ => ?_
  rcases result with exit | value
  · cases exit with
    | failed fault => exact pure_neverFails _
    | _ => exact throw_neverFails nofun
  · exact pure_neverFails _

namespace Script

theorem performAll_neverFails (run : Runner) (steps : List Step) :
    (performAll run steps).NeverFails := by
  induction steps with
  | nil => exact pure_neverFails _
  | cons step rest ih => exact (step.perform_neverFails run).bind fun _ => ih

theorem runWithin_neverFails (depth : Nat) (script : Script) (bindings : List (String × Value)) :
    (runWithin depth script bindings).NeverFails := by
  cases depth with
  | zero => exact throw_neverFails nofun
  | succ depth =>
      refine (modify_neverFails _).bind fun _ => (performAll_neverFails _ _).bind fun _ => ?_
      cases script.result with
      | value v => exact pure_neverFails _
      | label | symbolOf => exact get_neverFails.bind fun _ => pure_neverFails _

theorem All.callback {script : Script}
    (all : script.All fun call => ¬ call.Yields ∧ ¬ call.Pins) (bindings : List (String × Value)) :
    (Script.run script bindings).Callback where
  advances := by
    refine All.runWithin_respects (fun _ holds => holds.1) ?_ deepest all bindings
    rintro call ⟨-, pinless⟩ rearranges run
    cases call with
    | engine call => exact absurd rearranges pinless
    | context call => exact call.perform_respects fun _ _ _ => .refl _
    | _ => exact absurd rearranges id
  raises := runWithin_neverFails deepest script bindings

theorem All.balanced {script : Script}
    (all : script.All fun call => ¬ call.Yields ∧ ¬ call.Scopes)
    (bindings : List (String × Value)) : (Script.run script bindings).Balanced := by
  have restores : (Script.run script bindings).Respects
      (Order.Preimage Gate.context Context.Restored) := by
    refine All.runWithin_respects (fun _ holds => holds.1) ?_ deepest all bindings
    rintro call ⟨-, still⟩ rearranges run
    cases call with
    | engine call =>
        exact call.perform_respects_of_pins
          (fun gate _ _ _ => refl_of Context.Restored gate.context) rearranges run
    | context call =>
        cases call with
        | enter | leave => exact absurd trivial still
        | current => exact Respects.get.bind fun _ => .pure _
        | install engine settings => exact ContextCall.install_restores engine settings
    | _ => exact absurd rearranges id
  exact fun gate => .inr (restores gate)

end Script

end NativeGate
