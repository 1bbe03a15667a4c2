import NativeGate.Proofs.Agreement
import NativeGate.Proofs.Gate.Conduct
import NativeGate.Proofs.Gate.Invocation
import NativeGate.Proofs.Gate.Protected

namespace NativeGate

/-! The blocks that engines hold, and the blocks that are handed down. -/

open Engine Native Proc Trailing

variable {α β ω : Type}

namespace Gate

/-- Innermost first. -/
def blocks (gate : Gate β ω) (number : Nat) : List β :=
  (gate.engine number).blocks

def Holds (active : Nat → List β) (gate : Gate β ω) : Prop :=
  gate.blocks = active

theorem blocks_setEngine (gate : Gate β ω) (number : Nat) (engine : Engine β) :
    (gate.setEngine number engine).blocks = Function.update gate.blocks number engine.blocks := by
  funext other
  by_cases same : other = number
  · subst other
    simp [blocks]
  · simp [blocks, same]

instance : Admits (Order.Preimage (blocks (β := β) (ω := ω)) Eq) where
  act gate number engine acts := by
    change gate.blocks = (gate.setEngine number engine).blocks
    rw [blocks_setEngine, acts.eq_host]
    exact (Function.update_eq_self number gate.blocks).symm
  setAside _ _ _ := rfl

end Gate

namespace Blocks

def within (active : Nat → List β) (number : Nat) (block : β) : Nat → List β :=
  Function.update active number (block :: active number)

def startYieldTo (block? : Option β) : Proc (Engine β) (Value ⊕ β) :=
  Engine.unlessPinned yieldName .inl do
    modify fun engine => { engine with host := engine.host.note yieldName }
    match block? with
    | some block => return .inr block
    | none => Engine.failWith .localJumpError noBlockText

/-- Yield to the innermost of the blocks handed down, whatever the engine holds. -/
def yieldTo (active : Nat → List β) (call : Caller β ω) (args : List Value) :
    Native β ω Value := do
  let number ← Native.engineNumber
  match ← Native.atEngine number (startYieldTo (active number).head?) with
  | .inl v => return v
  | .inr block => call block args

/-- The exception for a yield without a block. -/
def refusal (host : Host) : Value × Host :=
  (host.note yieldName).newException .localJumpError noBlockText

theorem exceptionKind?_refusal {host : Host} (room : host.objects.size < ObjectTable.capacity) :
    (refusal host).2.exceptionKind? (refusal host).1 = some .localJumpError := by
  have other : ErrorKind.localJumpError ≠ .noMemoryError := by decide
  have stored := @Host.newException_get? (host.note yieldName) room _ other noBlockText
  exact Host.exceptionKind?_of_get? stored

def yieldValuesTo (active : Nat → List β) (call : Caller β ω) (n : Int) :
    Variadic β ω Value := do
  let values ← Cursor.readValues n.toNat
  (yieldTo active call values : Native β ω Value)

end Blocks

theorem Variadic.raising_onState {p : Variadic β ω α} {q : Native β ω α}
    {s s' : Cursor × Gate β ω} (same : p.runOn s = (onState q).runOn s') :
    (raising p).runOn s = (onState (Native.raising q)).runOn s' := by
  rw [Variadic.runOn_raising, same, runOn_onState, runOn_onState, Native.runOn_raising]
  rcases q.runOn s'.2 with ⟨exit | a, after⟩
  · cases exit <;> rfl
  · rfl

namespace Blocks

variable {active : Nat → List β} (call : Caller β ω)

theorem runOn_yieldValuesTo {n : Int} {arguments : List Argument}
    (enough : n.toNat ≤ arguments.length)
    (fits : ∀ argument ∈ arguments.take n.toNat, argument.fits .value = true) (gate : Gate β ω) :
    (yieldValuesTo active call n).runOn (.start arguments, gate) =
      (onState (yieldTo active call
          ((arguments.take n.toNat).map fun argument => ⟨argument.word⟩))).runOn
        ((Cursor.start arguments).afterValues n.toNat (arguments.drop n.toNat), gate) := by
  have values : (onCursor (Cursor.readValues n.toNat)).runOn (.start arguments, gate) =
      (.ok ((arguments.take n.toNat).map fun argument => ⟨argument.word⟩),
        (Cursor.start arguments).afterValues n.toNat (arguments.drop n.toNat), gate) := by
    rw [runOn_onCursor, Cursor.runOn_readValues enough fits]
    rfl
  exact runOn_bind_of_ok values

theorem runOn_startYieldTo {engine : Engine β} (unpinned : engine.pinned = [])
    (block? : Option β) :
    (startYieldTo block?).runOn engine =
      match block? with
      | some block => (.ok (.inr block), { engine with host := engine.host.note yieldName })
      | none =>
          (Engine.failWith .localJumpError noBlockText).runOn
            { engine with host := engine.host.note yieldName } := by
  cases block? <;>
    rw [startYieldTo, runOn_unlessPinned unpinned, runOn_bind_of_ok (runOn_modify _ _)]
  rfl

section Unpinned

variable {gate : Gate β ω} {scope : Scope} (current : gate.context.current? = some scope)
  (unpinned : (gate.engine scope.engine).pinned = [])

include current unpinned

theorem runOn_yieldTo_of_block {block : β} {outer : List β}
    (handed : active scope.engine = block :: outer) (args : List Value) :
    (yieldTo active call args).runOn gate =
      (call block args).runOn (gate.changeHost scope.engine (·.note yieldName)) := by
  have started : (Native.atEngine scope.engine (startYieldTo (active scope.engine).head?)).runOn
      gate = (.ok (.inr block), gate.changeHost scope.engine (·.note yieldName)) := by
    rw [runOn_atEngine, runOn_startYieldTo unpinned, handed]
    rfl
  rw [yieldTo, runOn_bind_of_ok (runOn_engineNumber current), runOn_bind_of_ok started]

theorem runOn_yieldTo_of_none (none : active scope.engine = []) (args : List Value) :
    (yieldTo active call args).runOn gate =
      (.error (.failed (.raised (refusal (gate.engine scope.engine).host).1)),
        gate.changeHost scope.engine (refusal · |>.2)) := by
  rw [yieldTo, runOn_bind_of_ok (runOn_engineNumber current)]
  refine runOn_bind_of_error ?_
  rw [runOn_atEngine, runOn_startYieldTo unpinned, none]
  dsimp only [List.head?_nil]
  rw [runOn_failWith]
  rfl

variable {n : Int} {arguments : List Argument} (enough : n.toNat ≤ arguments.length)
  (fits : ∀ argument ∈ arguments.take n.toNat, argument.fits .value = true)

include enough fits

theorem runOn_yieldValuesTo_of_block {block : β} {outer : List β}
    (handed : active scope.engine = block :: outer) :
    (yieldValuesTo active call n).runOn (.start arguments, gate) =
      (onState (call block ((arguments.take n.toNat).map fun argument => ⟨argument.word⟩))).runOn
        ((Cursor.start arguments).afterValues n.toNat (arguments.drop n.toNat),
          gate.changeHost scope.engine (·.note yieldName)) := by
  rw [runOn_yieldValuesTo call enough fits, runOn_onState, runOn_onState,
    runOn_yieldTo_of_block call current unpinned handed]

theorem runOn_yieldValuesTo_of_none (none : active scope.engine = []) :
    (yieldValuesTo active call n).runOn (.start arguments, gate) =
      (.error (.failed (.raised (refusal (gate.engine scope.engine).host).1)),
        (Cursor.start arguments).afterValues n.toNat (arguments.drop n.toNat),
        gate.changeHost scope.engine (refusal · |>.2)) := by
  rw [runOn_yieldValuesTo call enough fits, runOn_onState,
    runOn_yieldTo_of_none call current unpinned none]

theorem runOn_raising_yieldValuesTo_of_none (none : active scope.engine = []) :
    (Variadic.raising (yieldValuesTo active call n)).runOn (.start arguments, gate) =
      (.error (.raised (refusal (gate.engine scope.engine).host).1),
        (Cursor.start arguments).afterValues n.toNat (arguments.drop n.toNat),
        gate.changeHost scope.engine (refusal · |>.2)) := by
  rw [Variadic.runOn_raising, runOn_yieldValuesTo_of_none call current unpinned enough fits none]
  dsimp only
  have current : (gate.changeHost scope.engine (refusal · |>.2)).context.current? = some scope :=
    current
  rw [Native.runOn_raiseFault current]
  rfl

end Unpinned

end Blocks

section Agreement

variable {active : Nat → List β}

theorem Native.agree_self {p : Native β ω α}
    (respects : p.Respects (Order.Preimage Gate.blocks Eq)) :
    AgreeOn (Gate.Holds active) p p :=
  .self respects fun same holds => same.symm.trans holds

theorem Variadic.agree_self {p : Variadic β ω α}
    (respects : p.Respects (OnState (Order.Preimage Gate.blocks Eq))) :
    AgreeOn (Trailing.Holds (Gate.Holds active)) p p :=
  .self respects fun same holds => same.symm.trans holds

theorem Native.raising_agree {p q : Native β ω α} (agree : AgreeOn (Gate.Holds active) p q) :
    AgreeOn (Gate.Holds active) (raising p) (raising q) := by
  refine agree.catchFault.bind fun result => ?_
  cases result with
  | ok a => exact .pure a
  | error fault => exact agree_self (raiseFault_respects fault)

theorem Variadic.raising_agree {p q : Variadic β ω α}
    (agree : AgreeOn (Trailing.Holds (Gate.Holds active)) p q) :
    AgreeOn (Trailing.Holds (Gate.Holds active)) (raising p) (raising q) := by
  refine agree.catchFault.bind fun result => ?_
  cases result with
  | ok a => exact .pure a
  | error fault => exact onState_agree (Native.agree_self (raiseFault_respects fault))

namespace Blocks

/-- The block pushed for a body is popped again, however the body ends. -/
theorem withBlockOn_agree {number : Nat} {block : β} {body body' : Native β ω α}
    (agree : AgreeOn (Gate.Holds (within active number block)) body body') :
    AgreeOn (Gate.Holds active) (withBlockOn number block body)
      (withBlockOn number block body') := by
  intro gate holds
  have pushed : (Native.atEngine number (modify (·.pushBlock block)) : Native β ω Unit).runOn gate =
      (.ok (), gate.setEngine number ((gate.engine number).pushBlock block)) := rfl
  have inside : Gate.Holds (within active number block)
      (gate.setEngine number ((gate.engine number).pushBlock block)) := by
    rw [Gate.Holds, Gate.blocks_setEngine, ← holds]
    rfl
  obtain ⟨same, kept⟩ := agree _ inside
  rw [withBlockOn, withBlockOn, runOn_bind_of_ok pushed, runOn_bind_of_ok pushed, runOn_ensuring,
    runOn_ensuring, ← same]
  generalize body.runOn _ = ended at kept ⊢
  have popped (left : Gate β ω) (holds : Gate.Holds (within active number block) left) :
      Gate.Holds active (left.setEngine number (left.engine number).popBlock) := by
    have top : (left.engine number).blocks = block :: active number := by
      have top := congrFun holds number
      rwa [within, Function.update_self] at top
    rw [Gate.Holds, Gate.blocks_setEngine, holds, within, Function.update_idem, popBlock, top]
    exact Function.update_eq_self number active
  rcases ended with ⟨exit | a, left⟩
  · cases exit with
    | aborted => exact ⟨rfl, fun alive => absurd rfl alive⟩
    | _ => exact ⟨rfl, fun _ => popped left (kept nofun)⟩
  · exact ⟨rfl, fun _ => popped left (kept nofun)⟩

theorem runOn_startYieldTo_block? (engine : Engine β) :
    (startYieldTo engine.block?).runOn engine = startYield.runOn engine := by
  unfold startYield startYieldTo unlessPinned
  rw [runOn_bind_of_ok (runOn_get _), runOn_bind_of_ok (runOn_get _)]
  rcases engine.pinned.lookup yieldName with _ | _ | v
  · rfl
  · rfl
  · rfl

theorem startYield_agree (number : Nat) :
    AgreeOn (Gate.Holds active) (Native.atEngine number startYield : Native β ω (Value ⊕ β))
      (Native.atEngine number (startYieldTo (active number).head?)) := by
  intro gate holds
  have found : (active number).head? = (gate.engine number).block? :=
    congrArg List.head? (congrFun holds number).symm
  have self : AgreeOn (Gate.Holds active)
      (Native.atEngine number startYield : Native β ω (Value ⊕ β)) _ :=
    Native.agree_self (atEngine_respects startYield_respects number)
  refine ⟨?_, (self gate holds).2⟩
  rw [runOn_atEngine, runOn_atEngine, found, runOn_startYieldTo_block?]

section Calling

variable {call call' : Caller β ω}
  (agree : ∀ block args, AgreeOn (Gate.Holds active) (call block args) (call' block args))

include agree

theorem yield_agree (args : List Value) :
    AgreeOn (Gate.Holds active) (yield call args) (yieldTo active call' args) := by
  rw [yield, onEngine, bind_assoc]
  refine AgreeOn.bind (Native.agree_self engineNumber_respects) fun number =>
    (startYield_agree number).bind fun found => ?_
  cases found with
  | inl v => exact .pure v
  | inr block => exact agree block args

theorem yieldValues_agree (n : Int) :
    AgreeOn (Trailing.Holds (Gate.Holds active)) (yieldValues call n)
      (yieldValuesTo active call' n) :=
  (onCursor_agree _).bind fun values => onState_agree (yield_agree agree values)

end Calling

end Blocks

namespace Protected

variable {body body' : Native β ω Value} (agree : AgreeOn (Gate.Holds active) body body')

include agree

theorem ensure_agree {cleanup cleanup' : Native β ω Value}
    (clean : AgreeOn (Gate.Holds active) cleanup cleanup') :
    AgreeOn (Gate.Holds active) (ensure body cleanup) (ensure body' cleanup') :=
  agree.ensuring (clean.bind fun _ => .pure _)

theorem protectInto_agree (cell : Option (StateCell ω)) :
    AgreeOn (Gate.Holds active) (protectInto cell body) (protectInto cell body') := by
  have protects : AgreeOn (Gate.Holds active) (protect body) (protect body') := by
    refine agree.catchRaise.bind fun result => ?_
    cases result with
    | ok v => exact .pure _
    | error exception =>
        exact (Native.agree_self (onEngine_respects (perform_respects _ _))).bind fun _ => .pure _
  refine (Native.raising_agree protects).bind fun (v, state) => ?_
  cases cell with
  | none => exact .pure v
  | some cell =>
      have writes : (modify fun gate => { gate with program := cell.write state gate.program } :
          Native β ω Unit).Respects (Order.Preimage Gate.blocks Eq) :=
        Respects.modify fun gate => Gate.Admits.setAside gate gate.memory _
      exact (Native.agree_self writes).bind fun _ => .pure v

variable {handler handler' : Option (Value → Native β ω Value)}
  (handles : Option.Rel (fun given given' =>
    ∀ exception, AgreeOn (Gate.Holds active) (given exception) (given' exception)) handler handler')

include handles

theorem rescueAny_agree (classes : List Value) :
    AgreeOn (Gate.Holds active) (rescueAny classes body handler)
      (rescueAny classes body' handler') := by
  refine agree.catchRaise.bind fun result => ?_
  cases result with
  | ok v => exact .pure v
  | error exception =>
      refine (Native.agree_self engineNumber_respects).bind fun number =>
        (Native.agree_self (atEngine_respects (isAnyOf_respects _ _) _)).bind fun isMatch => ?_
      cases isMatch with
      | false => exact .throw _
      | true =>
          cases handles with
          | none => exact .pure _
          | some handles =>
              have restores (saved : Value) :
                  (restoreErrinfo number saved : Native β ω Unit).Respects
                    (Order.Preimage Gate.blocks Eq) :=
                (setErrinfo_respects number saved).catchFault.bind fun _ => .pure _
              refine (Native.agree_self (atEngine_respects (perform_respects _ _) _)).bind
                fun saved => (Native.agree_self (setErrinfo_respects number exception)).bind
                  fun _ => AgreeOn.bind ((handles exception).catchRaise.ensuring
                    (Native.agree_self (restores saved))) fun result => ?_
              cases result with
              | ok v => exact .pure v
              | error raised => exact .throw _

theorem rescue_agree :
    AgreeOn (Gate.Holds active) (rescue body handler) (rescue body' handler') :=
  (Native.agree_self (onEngine_respects (perform_respects _ _))).bind fun _ =>
    rescueAny_agree agree handles _

theorem rescueListed_agree :
    AgreeOn (Trailing.Holds (Gate.Holds active)) (rescueListed body handler)
      (rescueListed body' handler') :=
  (onCursor_agree _).bind fun classes => onState_agree (rescueAny_agree agree handles classes)

end Protected

end Agreement

end NativeGate
