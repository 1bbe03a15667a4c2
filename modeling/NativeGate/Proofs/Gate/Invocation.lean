import NativeGate.Gate.Blocks
import NativeGate.Proofs.Gate.Basic

namespace NativeGate

namespace Host

/-- The host answers with an exception and does nothing else. -/
inductive Refuses (host : Host) : Value → Host → Prop
  | created {kind : ErrorKind} (other : kind ≠ .noMemoryError) (message : Bytes) :
      Refuses host (host.objects.add (.exception kind.value message)).1
        { host with objects := (host.objects.add (.exception kind.value message)).2 }
  | outOfMemory : Refuses host outOfMemory host

theorem newException_refuses (host : Host) (kind : ErrorKind) (message : Bytes) :
    host.Refuses (host.newException kind message).1 (host.newException kind message).2 := by
  unfold newException
  split
  next => exact .outOfMemory
  next other => exact .created other message

section Raised

variable {α : Type} {host after : Host} {exception : Value}

theorem complain_refuses {complaint : Complaint}
    (raised : host.complain (α := α) complaint = (.raised exception, after)) :
    host.Refuses exception after := by
  cases complaint with
  | raise kind message =>
      have created := host.newException_refuses kind message
      cases raised
      exact created
  | outOfMemory =>
      cases raised
      exact .outOfMemory
  | endless => cases raised

theorem perform_refuses {op : Operation} {args : List Value}
    (raised : host.perform op args = (.raised exception, after)) :
    host.Refuses exception after := by
  unfold perform at raised
  split at raised
  · cases raised
  · exact complain_refuses raised

theorem invoke_refuses {name : String} {args : List Value}
    (raised : host.invoke name args = (.raised exception, after)) :
    (host.note name).Refuses exception after := by
  unfold invoke at raised
  dsimp only at raised
  split at raised
  · exact perform_refuses raised
  · exact complain_refuses raised

theorem invokePredicate_refuses {name : String} {args : List Value}
    (raised : host.invokePredicate name args = (.raised exception, after)) :
    (host.note name).Refuses exception after := by
  unfold invokePredicate at raised
  dsimp only at raised
  split at raised
  next query _ =>
    split at raised
    · cases raised
    · exact complain_refuses raised
  next op _ _ =>
    -- The answer is read as a truth value, and an exception is none.
    cases performed : (host.note name).perform op args with
    | mk reply performedOn =>
        rw [performed] at raised
        cases reply with
        | raised raisedThere =>
            cases raised
            exact perform_refuses performed
        | value v => cases raised
        | endless => cases raised
  next => exact complain_refuses raised

end Raised

end Host

namespace Engine

variable {α β : Type} {engine after : Engine β} {exception : Value}

theorem asking_eq_raised {answer : Host → Reply α × Host}
    (raised : (asking answer).runOn engine = (.error (.failed (.raised exception)), after)) :
    ∃ host, answer engine.host = (.raised exception, host) ∧ after = { engine with host } := by
  rw [runOn_asking] at raised
  split at raised
  next => cases raised
  next host answered =>
    cases raised
    exact ⟨host, answered, rfl⟩
  next => cases raised

end Engine

namespace Gate

variable {β ω : Type}

/-- All that has happened is that the engine refused an operation of this name. -/
def Refuses (gate : Gate β ω) (number : Nat) (name : String) (exception : Value)
    (gate' : Gate β ω) : Prop :=
  ∃ host, ((gate.engine number).host.note name).Refuses exception host ∧
    gate' = gate.changeHost number fun _ => host

end Gate

namespace Blocks

variable {α β ω : Type} {call : Caller β ω} {exception : Value} {args : List Value}

theorem runOn_startYield {engine : Engine β} (unpinned : engine.pinned = []) :
    startYield.runOn engine =
      match engine.block? with
      | some block => (.ok (.inr block), { engine with host := engine.host.note yieldName })
      | none =>
          (Engine.failWith .localJumpError noBlockText).runOn
            { engine with host := engine.host.note yieldName } := by
  rw [startYield, Engine.runOn_unlessPinned unpinned, Proc.runOn_bind, Proc.runOn_modify]
  dsimp only
  rw [Proc.runOn_bind, Proc.runOn_get]
  change (match engine.block? with
    | some block => return .inr block
    | none => Engine.failWith .localJumpError noBlockText :
      Proc (Engine β) (Value ⊕ β)).runOn _ = _
  cases engine.block? <;> rfl

section Unpinned

variable {gate gate' : Gate β ω} {scope : Scope}
  (current : gate.context.current? = some scope)
  (unpinned : (gate.engine scope.engine).pinned = [])

include current unpinned

/-- Without a block there is an exception at once; a block itself hands back none. -/
theorem yield_refuses (blocks : ∀ block args, (call block args).NeverFails)
    (raised : (yield call args).runOn gate = (.error (.failed (.raised exception)), gate')) :
    gate.Refuses scope.engine yieldName exception gate' := by
  rw [yield, Proc.runOn_bind_eq_error] at raised
  obtain started | ⟨answer, between, -, called⟩ := raised
  · obtain ⟨engine, ran, rfl⟩ := Native.onEngine_ran current started
    rw [runOn_startYield unpinned] at ran
    split at ran
    next => cases ran
    next =>
      rw [Engine.runOn_failWith] at ran
      cases ran
      exact ⟨_, Host.newException_refuses _ .localJumpError noBlockText, rfl⟩
  · cases answer with
    | inl v => cases called
    | inr block => exact absurd (congrArg Prod.fst called) (blocks block args between _)

theorem onEngine_refuses {name : String} {answer : Host → Reply α × Host}
    (refuses : ∀ after, answer (gate.engine scope.engine).host = (.raised exception, after) →
      ((gate.engine scope.engine).host.note name).Refuses exception after)
    {read : Value → α}
    (raised : (Native.onEngine (Engine.unlessPinned name read (Engine.asking answer))).runOn gate =
      (.error (.failed (.raised exception)), gate')) :
    gate.Refuses scope.engine name exception gate' := by
  obtain ⟨engine, ran, rfl⟩ := Native.onEngine_ran current raised
  rw [Engine.runOn_unlessPinned unpinned] at ran
  obtain ⟨after, answered, rfl⟩ := Engine.asking_eq_raised ran
  exact ⟨after, refuses after answered, rfl⟩

theorem invoke_refuses (blocks : ∀ block args, (call block args).NeverFails) {name : String}
    (raised : (invoke call name args).runOn gate = (.error (.failed (.raised exception)), gate')) :
    gate.Refuses scope.engine name exception gate' := by
  unfold invoke at raised
  split at raised
  next isYield =>
    rw [isYield]
    exact yield_refuses current unpinned blocks raised
  next =>
    exact onEngine_refuses current unpinned (fun _ => Host.invoke_refuses) raised

theorem invokePredicate_refuses (blocks : ∀ block args, (call block args).NeverFails)
    {name : String}
    (raised : (invokePredicate call name args).runOn gate =
      (.error (.failed (.raised exception)), gate')) :
    gate.Refuses scope.engine name exception gate' := by
  unfold invokePredicate at raised
  split at raised
  next isYield =>
    obtain yielded | ⟨v, between, -, returned⟩ := Proc.runOn_bind_eq_error.mp raised
    · rw [isYield]
      exact yield_refuses current unpinned blocks yielded
    · cases returned
  next =>
    exact onEngine_refuses current unpinned (fun _ => Host.invokePredicate_refuses) raised

/-- An operation that answers with an exception has done nothing else: new are the name in the log
and the exception, unless that is the one kept for `rb_memerror`. -/
theorem refusals_change_nothing (reached : (gate.engine scope.engine).host.Reachable)
    (blocks : ∀ block args, (call block args).NeverFails) (name : String)
    (refused :
      (invoke call name args).runOn gate = (.error (.failed (.raised exception)), gate') ∨
      (invokePredicate call name args).runOn gate =
        (.error (.failed (.raised exception)), gate')) :
    ∃ objects,
      gate' = gate.changeHost scope.engine
        (fun host => { host with log := host.log ++ [name], objects }) ∧
      ((objects = (gate.engine scope.engine).host.objects ∧ exception = Host.outOfMemory ∧
          objects.get? exception =
            some (.exception Builtin.noMemoryError.value Host.outOfMemoryText)) ∨
        ∃ kind message,
          objects.slots = (gate.engine scope.engine).host.objects.slots.push
            (.exception (ErrorKind.value kind) message) ∧
          exception = .handle (UInt64.ofNat (gate.engine scope.engine).host.objects.size) ∧
          ((gate.engine scope.engine).host.objects.size < ObjectTable.capacity →
            objects.get? exception = some (.exception (ErrorKind.value kind) message))) := by
  have refuses : gate.Refuses scope.engine name exception gate' := by
    obtain invoked | asked := refused
    · exact invoke_refuses current unpinned blocks invoked
    · exact invokePredicate_refuses current unpinned blocks asked
  obtain ⟨host, refuses, rfl⟩ := refuses
  cases refuses with
  | outOfMemory => exact ⟨_, rfl, .inl ⟨rfl, rfl, reached.outOfMemory⟩⟩
  | created other message =>
      exact ⟨_, rfl, .inr ⟨_, message, rfl, rfl, fun room => ObjectTable.get?_add_self room _⟩⟩

end Unpinned

theorem refusals_change_nothing_twice :
    ∃ (gate gate' : Gate Unit Unit) (objects : ObjectTable),
      (invoke (fun _ _ => pure .nil) "rb_struct_define" [.nil, .handle 21]).runOn gate =
        (.error (.failed (.raised (.handle 22))), gate') ∧
      gate' = gate.changeHost 0
        (fun host => { host with log := host.log ++ ["rb_struct_define"], objects }) ∧
      ∃ kind message, objects.slots = (gate.engine 0).host.objects.slots.push
        (.exception (ErrorKind.value kind) message) := by
  let prepared : Host := Host.new.actAll
    [.newString (octets "x") .utf8, .invoke "rb_intern" [.handle 20],
      .invoke "rb_ary_new_from_values" [.symbol 1, .symbol 1]]
  let gate : Gate Unit Unit := (Gate.installed ()).changeHost 0 fun _ => prepared
  let gate' : Gate Unit Unit :=
    ((invoke (fun _ _ => pure .nil) "rb_struct_define" [.nil, .handle 21]).runOn gate).2
  have raised : (invoke (fun _ _ => pure .nil) "rb_struct_define" [.nil, .handle 21]).runOn gate =
      (.error (.failed (.raised (.handle 22))), gate') := Prod.ext rfl rfl
  have current : gate.context.current? = some { engine := 0, settings := {} } := rfl
  have reached : (gate.engine 0).host.Reachable := ⟨_, rfl⟩
  obtain ⟨objects, same, memory | ⟨kind, message, stored, -⟩⟩ :=
    refusals_change_nothing current rfl reached (fun _ _ => Proc.pure_neverFails _)
      "rb_struct_define" (.inl raised)
  · exact absurd memory.2.1 (by decide)
  · exact ⟨gate, gate', objects, raised, same, kind, message, stored⟩

end Blocks

end NativeGate
