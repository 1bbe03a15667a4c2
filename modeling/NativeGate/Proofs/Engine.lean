import NativeGate.Engine
import NativeGate.Proofs.Exit
import NativeGate.Proofs.Host.Objects

namespace NativeGate.Engine

open NativeGate

/-! Calls into an engine on which nothing is pinned are answered by its host. -/

variable {α β : Type}

theorem runOn_asking (answer : Host → Reply α × Host) (engine : Engine β) :
    (asking answer).runOn engine =
      match answer engine.host with
      | (.value a, host) => (.ok a, { engine with host })
      | (.raised exception, host) =>
          (.error (.failed (.raised exception)), { engine with host })
      | (.endless, host) => (.error .aborted, { engine with host }) := rfl

theorem runOn_newString (bytes : Bytes) (encoding : Encoding) (engine : Engine β) :
    (newString bytes encoding).runOn engine =
      (.ok (engine.host.newString bytes encoding).1,
        { engine with host := (engine.host.newString bytes encoding).2 }) := rfl

theorem runOn_newException (kind : ErrorKind) (message : Bytes) (engine : Engine β) :
    (newException kind message).runOn engine =
      (.ok (engine.host.newException kind message).1,
        { engine with host := (engine.host.newException kind message).2 }) := rfl

theorem runOn_failWith (kind : ErrorKind) (message : Bytes) (engine : Engine β) :
    (failWith kind message : Proc (Engine β) α).runOn engine =
      (.error (.failed (.raised (engine.host.newException kind message).1)),
        { engine with host := (engine.host.newException kind message).2 }) := by
  rw [failWith, Proc.runOn_bind_of_ok (runOn_newException kind message engine), Proc.runOn_fail]

/-- A call that does not return hands back an exception, or is the end of the process. -/
def Raises (p : Proc (Engine β) α) : Prop :=
  ∀ ⦃engine exit after⦄, p.runOn engine = (.error exit, after) →
    (∃ exception, exit = .failed (.raised exception)) ∨ exit = .aborted

theorem Raises.bind {γ : Type} {p : Proc (Engine β) α} {next : α → Proc (Engine β) γ}
    (first : Raises p) (rest : ∀ a, Raises (next a)) : Raises (p >>= next) := by
  intro engine exit after ran
  obtain left | ⟨a, _, _, left⟩ := Proc.runOn_bind_eq_error.mp ran
  · exact first left
  · exact rest a left

theorem asking_raises (answer : Host → Reply α × Host) :
    Raises (asking answer : Proc (Engine β) α) := by
  intro engine exit after ran
  rw [runOn_asking] at ran
  split at ran
  · cases ran
  · cases ran
    exact .inl ⟨_, rfl⟩
  · cases ran
    exact .inr rfl

theorem unlessPinned_raises {otherwise : Proc (Engine β) α} (raises : Raises otherwise)
    (name : String) (read : Value → α) : Raises (unlessPinned name read otherwise) := by
  intro engine exit after ran
  rw [unlessPinned, Proc.runOn_bind_of_ok (Proc.runOn_get engine)] at ran
  split at ran
  · cases ran
  · cases ran
    exact .inl ⟨_, rfl⟩
  · exact raises ran

theorem perform_raises (op : Operation) (args : List Value) :
    Raises (perform op args : Proc (Engine β) Value) :=
  unlessPinned_raises (asking_raises _) _ _

theorem failWith_raises (kind : ErrorKind) (message : Bytes) :
    Raises (failWith kind message : Proc (Engine β) α) := by
  intro engine exit after ran
  rw [runOn_failWith] at ran
  cases ran
  exact .inl ⟨_, rfl⟩

section Room

variable {engine : Engine β} (room : engine.host.objects.size < ObjectTable.capacity)

include room

theorem newString_stored (bytes : Bytes) (encoding : Encoding) :
    ∃ string after, (newString bytes encoding).runOn engine = (.ok string, after) ∧
      after.pinned = engine.pinned ∧
      after.host.objects.size = engine.host.objects.size + 1 ∧
      after.host.objects.string? string = some { bytes, encoding } :=
  ⟨_, _, runOn_newString bytes encoding engine, rfl, ObjectTable.size_add _ _,
    Host.newString_string? room bytes encoding⟩

theorem newException_stored {kind : ErrorKind} (other : kind ≠ .noMemoryError) (message : Bytes) :
    ∃ exception after, (newException kind message).runOn engine = (.ok exception, after) ∧
      after.host.objects.get? exception = some (.exception kind.value message) :=
  ⟨_, _, runOn_newException kind message engine, Host.newException_get? room other message⟩

end Room

section Unpinned

variable {engine : Engine β} (unpinned : engine.pinned = [])

include unpinned

theorem runOn_unlessPinned (name : String) (read : Value → α) (otherwise : Proc (Engine β) α) :
    (unlessPinned name read otherwise).runOn engine = otherwise.runOn engine := by
  rw [unlessPinned, Proc.runOn_bind, Proc.runOn_get]
  simp [unpinned]

theorem runOn_perform (op : Operation) (args : List Value) :
    (perform op args).runOn engine =
      (asking (·.invoke op.name args)).runOn engine :=
  runOn_unlessPinned unpinned _ _ _

end Unpinned

/-- With nothing pinned the call returns `a`, and what it does to the host is all it does. -/
def Answers (p : Proc (Engine β) α) (host : Host) (a : α) (after : Host) : Prop :=
  ∀ engine : Engine β, engine.host = host → engine.pinned = [] →
    p.runOn engine = (.ok a, { engine with host := after })

section Answers

variable {γ : Type} {host middle after : Host}

theorem Answers.pure (host : Host) (a : α) :
    Answers (Pure.pure a : Proc (Engine β) α) host a host := by
  intro engine hasHost _
  rw [← hasHost]
  rfl

theorem Answers.bind {p : Proc (Engine β) α} {next : α → Proc (Engine β) γ} {a : α} {c : γ}
    (first : Answers p host a middle) (rest : Answers (next a) middle c after) :
    Answers (p >>= next) host c after := by
  intro engine hasHost unpinned
  rw [Proc.runOn_bind_of_ok (first engine hasHost unpinned)]
  exact rest _ rfl unpinned

theorem newString_answers (host : Host) (bytes : Bytes) (encoding : Encoding) :
    Answers (newString bytes encoding : Proc (Engine β) Value) host
      (host.newString bytes encoding).1 (host.newString bytes encoding).2 := by
  intro engine hasHost _
  rw [runOn_newString, hasHost]

theorem perform_answers {op : Operation} {args : List Value} {v : Value}
    (replied : host.invoke op.name args = (.value v, after)) :
    Answers (perform op args : Proc (Engine β) Value) host v after := by
  intro engine hasHost unpinned
  rw [runOn_perform unpinned, runOn_asking, hasHost, replied]

theorem ask_answers {query : Query} {args : List Value} {b : Bool}
    (replied : host.invokePredicate query.name args = (.value b, after)) :
    Answers (ask query args : Proc (Engine β) Bool) host b after := by
  intro engine hasHost unpinned
  rw [ask, predicateNamed, runOn_unlessPinned unpinned, runOn_asking, hasHost, replied]

end Answers

/-- Nothing is pinned in between, and at most `count` objects are new. -/
structure Spent (count : Nat) (before after : Engine β) : Prop where
  pinned : after.pinned = before.pinned
  size_le : after.host.objects.size ≤ before.host.objects.size + count

theorem Spent.refl (count : Nat) (engine : Engine β) : Spent count engine engine :=
  ⟨rfl, Nat.le_add_right _ _⟩

theorem Spent.trans {m n : Nat} {first second third : Engine β}
    (left : Spent m first second) (right : Spent n second third) : Spent (m + n) first third where
  pinned := right.pinned.trans left.pinned
  size_le := by
    have before := left.size_le
    have after := right.size_le
    omega

theorem Spent.mono {m n : Nat} {before after : Engine β} (spent : Spent m before after)
    (le : m ≤ n) : Spent n before after :=
  ⟨spent.pinned, Nat.le_trans spent.size_le (Nat.add_le_add_left le _)⟩

/-- A call that sees an engine returns having made at most `count` objects, or leaves by an allowed
exit having made at most one more. -/
structure Ends {σ : Type} (view : σ → Engine β) (allowed : Exit → Prop) (count : Nat)
    (p : Proc σ α) (s : σ) : Prop where
  returned : ∀ {a after}, p.runOn s = (.ok a, after) → Spent count (view s) (view after)
  left : ∀ {exit after}, p.runOn s = (.error exit, after) →
    allowed exit ∧ Spent (count + 1) (view s) (view after)

section Ends

variable {σ γ : Type} {view : σ → Engine β} {allowed more : Exit → Prop} {m n : Nat}
  {p : Proc σ α} {s : σ}

theorem Ends.of_ok {a : α} {after : σ} (ran : p.runOn s = (.ok a, after))
    (spent : Spent m (view s) (view after)) : Ends view allowed m p s where
  returned := by
    intro _ _ same
    rw [ran] at same
    cases same
    exact spent
  left := by
    intro _ _ same
    rw [ran] at same
    cases same

theorem Ends.of_error {exit : Exit} {after : σ} (ran : p.runOn s = (.error exit, after))
    (isAllowed : allowed exit) (spent : Spent (m + 1) (view s) (view after)) :
    Ends view allowed m p s where
  returned := by
    intro _ _ same
    rw [ran] at same
    cases same
  left := by
    intro _ _ same
    rw [ran] at same
    cases same
    exact ⟨isAllowed, spent⟩

theorem Ends.pure (a : α) (s : σ) : Ends view allowed 0 (Pure.pure a : Proc σ α) s :=
  .of_ok rfl (.refl 0 _)

theorem Ends.throw {exit : Exit} (isAllowed : allowed exit) (s : σ) :
    Ends view allowed 0 (throw exit : Proc σ α) s :=
  .of_error rfl isAllowed (.refl 1 _)

theorem Ends.mono (ends : Ends view allowed m p s) (wider : ∀ exit, allowed exit → more exit)
    (le : m ≤ n) : Ends view more n p s where
  returned ran := (ends.returned ran).mono le
  left ran := ⟨wider _ (ends.left ran).1, (ends.left ran).2.mono (Nat.succ_le_succ le)⟩

theorem Ends.bind {next : α → Proc σ γ} (first : Ends view allowed m p s)
    (rest : ∀ a s', p.runOn s = (.ok a, s') → Ends view allowed n (next a) s') :
    Ends view allowed (m + n) (p >>= next) s where
  returned := by
    intro c after ran
    obtain ⟨a, s', front, back⟩ := Proc.runOn_bind_eq_ok.mp ran
    exact (first.returned front).trans ((rest a s' front).returned back)
  left := by
    intro exit after ran
    obtain front | ⟨a, s', front, back⟩ := Proc.runOn_bind_eq_error.mp ran
    · obtain ⟨isAllowed, spent⟩ := first.left front
      exact ⟨isAllowed, spent.mono (by omega)⟩
    · obtain ⟨isAllowed, spent⟩ := (rest a s' front).left back
      exact ⟨isAllowed, ((first.returned front).trans spent).mono (by omega)⟩

end Ends

theorem readString_ends (string : Value) (engine : Engine β) :
    Ends id Exit.IsFault 0 (readString string) engine := by
  have ran := runOn_asking (·.readString string) engine
  unfold Host.readString at ran
  cases found : engine.host.objects.string? string with
  | some s =>
      rw [found] at ran
      exact .of_ok ran (.refl 0 _)
  | none =>
      rw [found] at ran
      exact .of_error ran ⟨_, rfl⟩ ⟨rfl, engine.host.newException_size_le .typeError _⟩

section Unpinned

variable {engine : Engine β} (unpinned : engine.pinned = []) (op : Operation) (args : List Value)

include unpinned

theorem perform_ends :
    Ends id (fun exit =>
        exit.IsFault ∨ (engine.host.invoke op.name args).1 = .endless ∧ exit = .aborted)
      1 (perform op args) engine := by
  have ran := runOn_perform unpinned op args
  rw [runOn_asking] at ran
  have size_le := engine.host.invoke_size_le op.name args
  split at ran
  next replied =>
    rw [replied] at size_le
    exact .of_ok ran ⟨rfl, size_le⟩
  next replied =>
    rw [replied] at size_le
    exact .of_error ran (.inl ⟨_, rfl⟩) ⟨rfl, Nat.le_succ_of_le size_le⟩
  next replied =>
    rw [replied] at size_le
    exact .of_error ran (.inr ⟨by rw [replied], rfl⟩) ⟨rfl, Nat.le_succ_of_le size_le⟩

theorem perform_of_endless (endless : (engine.host.invoke op.name args).1 = .endless) :
    ∃ after, (perform op args).runOn engine = (.error .aborted, after) := by
  have ran := runOn_perform unpinned op args
  rw [runOn_asking] at ran
  cases replied : engine.host.invoke op.name args with
  | mk reply host =>
      rw [replied] at endless ran
      cases endless
      exact ⟨_, ran⟩

end Unpinned

end NativeGate.Engine
