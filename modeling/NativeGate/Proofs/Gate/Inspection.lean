import NativeGate.Proofs.Format.Closure
import NativeGate.Proofs.Gate.Closure
import NativeGate.Proofs.Gate.Protected
import NativeGate.Proofs.Host.Answers

namespace NativeGate

open Proc

variable {σ α γ β ω : Type}

/-- The process is gone, or there is no engine that could raise the fault. -/
def Exit.IsLost (exit : Exit) : Prop :=
  exit = .aborted ∨ ∃ fault, exit = .failed fault ∧ fault.counterpart = .missing

/-- As long as a state is good the call leaves it so, and is not lost. -/
def Proc.Survives (Good : σ → Prop) (p : Proc σ α) : Prop :=
  ∀ s, Good s → Good (p.runOn s).2 ∧ ∀ exit, (p.runOn s).1 = .error exit → ¬ exit.IsLost

namespace Proc.Survives

variable {Good : σ → Prop}

theorem pure (a : α) : (Pure.pure a : Proc σ α).Survives Good :=
  fun _ good => ⟨good, nofun⟩

theorem throw {exit : Exit} (alive : ¬ exit.IsLost) : (throw exit : Proc σ α).Survives Good := by
  rintro s good
  refine ⟨good, ?_⟩
  rintro _ ⟨⟩
  exact alive

theorem bind {p : Proc σ α} {next : α → Proc σ γ} (first : p.Survives Good)
    (rest : ∀ a, (next a).Survives Good) : (p >>= next).Survives Good := by
  intro s good
  have front := first s good
  rw [runOn_bind]
  generalize p.runOn s = ended at front ⊢
  rcases ended with ⟨exit | a, after⟩
  · refine ⟨front.1, ?_⟩
    rintro _ ⟨⟩
    exact front.2 exit rfl
  · exact rest a after front.1

end Proc.Survives

theorem Exit.failed_not_lost {fault : Fault} (named : fault.counterpart ≠ .missing) :
    ¬ (Exit.failed fault).IsLost := by
  rintro (⟨⟨⟩⟩ | ⟨_, ⟨⟩, missing⟩)
  exact named missing

theorem Exit.raised_not_lost (exception : Value) : ¬ (Exit.failed (.raised exception)).IsLost :=
  failed_not_lost (Fault.counterpart_raised_ne_missing exception)

namespace Engine

def Layered (engine : Engine β) : Prop :=
  engine.host.objects.Layered

theorem asking_survives {answer : Host → Reply α × Host}
    (ends : ∀ {host : Host}, host.objects.Layered → (answer host).1 ≠ .endless)
    (keeps : ∀ {host : Host}, host.objects.Layered → (answer host).2.objects.Layered) :
    (asking answer : Proc (Engine β) α).Survives Layered := by
  intro engine layered
  have ended := ends layered
  have kept := keeps layered
  rw [runOn_asking]
  generalize answer engine.host = replied at ended kept ⊢
  rcases replied with ⟨a | exception | _, host⟩
  · exact ⟨kept, nofun⟩
  · refine ⟨kept, ?_⟩
    rintro _ ⟨⟩
    exact Exit.raised_not_lost exception
  · exact absurd rfl ended

theorem unlessPinned_survives {otherwise : Proc (Engine β) α}
    (survives : otherwise.Survives Layered) (name : String) (read : Value → α) :
    (unlessPinned name read otherwise).Survives Layered := by
  intro engine layered
  rw [unlessPinned, runOn_bind_of_ok (runOn_get engine)]
  split
  · exact Survives.pure _ engine layered
  · exact Survives.throw (Exit.raised_not_lost _) engine layered
  · exact survives engine layered

/-- Most operations store nothing, so that they may be passed anything. -/
theorem perform_survives {op : Operation} (storesNothing : op ∉ Host.storingOperations)
    (args : List Value) : (perform op args : Proc (Engine β) Value).Survives Layered := by
  refine unlessPinned_survives (asking_survives ?_ ?_) _ _
  · intro host layered
    exact Host.invoke_ne_endless layered _ _
  · intro host layered
    have noted : (host.note op.name).objects.Layered := layered
    simp only [Host.invoke, Operation.ofName?_name]
    exact Host.perform_layered noted fun storing => absurd storing storesNothing

theorem ask_survives (query : Query) (args : List Value) :
    (ask query args : Proc (Engine β) Bool).Survives Layered := by
  refine unlessPinned_survives (asking_survives ?_ ?_) _ _
  · intro host layered
    exact Host.invokePredicate_ne_endless layered _ _
  · intro host layered
    have noted : (host.note query.name).objects.Layered := layered
    have named : Operation.ofName? query.name = some (.ask query) :=
      Operation.ofName?_name (.ask query)
    simp only [Host.invokePredicate, named]
    split
    · exact layered
    · exact Host.complain_layered noted _

theorem newString_survives (bytes : Bytes) (encoding : Encoding) :
    (newString bytes encoding : Proc (Engine β) Value).Survives Layered :=
  asking_survives (fun _ => nofun) fun layered => layered.add nofun

theorem newException_survives (kind : ErrorKind) (message : Bytes) :
    (newException kind message : Proc (Engine β) Value).Survives Layered :=
  asking_survives (fun _ => nofun) fun layered => Host.newException_layered layered kind message

theorem failWith_survives (kind : ErrorKind) (message : Bytes) :
    (failWith kind message : Proc (Engine β) α).Survives Layered :=
  (newException_survives kind message).bind fun _ => .throw (Exit.raised_not_lost _)

theorem readString_survives (string : Value) :
    (readString string : Proc (Engine β) Bytes).Survives Layered := by
  refine asking_survives ?_ fun layered => Host.readString_layered layered string
  intro host _
  unfold Host.readString
  split <;> exact nofun

theorem inspect_survives (v : Value) : (inspect v : Proc (Engine β) Bytes).Survives Layered :=
  (perform_survives (by decide) [v]).bind readString_survives

theorem textOf_survives (v : Value) : (textOf v : Proc (Engine β) Bytes).Survives Layered :=
  (perform_survives (by decide) [v]).bind readString_survives

end Engine

namespace Trailing

theorem onState_survives {Good : σ → Prop} {p : Proc σ α} (survives : p.Survives Good) :
    (onState p).Survives fun s => Good s.2 :=
  fun s good => survives s.2 good

theorem read_survives {Good : σ → Prop} (kind : ReadKind) :
    (onCursor (Cursor.read kind) : Trailing σ Argument).Survives fun s => Good s.2 := by
  intro s good
  refine ⟨good, fun exit left => ?_⟩
  rw [runOn_onCursor, Cursor.read, runOn_ofRun] at left
  generalize s.1.next kind = taken at left
  rcases taken with ⟨fault | argument, rest⟩
  · cases left
    exact Exit.failed_not_lost (Fault.counterpart_cursor_ne_missing fault)
  · cases left

end Trailing

namespace Format

theorem survives_closed :
    Closed (β := β) fun p => p.Survives fun s => s.2.Layered where
  pure a := .pure a
  bind first rest := first.bind rest
  read kind := Trailing.read_survives kind
  value flags v := by
    refine Trailing.onState_survives ?_
    split
    · exact Engine.inspect_survives v
    · exact Engine.textOf_survives v
  malformed message := Trailing.onState_survives (Engine.failWith_survives _ message)
  tooPrecise := .throw (by rintro (⟨⟨⟩⟩ | ⟨_, ⟨⟩, -⟩))

end Format

/-- The current engine's objects contain older ones only. -/
def Gate.Layered (gate : Gate β ω) : Prop :=
  ∃ engine, gate.current? = some engine ∧ engine.Layered

namespace Native

theorem onEngine_survives {p : Proc (Engine β) α} (survives : p.Survives Engine.Layered) :
    (onEngine p : Native β ω α).Survives Gate.Layered := by
  rintro gate ⟨engine, current, layered⟩
  obtain ⟨scope, routed, rfl⟩ := Option.map_eq_some_iff.mp current
  obtain ⟨kept, alive⟩ := survives _ layered
  rw [runOn_onEngine routed]
  exact ⟨⟨_, by simp [Gate.current?, routed], kept⟩, alive⟩

theorem raising_alive {p : Native β ω α} (survives : p.Survives Gate.Layered) {gate : Gate β ω}
    (layered : gate.Layered) : ((raising p).runOn gate).1 ≠ .error .aborted := by
  obtain ⟨⟨engine, current, -⟩, alive⟩ := survives gate layered
  rw [runOn_raising]
  generalize p.runOn gate = ended at current alive ⊢
  rcases ended with ⟨exit | a, after⟩
  · have alive := alive exit rfl
    cases exit with
    | failed fault =>
        obtain ⟨scope, routed, -⟩ := Option.map_eq_some_iff.mp current
        have named : fault.counterpart ≠ .missing := fun missing => alive (.inr ⟨_, rfl, missing⟩)
        dsimp only
        rw [runOn_raiseFault routed]
        cases raised : fault.counterpart with
        | missing => exact absurd raised named
        | _ => exact nofun
    | aborted => exact absurd (.inl rfl) alive
    | _ => exact nofun
  · exact nofun

end Native

namespace Symbols

theorem stores_nothing : ∀ op ∈ operations, op ∉ Host.storingOperations := by
  decide

theorem survives_closed :
    Closed (β := β) (ω := ω) (fun p => p.Survives Engine.Layered)
      fun p => p.Survives Gate.Layered where
  pure a := .pure a
  bind first rest := first.bind rest
  perform op member args := Engine.perform_survives (stores_nothing op member) args
  ask query args := Engine.ask_survives query args
  newString bytes encoding := Engine.newString_survives bytes encoding
  readString string := Engine.readString_survives string
  failWith kind message := Engine.failWith_survives kind message
  through survives := Native.onEngine_survives survives
  returned a := .pure a
  followed first rest := first.bind rest

/-- The calls that inspect a word that is neither a symbol nor a name. -/
inductive Takes (v : Value) : {α : Type} → Native β ω α → Prop
  | toId : Takes v (toId v)
  | idOf : Takes v (idOf v)
  | existingId? : Takes v (existingId? v)
  | toSymbol : Takes v (toSymbol v)
  | nameString : Takes v (nameString v)
  | copyName : Takes v (copyName v)

theorem Takes.survives {v : Value} {call : Native β ω α} (takes : Takes v call) :
    call.Survives Gate.Layered := by
  cases takes with
  | toId => exact survives_closed.toId v
  | idOf => exact survives_closed.idOf v
  | existingId? => exact survives_closed.existingId? v
  | toSymbol => exact survives_closed.toSymbol v
  | nameString => exact survives_closed.nameString v
  | copyName => exact survives_closed.copyName v

end Symbols

namespace Host

/-- As long as every handle passed was handed out before, objects contain older ones only.  Then
`inspect?` has a text for every value, made of the texts of older values, and no operation, no
formatting and no call about symbols is endless. -/
theorem inspection_of_run {actions : List Action} (orderly : new.Orderly actions) {host : Host}
    (ran : new.actAll actions = host) :
    host.objects.Layered ∧
    (∀ v w, host.Contains v w →
      ∃ container, v.handleIndex? = some container ∧ w.Below container.toNat) ∧
    WellFounded (fun w v => host.Contains v w) ∧
    (∀ v, ∃ text, host.inspect? v = some text ∧
      ∀ inner, (∀ w, host.Contains v w → inner w = host.inspect? w) →
        host.inspectLayer inner v = some text) ∧
    (∀ name args, (host.invoke name args).1 ≠ .endless ∧
      (host.invokePredicate name args).1 ≠ .endless) ∧
    (∀ engine : Engine β, engine.host = host → ∀ format cursor,
      ((Format.render format).runOn (cursor, engine)).1 ≠ .error .aborted) ∧
    ∀ (gate : Gate β ω) engine, gate.current? = some engine → engine.host = host →
      ∀ {α : Type} (v : Value) (call : Native β ω α), Symbols.Takes v call →
        ((Native.raising call).runOn gate).1 ≠ .error .aborted := by
  have layered : host.objects.Layered := ran ▸ orderly.layered new_layered
  refine ⟨layered, ?contained, contains_wellFounded layered, ?texts, ?operations, ?formats, ?calls⟩
  case contained =>
    intro v w contains
    obtain ⟨container, indexed, -, below⟩ := contains.below layered
    exact ⟨container, indexed, below⟩
  case texts =>
    intro v
    obtain ⟨text, written⟩ := Option.isSome_iff_exists.mp (inspect?_isSome layered v)
    refine ⟨text, written, fun inner agree => ?_⟩
    rw [inspectLayer_congr agree, ← inspect?_eq_layer layered, written]
  case operations =>
    exact fun name args =>
      ⟨invoke_ne_endless layered name args, invokePredicate_ne_endless layered name args⟩
  case formats =>
    rintro engine rfl format cursor aborted
    exact (Format.survives_closed.render format (cursor, engine) layered).2 _ aborted (.inl rfl)
  case calls =>
    rintro gate engine current rfl α v call takes
    exact Native.raising_alive takes.survives ⟨engine, current, layered⟩

theorem inspection_of_run_nested :
    ∃ (host : Host) (gate : Gate Unit Unit), gate.current? = some { host } ∧
      host.objects.Layered ∧ host.Contains (.handle 21) (.handle 20) ∧
      (Value.handle 20).Below 21 ∧
      host.inspect? (.handle 21) = some (octets "[[nil], [nil]]") ∧
      (host.invoke "rb_sym2id" [.handle 21]).1 ≠ .endless ∧
      ((Format.render (octets "%+li\x0b")).runOn
        (.start [.value (.handle 21)], ({ host } : Engine Unit))).1 ≠ .error .aborted ∧
      ((Native.raising (Symbols.toId (.handle 21))).runOn gate).1 ≠ .error .aborted := by
  obtain ⟨actions, nested⟩ : ∃ actions : List Action, actions =
      [.invoke "rb_ary_new_from_values" [.nil],
        .invoke "rb_ary_new_from_values" [.handle 20, .handle 20]] := ⟨_, rfl⟩
  have orderly : new.Orderly actions :=
    nested ▸ .cons (by decide +kernel) (.cons (by decide +kernel) (.nil _))
  obtain ⟨host, ran⟩ : ∃ host, new.actAll actions = host := ⟨_, rfl⟩
  obtain ⟨layered, contained, -, texts, operations, formats, calls⟩ :=
    inspection_of_run (β := Unit) (ω := Unit) orderly ran
  have inner : host.inspect? (.handle 20) = some (octets "[nil]") := by
    rw [← ran, nested]
    decide +kernel
  have outer : host.objects.get? (.handle 21) = some (.array [.handle 20, .handle 20]) := by
    rw [← ran, nested]
    decide +kernel
  have contains : host.Contains (.handle 21) (.handle 20) := ⟨_, outer, .head _⟩
  obtain ⟨container, indexed, below⟩ := contained _ _ contains
  cases indexed
  obtain ⟨text, written, layer⟩ := texts (.handle 21)
  have shown : text = octets "[[nil], [nil]]" := by
    have layer := layer (fun _ => some (octets "[nil]")) ?_
    · rw [inspectLayer, outer] at layer
      exact (Option.some.inj layer).symm
    · rintro w ⟨_, same, member⟩
      rw [outer] at same
      cases same
      simp only [Object.contents, List.mem_cons, List.not_mem_nil, or_false, or_self] at member
      rw [member, inner]
  have current : (Gate.setEngine (.installed ()) 0 { host } : Gate Unit Unit).current? =
      some { host } := rfl
  exact ⟨host, _, current, layered, contains, below, shown ▸ written, (operations _ _).1,
    formats _ rfl _ _, calls _ _ current rfl _ _ .toId⟩

end Host

end NativeGate
