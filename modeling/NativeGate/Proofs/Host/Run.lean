import Mathlib.Logic.Relation
import NativeGate.Gate.Blocks
import NativeGate.Proofs.Host.Plan
import NativeGate.Proofs.Object
import NativeGate.Proofs.Symbol.Table

namespace NativeGate.Host

open NativeGate

/-- What an engine or its embedder does with a host. -/
inductive Action
  | invoke (name : String) (args : List Value)
  | invokePredicate (name : String) (args : List Value)
  /-- A yield, with a block to call or without. -/
  | yield (found : Bool)
  | newString (bytes : Bytes) (encoding : Encoding)
  | newException (kind : ErrorKind) (message : Bytes)
  | readString (string : Value)
  | append (string : Value) (more : Bytes)
  | defineClass (name : Bytes) (superclass : Option Value)
  | setVerbose (v : Value)
  | setCategory (category : WarningCategory) (on : Bool)
  | clearLog
deriving Repr

/-- Replies aside. -/
def act (host : Host) : Action → Host
  | .invoke name args => (host.invoke name args).2
  | .invokePredicate name args => (host.invokePredicate name args).2
  | .yield true => host.note yieldName
  | .yield false => ((host.note yieldName).newException .localJumpError Blocks.noBlockText).2
  | .newString bytes encoding => (host.newString bytes encoding).2
  | .newException kind message => (host.newException kind message).2
  | .readString string => (host.readString string).2
  | .append string more => (host.append string more).2
  | .defineClass name superclass => (host.defineClass name superclass).2
  | .setVerbose v => host.setVerbose v
  | .setCategory category on => host.setCategory category on
  | .clearLog => host.clearLog

def actAll (host : Host) (actions : List Action) : Host :=
  actions.foldl act host

@[simp] theorem actAll_nil (host : Host) : host.actAll [] = host := rfl

@[simp] theorem actAll_cons (host : Host) (action : Action) (rest : List Action) :
    host.actAll (action :: rest) = (host.act action).actAll rest := rfl

theorem actAll_append (host : Host) (first second : List Action) :
    host.actAll (first ++ second) = (host.actAll first).actAll second :=
  List.foldl_append

def Leads (host later : Host) : Prop :=
  ∃ actions, host.actAll actions = later

def Reachable (host : Host) : Prop :=
  new.Leads host

theorem Leads.refl (host : Host) : host.Leads host :=
  ⟨[], rfl⟩

theorem Leads.trans {first second third : Host} (left : first.Leads second)
    (right : second.Leads third) : first.Leads third := by
  obtain ⟨actions, rfl⟩ := left
  obtain ⟨more, rfl⟩ := right
  exact ⟨actions ++ more, actAll_append first actions more⟩

theorem leads_act (host : Host) (action : Action) : host.Leads (host.act action) :=
  ⟨[action], rfl⟩

theorem Reachable.leads {host later : Host} (reached : host.Reachable) (leads : host.Leads later) :
    later.Reachable :=
  Leads.trans reached leads

/-- One change of the objects or the symbols. -/
inductive Move (host : Host) : Host → Prop
  | aside {after : Host} (objects : after.objects = host.objects)
      (symbols : after.symbols = host.symbols) : Move host after
  | effect {effect : Effect} (justified : effect.Justified host) :
      Move host (host.carryOut effect).2
  | exception (kind : ErrorKind) (message : Bytes) : Move host (host.newException kind message).2

abbrev Moves : Host → Host → Prop :=
  Relation.ReflTransGen Move

@[simp] theorem note_objects (host : Host) (name : String) :
    (host.note name).objects = host.objects := rfl

@[simp] theorem note_symbols (host : Host) (name : String) :
    (host.note name).symbols = host.symbols := rfl

theorem note_moves (host : Host) (name : String) : host.Moves (host.note name) :=
  .single (.aside rfl rfl)

theorem complain_moves {α : Type} (host : Host) (complaint : Complaint) :
    host.Moves (host.complain (α := α) complaint).2 := by
  cases complaint with
  | raise kind message => exact .single (.exception kind message)
  | outOfMemory => exact .refl
  | endless => exact .refl

theorem perform_moves (host : Host) (op : Operation) (args : List Value) :
    host.Moves (host.perform op args).2 := by
  unfold perform
  cases planned : host.plan op args with
  | ok effect => exact .single (.effect (plan_justified planned))
  | error complaint => exact host.complain_moves complaint

theorem invoke_moves (host : Host) (name : String) (args : List Value) :
    host.Moves (host.invoke name args).2 := by
  refine (host.note_moves name).trans ?_
  unfold invoke
  cases Operation.ofName? name with
  | none => exact complain_moves _ _
  | some op => exact perform_moves _ op args

theorem invokePredicate_moves (host : Host) (name : String) (args : List Value) :
    host.Moves (host.invokePredicate name args).2 := by
  refine (host.note_moves name).trans ?_
  unfold invokePredicate
  cases Operation.ofName? name with
  | none => exact complain_moves _ _
  | some op =>
      cases op with
      | ask query =>
          dsimp only
          cases (host.note name).answer query args with
          | ok answer => exact .refl
          | error complaint => exact complain_moves _ complaint
      | _ => exact perform_moves _ _ args

theorem readString_moves (host : Host) (string : Value) :
    host.Moves (host.readString string).2 := by
  unfold readString
  cases host.objects.string? string with
  | none => exact complain_moves _ _
  | some s => exact .refl

theorem append_or_moves (host : Host) (action : Action) :
    (∃ string more, action = .append string more) ∨ host.Moves (host.act action) := by
  cases action with
  | append string more => exact .inl ⟨string, more, rfl⟩
  | invoke name args => exact .inr (host.invoke_moves name args)
  | invokePredicate name args => exact .inr (host.invokePredicate_moves name args)
  | yield found =>
      refine .inr ((host.note_moves yieldName).trans ?_)
      cases found with
      | true => exact .refl
      | false => exact .single (.exception _ _)
  | newString bytes encoding => exact .inr (.single (.effect (.string bytes encoding)))
  | newException kind message => exact .inr (.single (.exception kind message))
  | readString string => exact .inr (host.readString_moves string)
  | defineClass name superclass =>
      exact .inr (.single (.effect (.define _ (.plain _ _))))
  | setVerbose v => exact .inr (.single (.aside rfl rfl))
  | setCategory category on => exact .inr (.single (.aside rfl rfl))
  | clearLog => exact .inr (.single (.aside rfl rfl))

section Lifting

variable {R : Host → Host → Prop} (refl : ∀ host, R host host)
  (trans : ∀ {first second third}, R first second → R second third → R first third)
  (move : ∀ {host after}, Move host after → R host after)

include refl trans move

theorem Moves.lift {host after : Host} (moves : host.Moves after) : R host after := by
  induction moves with
  | refl => exact refl host
  | tail _ last before => exact trans before (move last)

/-- What holds of every move and every append holds of every run. -/
theorem Leads.lift (append : ∀ host string more, R host (append host string more).2)
    {host later : Host} (leads : host.Leads later) : R host later := by
  obtain ⟨actions, rfl⟩ := leads
  induction actions generalizing host with
  | nil => exact refl host
  | cons action rest after =>
      refine trans ?_ after
      obtain ⟨string, more, rfl⟩ | moves := host.append_or_moves action
      · exact append host string more
      · exact Moves.lift refl trans move moves

end Lifting

theorem Leads.preserve {P : Host → Prop} (move : ∀ {host after}, Move host after → P host → P after)
    (append : ∀ {host}, P host → ∀ string more, P (append host string more).2)
    {host later : Host} (leads : host.Leads later) (start : P host) : P later :=
  Leads.lift (R := fun host later => P host → P later) (fun _ => id)
    (fun left right => right ∘ left) move (fun _ string more holds => append holds string more)
    leads start

/-- What every move and every append keeps as long as there is room, whole runs keep. -/
theorem Leads.keep (P : Host → Prop) (size : Host → Nat) {bound : Nat}
    (move : ∀ {host after}, Move host after →
      size host ≤ size after ∧ (size after < bound → P host → P after))
    (append : ∀ host string more,
      size (append host string more).2 = size host ∧
        (size host < bound → P host → P (append host string more).2))
    {host later : Host} (leads : host.Leads later) (room : size later < bound) (start : P host) :
    P later := by
  have kept : size host ≤ size later ∧ (size later < bound → P host → P later) := by
    refine Leads.lift
      (R := fun host later =>
        size host ≤ size later ∧ (size later < bound → P host → P later))
      (fun _ => ⟨Nat.le_refl _, fun _ h => h⟩) ?_ move ?_ leads
    · rintro first second third ⟨grown, left⟩ ⟨grown', right⟩
      exact ⟨Nat.le_trans grown grown',
        fun room h => right room (left (Nat.lt_of_le_of_lt grown' room) h)⟩
    · intro host string more
      obtain ⟨same, holds⟩ := append host string more
      rw [same]
      exact ⟨Nat.le_refl _, holds⟩
  exact kept.2 room start

end NativeGate.Host
