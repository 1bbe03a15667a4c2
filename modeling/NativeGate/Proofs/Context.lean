import NativeGate.Proofs.Gate.Basic

namespace NativeGate.Context

open NativeGate

/-! Threads enter scopes and drop their guards in any order. -/

variable {β ω : Type}

inductive Act
  | install (scope : Scope)
  | enter (scope : Scope)
  /-- The guards of `younger` scopes that were entered later are still held. -/
  | drop (younger : Nat)
deriving DecidableEq, Repr

namespace Act

def IsNested : Act → Prop
  | .drop younger => younger = 0
  | .install _ | .enter _ => True

instance : DecidablePred IsNested
  | .drop _ => inferInstanceAs (Decidable (_ = _))
  | .install _ | .enter _ => inferInstanceAs (Decidable True)

def nested : Act → Act
  | .drop _ => .drop 0
  | .install scope => .install scope
  | .enter scope => .enter scope

def installed? : Act → Option Scope
  | .install scope => some scope
  | .enter _ | .drop _ => none

theorem IsNested.nested_eq {act : Act} (isNested : act.IsNested) : act.nested = act := by
  cases act with
  | install | enter => rfl
  | drop younger => exact congrArg Act.drop (Eq.symm isNested)

end Act

structure Thread where
  context : Context
  /-- Youngest first. -/
  held : List Scope := []
deriving DecidableEq, Repr

namespace Thread

def fresh (installed : Option Scope) : Thread where
  context := { installed }

/-- A guard knows nothing of its scope: whichever is dropped, the innermost scope is left. -/
def act? (thread : Thread) : Act → Option Thread
  | .install scope =>
      some { thread with context := (thread.context.install? scope).getD thread.context }
  | .enter scope => some { context := thread.context.enter scope, held := scope :: thread.held }
  | .drop younger =>
      if younger < thread.held.length then
        some { context := thread.context.leave, held := thread.held.eraseIdx younger }
      else none

def run? (thread : Thread) (acts : List Act) : Option Thread :=
  acts.foldlM act? thread

/-- The youngest scope whose guard is held. -/
def due? (thread : Thread) : Option Scope :=
  thread.held.head?.or thread.context.installed

def IsRouted (thread : Thread) : Prop :=
  thread.context.current? = thread.due?

instance (thread : Thread) : Decidable thread.IsRouted :=
  inferInstanceAs (Decidable (_ = _))

theorem run?_cons (thread : Thread) (act : Act) (acts : List Act) :
    thread.run? (act :: acts) = (thread.act? act).bind (·.run? acts) := rfl

theorem act?_installed {thread after : Thread} {act : Act} (acted : thread.act? act = some after) :
    after.context.installed = thread.context.installed.or act.installed? := by
  cases act with
  | install scope =>
      cases acted
      cases installed : thread.context.installed <;> simp [install?, installed, Act.installed?]
  | enter scope =>
      cases acted
      simp [enter, Act.installed?]
  | drop younger =>
      obtain ⟨-, acted⟩ := Option.ite_none_right_eq_some.mp acted
      cases acted
      simp [leave, Act.installed?]

theorem run?_installed {thread after : Thread} {acts : List Act}
    (ran : thread.run? acts = some after) :
    after.context.installed = thread.context.installed.or (acts.findSome? Act.installed?) := by
  induction acts generalizing thread with
  | nil =>
      cases ran
      simp
  | cons act acts ih =>
      rw [run?_cons] at ran
      obtain ⟨middle, acted, rest⟩ := Option.bind_eq_some_iff.mp ran
      rw [ih rest, act?_installed acted, Option.or_assoc, List.findSome?_cons]
      cases act.installed? <;> rfl

def orderly (thread : Thread) : Thread :=
  { thread with held := thread.context.scopes }

theorem orderly_isRouted (thread : Thread) : thread.orderly.IsRouted := rfl

def Balances (thread : Thread) : Prop :=
  thread.held.length = thread.context.scopes.length

theorem act?_orderly {thread after : Thread} {act : Act} (balances : thread.Balances)
    (acted : thread.act? act = some after) :
    thread.orderly.act? act.nested = some after.orderly ∧ after.Balances := by
  cases act with
  | install scope =>
      cases acted
      have kept : ((thread.context.install? scope).getD thread.context).scopes =
          thread.context.scopes := by
        cases installed : thread.context.installed <;> simp [install?, installed]
      constructor
      · simp [Act.nested, act?, orderly, kept]
      · exact balances.trans (congrArg List.length kept.symm)
  | enter scope =>
      cases acted
      exact ⟨rfl, congrArg (· + 1) balances⟩
  | drop younger =>
      obtain ⟨isHeld, acted⟩ := Option.ite_none_right_eq_some.mp acted
      cases acted
      have entered : 0 < thread.context.scopes.length := by
        rw [← balances]
        omega
      constructor
      · simp [Act.nested, act?, orderly, leave, entered]
      · change (thread.held.eraseIdx younger).length = (thread.context.scopes.drop 1).length
        rw [List.length_eraseIdx_of_lt isHeld, List.length_drop, balances]

theorem run?_orderly {thread after : Thread} {acts : List Act} (balances : thread.Balances)
    (ran : thread.run? acts = some after) :
    thread.orderly.run? (acts.map Act.nested) = some after.orderly := by
  induction acts generalizing thread with
  | nil =>
      cases ran
      rfl
  | cons act acts ih =>
      rw [run?_cons] at ran
      obtain ⟨middle, acted, rest⟩ := Option.bind_eq_some_iff.mp ran
      obtain ⟨actedOrderly, balancesMiddle⟩ := act?_orderly balances acted
      rw [List.map_cons, run?_cons, actedOrderly]
      exact ih balancesMiddle rest

theorem fresh_balances (installed : Option Scope) : (fresh installed).Balances := rfl

theorem eq_orderly_of_nested {installed : Option Scope} {acts : List Act} {thread : Thread}
    (ran : (fresh installed).run? acts = some thread) (nested : ∀ act ∈ acts, act.IsNested) :
    thread = thread.orderly := by
  have same : acts.map Act.nested = acts := by
    rw [List.map_congr_left fun act member => (nested act member).nested_eq, List.map_id']
  have ranOrderly := run?_orderly (fresh_balances installed) ran
  rw [same] at ranOrderly
  exact Option.some.inj (ran.symm.trans ranOrderly)

theorem act?_drop_younger {thread after : Thread} (nested : thread = thread.orderly) {younger : Nat}
    (dropped : thread.act? (.drop (younger + 1)) = some after) :
    after.context.current? = thread.held.tail.head?.or thread.context.installed ∧
      after.due? = thread.held.head? := by
  have scopes : thread.held = thread.context.scopes := congrArg Thread.held nested
  obtain ⟨isHeld, acted⟩ := Option.ite_none_right_eq_some.mp dropped
  cases acted
  constructor
  · rw [scopes, ← List.drop_one]
    rfl
  · cases held : thread.held with
    | nil =>
        rw [held] at isHeld
        cases isHeld
    | cons innermost rest => simp [due?]

end Thread

structure Serves (gate : Gate β ω) (scope : Option Scope) : Prop where
  engine : (Native.engineNumber : Native β ω Nat).runOn gate =
    (match scope with
      | some scope => .ok scope.engine
      | none => .error (.failed .noEngine), gate)
  settings : (Native.settings : Native β ω Settings).runOn gate =
    (.ok ((scope.map (·.settings)).getD {}), gate)

theorem serves_current (gate : Gate β ω) : Serves gate gate.context.current? where
  engine := by
    rw [Native.engineNumber, Proc.runOn_bind, Proc.runOn_get]
    dsimp only
    cases gate.context.current? <;> rfl
  settings := rfl

open Thread

/-- An engine is installed once, and calls go where they would had the youngest guard been dropped
each time.  That is the youngest scope whose guard is held as long as guards are dropped youngest
first; the first guard dropped out of turn takes calls from the innermost scope, whose own guard is
held. -/
theorem scopes_route_calls {installed : Option Scope} {acts : List Act} {thread : Thread}
    (ran : (fresh installed).run? acts = some thread) :
    thread.context.installed = installed.or (acts.findSome? Act.installed?) ∧
    (∀ first scope, thread.context.installed = some first →
      thread.context.install? scope = none) ∧
    (∃ other, (fresh installed).run? (acts.map Act.nested) = some other ∧
      other.context = thread.context ∧ other.IsRouted) ∧
    ((∀ act ∈ acts, act.IsNested) →
      (∀ gate : Gate β ω, gate.context = thread.context → Serves gate thread.due?) ∧
      ∀ younger after, thread.act? (.drop (younger + 1)) = some after →
        after.context.current? = thread.held.tail.head?.or thread.context.installed ∧
        after.due? = thread.held.head?) := by
  refine ⟨run?_installed ran, ?_, ?_, ?_⟩
  · intro first scope isInstalled
    rw [install?, isInstalled]
  · exact ⟨thread.orderly, run?_orderly (fresh_balances installed) ran, rfl,
      thread.orderly_isRouted⟩
  · intro nested
    have same := eq_orderly_of_nested ran nested
    have routed : thread.IsRouted := by
      rw [same]
      exact thread.orderly_isRouted
    refine ⟨fun gate isContext => ?_, fun younger after => act?_drop_younger same⟩
    rw [← routed, ← isContext]
    exact serves_current gate

theorem scopes_route_calls_nested :
    let outer : Scope := { engine := 1, settings := { bugAction := .unwind } }
    let acts : List Act :=
      [.install { engine := 0 }, .enter outer, .enter { engine := 2 }, .install { engine := 3 },
        .drop 0]
    let thread : Thread :=
      { context := { scopes := [outer], installed := some { engine := 0 } }, held := [outer] }
    (fresh none).run? acts = some thread ∧
    Serves ({ context := thread.context, program := () } : Gate Unit Unit) (some outer) := by
  intro outer acts thread
  have ran : (fresh none).run? acts = some thread := by decide
  obtain ⟨-, -, -, nested⟩ := scopes_route_calls (β := Unit) (ω := Unit) ran
  exact ⟨ran, (nested (by decide)).1 { context := thread.context, program := () } rfl⟩

/-- The guard of the outer scope is dropped, and calls go to the outer scope while only the guard of
the inner one is held. -/
theorem outer_guard_leaves_inner_scope :
    ∃ thread, (fresh none).run?
        [.enter { engine := 1, settings := { bugAction := .unwind } }, .enter { engine := 2 },
          .drop 1] = some thread ∧
      thread.held = [{ engine := 2 }] ∧
      thread.context.current? = some { engine := 1, settings := { bugAction := .unwind } } ∧
      ¬ thread.IsRouted :=
  ⟨{ context := { scopes := [{ engine := 1, settings := { bugAction := .unwind } }] }
     held := [{ engine := 2 }] }, by decide, rfl, rfl, by decide⟩

end NativeGate.Context
