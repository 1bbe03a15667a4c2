import NativeGate.Proofs.Gate.Invocation

namespace NativeGate.Blocks

open NativeGate

/-! Two clients of one engine, each with a block of its own.  Their accesses to the engine come in
any order. -/

variable {β ω : Type}

inductive Client
  | first
  | second
deriving DecidableEq, Repr

namespace Client

def other : Client → Client
  | .first => .second
  | .second => .first

@[simp] theorem other_other (client : Client) : client.other.other = client := by
  cases client <;> rfl

@[simp] theorem other_ne (client : Client) : client.other ≠ client := by
  cases client <;> decide

theorem eq_or_eq_other (client one : Client) : one = client ∨ one = client.other := by
  cases client <;> cases one <;> decide

end Client

inductive Access
  | push
  | fetch
  | pop
deriving DecidableEq, Repr

abbrev Move := Client × Access

def Within (client : Client) (moves : List Move) : Prop :=
  (client, .push) ∈ moves ∧ (client, .pop) ∉ moves

instance (client : Client) (moves : List Move) : Decidable (Within client moves) :=
  inferInstanceAs (Decidable (_ ∧ _))

/-- The last move comes first.  Each client pushes its block once, then fetches blocks as often as
it likes, then pops once. -/
inductive Runs (blocks : Client → β) (start : Engine β) : List Move → Engine β → Prop
  | start : Runs blocks start [] start
  | push {client : Client} {moves : List Move} {engine : Engine β}
      (runs : Runs blocks start moves engine) (fresh : (client, .push) ∉ moves) :
      Runs blocks start ((client, .push) :: moves) (engine.pushBlock (blocks client))
  | fetch {client : Client} {moves : List Move} {engine after : Engine β}
      {found : Except Exit (Value ⊕ β)} (runs : Runs blocks start moves engine)
      (within : Within client moves) (fetched : startYield.runOn engine = (found, after)) :
      Runs blocks start ((client, .fetch) :: moves) after
  | pop {client : Client} {moves : List Move} {engine : Engine β}
      (runs : Runs blocks start moves engine) (within : Within client moves) :
      Runs blocks start ((client, .pop) :: moves) engine.popBlock

def owners : List Move → List Client
  | [] => []
  | (client, .push) :: moves => client :: owners moves
  | (_, .fetch) :: moves => owners moves
  | (_, .pop) :: moves => (owners moves).tail

def since (client : Client) (moves : List Move) : List Move :=
  moves.takeWhile (· ≠ (client, .push))

/-- How often the other client has made this access since the client's push. -/
def meanwhile (client : Client) (access : Access) (moves : List Move) : Nat :=
  (since client moves).count (client.other, access)

/-- The other client has popped as often as it has pushed since the client's push. -/
def Undisturbed (client : Client) (moves : List Move) : Prop :=
  meanwhile client .push moves = meanwhile client .pop moves

instance (client : Client) (moves : List Move) : Decidable (Undisturbed client moves) :=
  inferInstanceAs (Decidable (_ = _))

section Moves

variable {client : Client} {moves : List Move} {access : Access}

theorem within_push (alive : (client, .pop) ∉ moves) : Within client ((client, .push) :: moves) :=
  ⟨List.mem_cons_self, by simpa using alive⟩

@[simp] theorem not_within_pop : ¬ Within client ((client, .pop) :: moves) :=
  fun within => within.2 List.mem_cons_self

@[simp] theorem within_fetch (one : Client) :
    Within one ((client, .fetch) :: moves) ↔ Within one moves := by
  simp [Within]

@[simp] theorem within_other :
    Within client.other ((client, access) :: moves) ↔ Within client.other moves := by
  simp [Within]

@[simp] theorem meanwhile_own_push : meanwhile client access ((client, .push) :: moves) = 0 := by
  simp [meanwhile, since]

theorem meanwhile_cons {one : Client} {move : Move} (others : move ≠ (one, .push)) :
    meanwhile one access (move :: moves) =
      meanwhile one access moves + if move = (one.other, access) then 1 else 0 := by
  simp [meanwhile, since, others, List.count_cons]

@[simp] theorem meanwhile_fetch (one : Client) (notFetch : access ≠ .fetch) :
    meanwhile one access ((client, .fetch) :: moves) = meanwhile one access moves := by
  rw [meanwhile_cons (by simp)]
  simp [Ne.symm notFetch]

@[simp] theorem meanwhile_other :
    meanwhile client.other access ((client, access) :: moves) =
      meanwhile client.other access moves + 1 := by
  rw [meanwhile_cons (by simp [Ne.symm (Client.other_ne client)])]
  simp

theorem meanwhile_other_of_ne {other : Access} (distinct : other ≠ access) :
    meanwhile client.other access ((client, other) :: moves) =
      meanwhile client.other access moves := by
  rw [meanwhile_cons (by simp [Ne.symm (Client.other_ne client)])]
  simp [distinct]

theorem meanwhile_eq_zero (never : (client.other, access) ∉ moves) :
    meanwhile client access moves = 0 :=
  List.count_eq_zero.mpr fun member => never (List.takeWhile_subset _ member)

end Moves

structure Innermost (client : Client) (moves : List Move) : Prop where
  owners : owners moves = [client, client.other]
  pushes : meanwhile client .push moves = 0
  pops : meanwhile client .pop moves = 0
  otherPushes : meanwhile client.other .push moves = 1
  otherPops : meanwhile client.other .pop moves = 0

structure Standing (moves : List Move) : Prop where
  pushed : ∀ client, (client, .pop) ∈ moves → (client, .push) ∈ moves
  idle : ∀ client, ¬ Within client moves → ¬ Within client.other moves → owners moves = []
  alone : ∀ client, Within client moves → ¬ Within client.other moves →
    owners moves = [if Undisturbed client moves then client else client.other]
  both : ∀ client, Within client moves → Within client.other moves →
    Innermost client moves ∨ Innermost client.other moves

namespace Standing

variable {client : Client} {moves : List Move}

theorem start : Standing [] where
  pushed _ := nofun
  idle _ _ _ := rfl
  alone _ within := nomatch within.1
  both _ within := nomatch within.1

theorem push (standing : Standing moves) (fresh : (client, .push) ∉ moves) :
    Standing ((client, .push) :: moves) := by
  have apart : ¬ Within client moves := fun within => fresh within.1
  have within : Within client ((client, .push) :: moves) :=
    within_push fun popped => fresh (standing.pushed client popped)
  have innermost (others : Within client.other moves) :
      Innermost client ((client, .push) :: moves) := by
    -- The other client has begun alone and seen nothing since.
    have pushes : meanwhile client.other .push moves = 0 := meanwhile_eq_zero (by simpa using fresh)
    have pops : meanwhile client.other .pop moves = 0 :=
      meanwhile_eq_zero fun popped => fresh (standing.pushed client (by simpa using popped))
    have undisturbed : Undisturbed client.other moves := pushes.trans pops.symm
    have below := standing.alone client.other others (by simpa using apart)
    rw [if_pos undisturbed] at below
    exact {
      owners := congrArg (client :: ·) below
      pushes := meanwhile_own_push
      pops := meanwhile_own_push
      otherPushes := by rw [meanwhile_other, pushes]
      otherPops := by rw [meanwhile_other_of_ne (by decide), pops] }
  constructor
  · intro one popped
    exact List.mem_cons_of_mem _ (standing.pushed one (by simpa using popped))
  · intro one out outOther
    obtain rfl | rfl := client.eq_or_eq_other one
    · exact absurd within out
    · exact absurd within (by simpa using outOther)
  · intro one _ outOther
    obtain rfl | rfl := client.eq_or_eq_other one
    · have none := standing.idle one apart (by simpa using outOther)
      have undisturbed : Undisturbed one ((one, .push) :: moves) := by simp [Undisturbed]
      rw [owners, none, if_pos undisturbed]
    · exact absurd within (by simpa using outOther)
  · intro one isWithin otherWithin
    obtain rfl | rfl := client.eq_or_eq_other one
    · exact .inl (innermost (by simpa using otherWithin))
    · exact .inr (by simpa using innermost (by simpa using isWithin))

theorem fetch (standing : Standing moves) (client : Client) :
    Standing ((client, .fetch) :: moves) := by
  have kept {one : Client} (innermost : Innermost one moves) :
      Innermost one ((client, .fetch) :: moves) := by
    obtain ⟨owners, pushes, pops, otherPushes, otherPops⟩ := innermost
    constructor
    · exact owners
    · rw [meanwhile_fetch one (by decide), pushes]
    · rw [meanwhile_fetch one (by decide), pops]
    · rw [meanwhile_fetch one.other (by decide), otherPushes]
    · rw [meanwhile_fetch one.other (by decide), otherPops]
  have sameUndisturbed (one : Client) :
      Undisturbed one ((client, .fetch) :: moves) ↔ Undisturbed one moves := by
    rw [Undisturbed, meanwhile_fetch one (by decide), meanwhile_fetch one (by decide), Undisturbed]
  constructor
  · intro one popped
    exact List.mem_cons_of_mem _ (standing.pushed one (by simpa using popped))
  · intro one out outOther
    exact standing.idle one (by simpa using out) (by simpa using outOther)
  · intro one isWithin outOther
    rw [owners, standing.alone one (by simpa using isWithin) (by simpa using outOther)]
    simp only [sameUndisturbed]
  · intro one isWithin otherWithin
    exact (standing.both one (by simpa using isWithin) (by simpa using otherWithin)).imp kept kept

theorem pop (standing : Standing moves) (within : Within client moves) :
    Standing ((client, .pop) :: moves) := by
  constructor
  · intro one popped
    obtain same | popped := List.mem_cons.mp popped
    · cases same
      exact List.mem_cons_of_mem _ within.1
    · exact List.mem_cons_of_mem _ (standing.pushed one popped)
  · intro one out outOther
    have othersOut : ¬ Within client.other moves := by
      obtain rfl | rfl := client.eq_or_eq_other one
      · simpa using outOther
      · simpa using out
    rw [owners, standing.alone client within othersOut, List.tail_cons]
  · intro one isWithin _
    obtain rfl | rfl := client.eq_or_eq_other one
    · exact absurd isWithin not_within_pop
    -- The client that pops takes the innermost block away, be it its own or the other one's.
    obtain innermost | innermost := standing.both client within (by simpa using isWithin)
    · have undisturbed : Undisturbed client.other ((client, .pop) :: moves) := by
        rw [Undisturbed, meanwhile_other, meanwhile_other_of_ne (by decide),
          innermost.otherPushes, innermost.otherPops]
      rw [owners, innermost.owners, if_pos undisturbed, List.tail_cons]
    · have disturbed : ¬ Undisturbed client.other ((client, .pop) :: moves) := by
        rw [Undisturbed, meanwhile_other, meanwhile_other_of_ne (by decide), innermost.pushes,
          innermost.pops]
        decide
      rw [owners, innermost.owners, if_neg disturbed, List.tail_cons]
  · intro one isWithin otherWithin
    obtain rfl | rfl := client.eq_or_eq_other one
    · exact absurd isWithin not_within_pop
    · exact absurd otherWithin (by simp)

theorem head?_owners (standing : Standing moves) (within : Within client moves) :
    (owners moves).head? =
      some (if Undisturbed client moves then client else client.other) := by
  by_cases others : Within client.other moves
  · obtain innermost | innermost := standing.both client within others
    · have undisturbed : Undisturbed client moves := innermost.pushes.trans innermost.pops.symm
      rw [innermost.owners, if_pos undisturbed, List.head?_cons]
    · have disturbed : ¬ Undisturbed client moves := by
        have pushes := innermost.otherPushes
        have pops := innermost.otherPops
        rw [Client.other_other] at pushes pops
        rw [Undisturbed, pushes, pops]
        decide
      rw [innermost.owners, if_neg disturbed, List.head?_cons]
  · rw [standing.alone client within others, List.head?_cons]

end Standing

namespace Runs

variable {blocks : Client → β} {start engine : Engine β} {moves : List Move}

theorem standing (runs : Runs blocks start moves engine) : Standing moves := by
  induction runs with
  | start => exact .start
  | push _ fresh ih => exact ih.push fresh
  | fetch _ _ _ ih => exact ih.fetch _
  | pop _ within ih => exact ih.pop within

theorem owners_ne_nil {client : Client} (runs : Runs blocks start moves engine)
    (within : Within client moves) : owners moves ≠ [] := by
  intro none
  have innermost := runs.standing.head?_owners within
  rw [none] at innermost
  cases innermost

theorem unpinned (runs : Runs blocks start moves engine) (unpinned : start.pinned = []) :
    engine.pinned = [] := by
  induction runs with
  | start => exact unpinned
  | push _ _ ih => exact ih
  | pop _ _ ih => exact ih
  | fetch _ _ fetched ih =>
      rw [runOn_startYield ih] at fetched
      split at fetched <;> cases fetched <;> exact ih

theorem blocks_eq (runs : Runs blocks start moves engine) (unpinned : start.pinned = []) :
    engine.blocks = (owners moves).map blocks ++ start.blocks := by
  induction runs with
  | start => rfl
  | push _ _ ih => exact congrArg (_ :: ·) ih
  | fetch runs _ fetched ih =>
      rw [runOn_startYield (runs.unpinned unpinned)] at fetched
      split at fetched <;> cases fetched <;> exact ih
  | pop runs within ih =>
      obtain ⟨innermost, rest, isCons⟩ := List.exists_cons_of_ne_nil (runs.owners_ne_nil within)
      rw [owners, Engine.popBlock, ih, isCons]
      rfl

end Runs

/-- Between its push and its pop a client yields to its own block exactly if the other one has since
popped as often as pushed, and to the other's block if not.  Once both have popped, the stack is
what it was. -/
theorem own_block_if_undisturbed (call : Caller β ω) {blocks : Client → β}
    {start engine : Engine β} {moves : List Move} (unpinned : start.pinned = [])
    (runs : Runs blocks start moves engine) :
    (∀ client, Within client moves → ∀ (gate : Gate β ω) scope,
      gate.context.current? = some scope → gate.engine scope.engine = engine → ∀ args,
      (yield call args).runOn gate =
        (call (blocks (if Undisturbed client moves then client else client.other)) args).runOn
          (gate.changeHost scope.engine (·.note yieldName))) ∧
    ((∀ client, (client, .pop) ∈ moves) → engine.blocks = start.blocks) := by
  constructor
  · intro client within gate scope current isEngine args
    have innermost : engine.block? =
        some (blocks (if Undisturbed client moves then client else client.other)) := by
      rw [Engine.block?, runs.blocks_eq unpinned]
      simp [runs.standing.head?_owners within]
    have started : (Native.onEngine startYield : Native β ω (Value ⊕ β)).runOn gate =
        (.ok (.inr (blocks (if Undisturbed client moves then client else client.other))),
          gate.changeHost scope.engine (·.note yieldName)) := by
      rw [Native.runOn_onEngine current, isEngine, runOn_startYield (runs.unpinned unpinned),
        innermost, Gate.changeHost, isEngine]
    rw [yield, Proc.runOn_bind_of_ok started]
  · intro popped
    have out (client : Client) : ¬ Within client moves := fun within => within.2 (popped client)
    rw [runs.blocks_eq unpinned, runs.standing.idle .first (out _) (out _), List.map_nil,
      List.nil_append]

def answering : Caller Value Unit :=
  fun block _ => return block

def answers : Client → Value
  | .first => .yes
  | .second => .no

theorem own_block_if_undisturbed_within :
    let moves : List Move :=
      [(.second, .pop), (.second, .fetch), (.second, .push), (.first, .fetch), (.first, .push)]
    ∃ engine, Runs answers {} moves engine ∧ Within .first moves ∧ Undisturbed .first moves ∧
      ((yield answering []).runOn ((Gate.installed ()).setEngine 0 engine)).1 = .ok .yes := by
  intro moves
  have runs : Runs answers {} moves _ :=
    .pop (.fetch (.push (.fetch (.push .start (by decide)) (by decide) rfl) (by decide))
      (by decide) rfl) (by decide)
  refine ⟨_, runs, by decide, by decide, ?_⟩
  obtain ⟨own, -⟩ := own_block_if_undisturbed answering rfl runs
  rw [own .first (by decide) _ { engine := 0 } rfl (Gate.engine_setEngine ..) []]
  rfl

/-- The second client's push comes between the first one's push and its yield. -/
theorem yields_to_block_of_other :
    ∃ engine, Runs answers {} [(.second, .push), (.first, .push)] engine ∧
      Within .first [(.second, .push), (.first, .push)] ∧
      ((yield answering []).runOn ((Gate.installed ()).setEngine 0 engine)).1 =
        .ok (answers .second) ∧
      answers .second ≠ answers .first :=
  ⟨_, .push (.push .start (by decide)) (by decide), by decide, rfl, by decide⟩

end NativeGate.Blocks
