import NativeGate.Proofs.Host.Classes

namespace NativeGate

def Builtin.lineage : Builtin → List Builtin
  | .object => [.object]
  | .standardError => [.standardError, .exception, .object]
  | .noMemoryError => [.noMemoryError, .exception, .object]
  | .fatal => [.fatal, .exception, .object]
  | .typeError => [.typeError, .standardError, .exception, .object]
  | .argumentError => [.argumentError, .standardError, .exception, .object]
  | .rangeError => [.rangeError, .standardError, .exception, .object]
  | .localJumpError => [.localJumpError, .standardError, .exception, .object]
  | b => [b, .object]

namespace Host

/-- A walk from `current` up in search of `target`, with the number of its steps and its answer.
Finding nothing further up is a step, too. -/
inductive Walk (host : Host) (target : Value) : Option Value → Nat → Bool → Prop
  | found : Walk host target (some target) 1 true
  | above : Walk host target none 1 false
  | up {current : Value} {steps : Nat} {answer : Bool} (other : current ≠ target)
      (rest : Walk host target (host.superclass? current) steps answer) :
      Walk host target (some current) (steps + 1) answer

theorem Walk.unique {host : Host} {target : Value} {current : Option Value} {m n : Nat}
    {a b : Bool} (walk : host.Walk target current m a) (other : host.Walk target current n b) :
    m = n ∧ a = b := by
  induction walk generalizing n b with
  | found =>
      cases other with
      | found => exact ⟨rfl, rfl⟩
      | up different => exact absurd rfl different
  | above =>
      cases other
      exact ⟨rfl, rfl⟩
  | up different _ ih =>
      cases other with
      | found => exact absurd rfl different
      | up _ rest =>
          obtain ⟨rfl, rfl⟩ := ih rest
          exact ⟨rfl, rfl⟩

/-- All classes from `current` upwards, of which there is a last one. -/
inductive Chain (host : Host) : Option Value → List Value → Prop
  | above : Chain host none []
  | up {current : Value} {chain : List Value} (rest : Chain host (host.superclass? current) chain) :
      Chain host (some current) (current :: chain)

namespace Chain

variable {host : Host} {current : Option Value} {chain : List Value}

theorem exists_walk (classes : host.Chain current chain) (target : Value) :
    ∃ steps ≤ chain.length + 1, host.Walk target current steps (target ∈ chain) := by
  induction classes with
  | above => exact ⟨1, Nat.le_refl 1, by simpa using Walk.above⟩
  | @up current chain _ ih =>
      by_cases same : current = target
      · subst same
        exact ⟨1, Nat.le_add_left _ _, by simpa using Walk.found⟩
      · obtain ⟨steps, le, walk⟩ := ih
        refine ⟨steps + 1, Nat.succ_le_succ le, ?_⟩
        have further : target ∈ current :: chain ↔ target ∈ chain := by
          simp [Ne.symm same]
        simpa [further] using Walk.up same walk

theorem mem_iff (classes : host.Chain current chain) (target : Value) :
    target ∈ chain ↔ ∃ definition, current = some definition ∧
      host.Descends definition target := by
  induction classes with
  | above => simp
  | @up current chain _ ih =>
      rw [List.mem_cons, ih, eq_comm, ← Descends.cases_head_iff]
      exact ⟨fun descends => ⟨current, rfl, descends⟩, fun ⟨_, rfl, descends⟩ => descends⟩

end Chain

theorem Chain.isKindOf {host : Host} {v : Value} {chain : List Value}
    (classes : host.Chain (some (host.classOf v)) chain) (target : Value) :
    host.isKindOf v target = decide (target ∈ chain) := by
  rw [Bool.eq_iff_iff, isKindOf_iff, decide_eq_true_iff, classes.mem_iff]
  simp

def plainClasses : List Builtin :=
  [.integer, .symbol, .nilClass, .trueClass, .falseClass, .string, .array, .metaclass, .object]

/-- The classes that a value is of: a record's own class, Struct and Object; those of an exception's
class; and the class of its kind and Object for any other value. -/
inductive Lineage (host : Host) (v : Value) : List Value → Prop
  | record {definition : Value} {fields : List Value} {c : ClassDef}
      (found : host.objects.get? v = some (.record definition fields))
      (isClass : host.objects.get? definition = some (.classDef c)) (kind : c.kind = .record) :
      Lineage host v [definition, Builtin.struct.value, Builtin.object.value]
  | exception {kind : ErrorKind} {message : Bytes}
      (found : host.objects.get? v = some (.exception kind.value message)) :
      Lineage host v ((Builtin.ofErrorKind kind).lineage.map Builtin.value)
  | other {b : Builtin}
      (notRecord : ∀ definition fields, host.objects.get? v ≠ some (.record definition fields))
      (notException : ∀ definition message,
        host.objects.get? v ≠ some (.exception definition message))
      (plain : b ∈ plainClasses) (kind : host.classOf v = b.value) :
      Lineage host v [b.value, Builtin.object.value]

section Reached

variable {host : Host} (reached : host.Reachable)

include reached

theorem chain_builtin (b : Builtin) :
    host.Chain (some b.value) (b.lineage.map Builtin.value) := by
  have up (b : Builtin) {chain : List Value}
      (rest : host.Chain (b.superclass.map Builtin.value) chain) :
      host.Chain (some b.value) (b.value :: chain) := by
    rw [← superclass?_builtin reached] at rest
    exact .up rest
  have object : host.Chain (some Builtin.object.value) [Builtin.object.value] := up .object .above
  have exception := up .exception object
  have standardError := up .standardError exception
  cases b with
  | object => exact object
  | standardError => exact standardError
  | noMemoryError | fatal => exact up _ exception
  | typeError | argumentError | rangeError | localJumpError => exact up _ standardError
  | _ => exact up _ object

theorem chain_record {definition : Value} {c : ClassDef}
    (found : host.objects.get? definition = some (.classDef c)) (isRecord : c.kind = .record) :
    host.Chain (some definition) [definition, Builtin.struct.value, Builtin.object.value] := by
  have superclass : host.superclass? definition = some Builtin.struct.value := by
    rw [superclass?, ObjectTable.classDef?_eq_some_iff.mpr found]
    exact reached.classified _ _ found isRecord
  refine .up ?_
  rw [superclass]
  exact chain_builtin reached .struct

theorem chain_plain {b : Builtin} (plain : b ∈ plainClasses) :
    ∃ chain, host.Chain (some b.value) chain ∧
      chain.length ≤ 2 ∧ ∀ c, c ∈ chain ↔ c ∈ [b.value, Builtin.object.value] := by
  refine ⟨_, chain_builtin reached b, ?_⟩
  revert plain
  cases b <;> simp [plainClasses, Builtin.lineage]

theorem exists_lineage (v : Value) : ∃ lineage chain, host.Lineage v lineage ∧
    host.Chain (some (host.classOf v)) chain ∧ chain.length ≤ 4 ∧
      ∀ c, c ∈ chain ↔ c ∈ lineage := by
  have other {b : Builtin} (plain : b ∈ plainClasses) (kind : host.classOf v = b.value)
      (notRecord : ∀ definition fields, host.objects.get? v ≠ some (.record definition fields))
      (notException : ∀ definition message,
        host.objects.get? v ≠ some (.exception definition message)) :
      ∃ lineage chain, host.Lineage v lineage ∧ host.Chain (some (host.classOf v)) chain ∧
        chain.length ≤ 4 ∧ ∀ c, c ∈ chain ↔ c ∈ lineage := by
    obtain ⟨chain, classes, short, same⟩ := chain_plain reached plain
    rw [kind]
    exact ⟨_, chain, .other notRecord notException plain kind, classes, by omega, same⟩
  cases found : host.objects.get? v with
  | none =>
      obtain ⟨b, member, kind⟩ := classOf_of_missing found
      have plain : b ∈ plainClasses := by
        revert member
        cases b <;> decide
      exact other plain kind (by simp [found]) (by simp [found])
  | some object =>
      have admits := reached.classified v object found
      have kind := classOf_of_get? found
      cases object with
      | record definition fields =>
          obtain ⟨c, isClass, isRecord⟩ := admits
          rw [kind]
          exact ⟨_, _, .record found isClass isRecord, chain_record reached isClass isRecord,
            Nat.le_succ 3, fun _ => Iff.rfl⟩
      | exception definition message =>
          obtain ⟨errorKind, rfl⟩ := admits
          rw [kind]
          refine ⟨_, _, .exception found, chain_builtin reached _, ?_, fun _ => Iff.rfl⟩
          cases errorKind <;> decide
      | string s => exact other (b := .string) (by decide) kind (by simp [found]) (by simp [found])
      | array elements =>
          exact other (b := .array) (by decide) kind (by simp [found]) (by simp [found])
      | classDef c =>
          exact other (b := .metaclass) (by decide) kind (by simp [found]) (by simp [found])

/-- The walk that decides `isKindOf` takes at most five steps and answers yes exactly for the
classes in the value's lineage, even if some classes are superclasses of each other. -/
theorem kind_of_walk (v : Value) : ∃ lineage, host.Lineage v lineage ∧
    ∀ target, (∃ steps ≤ 5, ∀ n answer, host.Walk target (some (host.classOf v)) n answer ↔
        n = steps ∧ answer = host.isKindOf v target) ∧
      (host.isKindOf v target = true ↔ target ∈ lineage) := by
  obtain ⟨lineage, chain, isLineage, classes, short, same⟩ := exists_lineage reached v
  refine ⟨lineage, isLineage, fun target => ?_⟩
  obtain ⟨steps, le, walk⟩ := classes.exists_walk target
  rw [← classes.isKindOf target] at walk
  refine ⟨⟨steps, by omega, fun n answer => ⟨fun other => other.unique walk, ?_⟩⟩, ?_⟩
  · rintro ⟨rfl, rfl⟩
    exact walk
  · rw [classes.isKindOf target, decide_eq_true_iff, same]

end Reached

theorem kind_of_walk_past_loop :
    let looped := Value.handle 20
    let host := new.actAll [.defineClass (octets "Loop") (some looped),
      .newException .typeError (octets "t")]
    host.superclass? looped = some looped ∧
      ∃ lineage, host.Lineage (Value.handle 21) lineage ∧ looped ∉ lineage ∧
        ∃ steps ≤ 5, host.Walk looped (some Builtin.typeError.value) steps false := by
  intro looped host
  have reached : host.Reachable := ⟨_, rfl⟩
  obtain ⟨lineage, isLineage, walks⟩ := kind_of_walk reached (Value.handle 21)
  obtain ⟨⟨steps, le, walk⟩, member⟩ := walks looped
  have walk := (walk steps _).mpr ⟨rfl, rfl⟩
  have kind : host.classOf (Value.handle 21) = Builtin.typeError.value := by decide
  have answer : host.isKindOf (Value.handle 21) looped = false := by decide
  rw [answer] at walk member
  rw [kind] at walk
  exact ⟨by decide, lineage, isLineage, by simpa using member, steps, le, walk⟩

end Host

end NativeGate
