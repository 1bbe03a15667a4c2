import Mathlib.Data.Fintype.Card
import NativeGate.Proofs.Host.Records

namespace NativeGate

theorem Builtin.value_injective : Function.Injective Builtin.value := by
  intro a b same
  have bits := congrArg (fun v => v.bits.toNat) same
  have apart (b : Builtin) : b.value.bits.toNat = (b.ctorIdx + 8) * 8 := by
    cases b <;> rfl
  simp only [apart] at bits
  have index : a.ctorIdx = b.ctorIdx := by omega
  cases a <;> cases b <;> first | rfl | cases index

def Object.definition : Object → Value
  | .string _ => Builtin.string.value
  | .array _ => Builtin.array.value
  | .classDef _ => Builtin.metaclass.value
  | .record definition _ | .exception definition _ => definition

namespace Host

/-- A class is met on the way up from another one. -/
def Descends (host : Host) : Value → Value → Prop :=
  Relation.ReflTransGen fun definition parent => host.superclass? definition = some parent

theorem Descends.cases_head_iff {host : Host} {definition target : Value} :
    host.Descends definition target ↔
      definition = target ∨
        ∃ parent, host.superclass? definition = some parent ∧ host.Descends parent target :=
  Relation.ReflTransGen.cases_head_iff

def climb (host : Host) : Nat → Value → Option Value
  | 0, definition => some definition
  | steps + 1, definition => (host.superclass? definition).bind (host.climb steps)

theorem climb_add (host : Host) (m n : Nat) (definition : Value) :
    host.climb (m + n) definition = (host.climb m definition).bind (host.climb n) := by
  induction m generalizing definition with
  | zero => simp [climb]
  | succ m ih =>
      rw [Nat.succ_add, climb, climb, Option.bind_assoc]
      exact congrArg _ (funext ih)

theorem descends_iff_climb {host : Host} {definition target : Value} :
    host.Descends definition target ↔ ∃ steps, host.climb steps definition = some target := by
  constructor
  · intro descends
    induction descends using Relation.ReflTransGen.head_induction_on with
    | refl => exact ⟨0, rfl⟩
    | head up _ ih =>
        obtain ⟨steps, climbed⟩ := ih
        exact ⟨steps + 1, by rw [climb, up, Option.bind_some, climbed]⟩
  · rintro ⟨steps, climbed⟩
    induction steps generalizing definition with
    | zero =>
        cases climbed
        exact .refl
    | succ steps ih =>
        obtain ⟨parent, up, climbed⟩ := Option.bind_eq_some_iff.mp climbed
        exact .head up (ih climbed)

theorem descendsWithin_iff_climb {host : Host} {target : Value} {steps : Nat}
    {definition : Value} :
    host.descendsWithin target steps definition = true ↔
      ∃ n ≤ steps, host.climb n definition = some target := by
  induction steps generalizing definition with
  | zero => simp [descendsWithin, climb]
  | succ steps ih =>
      rw [descendsWithin]
      by_cases same : definition = target
      · rw [if_pos same]
        exact ⟨fun _ => ⟨0, Nat.zero_le _, congrArg some same⟩, fun _ => rfl⟩
      · have further : (∃ n ≤ steps + 1, host.climb n definition = some target) ↔
            ∃ n ≤ steps, (host.superclass? definition).bind (host.climb n) = some target := by
          constructor
          · rintro ⟨_ | n, le, climbed⟩
            · exact absurd (Option.some.inj climbed) same
            · exact ⟨n, Nat.le_of_succ_le_succ le, climbed⟩
          · rintro ⟨n, le, climbed⟩
            exact ⟨n + 1, Nat.succ_le_succ le, climbed⟩
        rw [if_neg same, further]
        cases host.superclass? definition with
        | none => simp
        | some parent => exact ih

theorem position_of_superclass {host : Host} {definition parent : Value}
    (up : host.superclass? definition = some parent) :
    ∃ position < host.objects.size, definition.bits.toNat = (position + 8) * 8 := by
  obtain ⟨c, found, -⟩ := Option.bind_eq_some_iff.mp up
  rw [ObjectTable.classDef?_eq_some_iff] at found
  obtain ⟨position, bits, stored⟩ := ObjectTable.get?_eq_some_iff.mp found
  exact ⟨position, (Array.getElem?_eq_some_iff.mp stored).1, bits⟩

/-- The shortest way up meets no class twice, so the object table bounds it. -/
theorem exists_climb_le {host : Host} {definition target : Value}
    (descends : host.Descends definition target) :
    ∃ n ≤ host.objects.size, host.climb n definition = some target := by
  classical
  have reached := descends_iff_climb.mp descends
  have climbed := Nat.find_spec reached
  have shortest (n : Nat) (less : n < Nat.find reached) : host.climb n definition ≠ some target :=
    Nat.find_min reached less
  generalize Nat.find reached = n at climbed shortest
  refine ⟨n, ?_, climbed⟩
  have met (i : Fin n) : ∃ position : Fin host.objects.size, ∃ c,
      host.climb i definition = some c ∧ c.bits.toNat = (position + 8) * 8 := by
    have split := host.climb_add i (n - i) definition
    rw [Nat.add_sub_cancel' i.isLt.le, climbed] at split
    obtain ⟨c, here, ahead⟩ := Option.bind_eq_some_iff.mp split.symm
    rw [← Nat.succ_pred_eq_of_pos (Nat.sub_pos_of_lt i.isLt)] at ahead
    obtain ⟨parent, up, -⟩ := Option.bind_eq_some_iff.mp ahead
    obtain ⟨position, inside, bits⟩ := position_of_superclass up
    exact ⟨⟨position, inside⟩, c, here, bits⟩
  choose position c here bits using met
  have apart (i j : Fin n) (less : i < j) : position i ≠ position j := by
    intro same
    have again : c i = c j := by
      refine congrArg Value.mk (UInt64.toNat_inj.mp ?_)
      rw [bits, bits, same]
    -- What lies ahead of the second meeting could have been climbed from the first.
    refine shortest (i + (n - j)) (by omega) ?_
    have ahead := host.climb_add j (n - j) definition
    rw [Nat.add_sub_cancel' j.isLt.le, climbed, here j, ← again] at ahead
    rw [climb_add, here i]
    exact ahead.symm
  have injective : Function.Injective position := by
    intro i j same
    obtain less | equal | greater := lt_trichotomy i j
    · exact absurd same (apart i j less)
    · exact equal
    · exact absurd same.symm (apart j i greater)
  simpa using Fintype.card_le_of_injective position injective

theorem isKindOf_iff {host : Host} {v target : Value} :
    host.isKindOf v target = true ↔ host.Descends (host.classOf v) target := by
  rw [isKindOf, descendsWithin_iff_climb]
  constructor
  · rintro ⟨n, -, climbed⟩
    exact descends_iff_climb.mpr ⟨n, climbed⟩
  · exact exists_climb_le

theorem classOf_of_get? {host : Host} {v : Value} {object : Object}
    (found : host.objects.get? v = some object) :
    host.classOf v = object.definition := by
  obtain ⟨position, bits, -⟩ := ObjectTable.get?_eq_some_iff.mp found
  have notFixnum : v.isFixnum = false := by
    rw [← Bool.not_eq_true, Value.isFixnum_iff]
    omega
  have notSymbol : v.isSymbol = false := ObjectTable.isSymbol_of_get? found
  have other (small : Value) (less : small.bits.toNat < 64) : v ≠ small := by
    rintro rfl
    omega
  rw [classOf, notFixnum, notSymbol, if_neg (other .nil (by decide)),
    if_neg (other .yes (by decide)), if_neg (other .no (by decide)), found]
  cases object <;> rfl

theorem classOf_of_missing {host : Host} {v : Value} (missing : host.objects.get? v = none) :
    ∃ b ∈ [Builtin.integer, .symbol, .nilClass, .trueClass, .falseClass, .object],
      host.classOf v = b.value := by
  rw [classOf, missing]
  split_ifs <;> exact ⟨_, by decide, rfl⟩

theorem isKindOf_of_objects {host after : Host} (same : after.objects = host.objects)
    (v target : Value) : after.isKindOf v target = host.isKindOf v target := by
  have classes : after.classOf v = host.classOf v := by rw [classOf, classOf, same]
  have supers : after.superclass? = host.superclass? := by
    funext definition
    rw [superclass?, superclass?, same]
  rw [Bool.eq_iff_iff, isKindOf_iff, isKindOf_iff, Descends, Descends, classes, supers]

end Host

namespace ObjectTable

def Admits (table : ObjectTable) : Object → Prop
  | .string _ | .array _ => True
  | .classDef c => c.kind = .record → c.superclass = some Builtin.struct.value
  | .record definition _ => ∃ c, table.get? definition = some (.classDef c) ∧ c.kind = .record
  | .exception definition _ => ∃ kind : ErrorKind, definition = kind.value

/-- Record classes are Struct's, records are of record classes, and exceptions are of those classes
that native code can ask for. -/
def Classified (table : ObjectTable) : Prop :=
  ∀ v object, table.get? v = some object → table.Admits object

end ObjectTable

namespace Host

theorem Reachable.classified {host : Host} (reached : host.Reachable) :
    host.objects.Classified := by
  intro v object found
  have sound := reached.sound v object found
  cases object with
  | classDef c => exact ClassDef.Sound.record sound
  | record definition fields =>
      obtain ⟨c, isClass, isRecord, -⟩ := sound
      exact ⟨c, ObjectTable.classDef?_eq_some_iff.mp isClass, isRecord⟩
  | exception => exact sound
  | string | array => trivial

section Reached

variable {host : Host} (reached : host.Reachable)

include reached

theorem superclass?_builtin (b : Builtin) :
    host.superclass? b.value = b.superclass.map Builtin.value := by
  obtain ⟨c, found, -, superclass, -⟩ := reached.builtin b
  rw [superclass?, ObjectTable.classDef?_eq_some_iff.mpr found]
  exact superclass

theorem descends_builtin_iff (b : Builtin) (target : Value) :
    host.Descends b.value target ↔
      b.value = target ∨
        ∃ parent, b.superclass = some parent ∧ host.Descends parent.value target := by
  rw [Descends.cases_head_iff, superclass?_builtin reached]
  simp

theorem descends_standardError_iff (b : Builtin) :
    host.Descends b.value Builtin.standardError.value ↔
      b = .standardError ∨ b.superclass = some .standardError := by
  have here (b : Builtin) : b.value = Builtin.standardError.value ↔ b = .standardError :=
    Builtin.value_injective.eq_iff
  have object : ¬ host.Descends Builtin.object.value Builtin.standardError.value := by
    rw [descends_builtin_iff reached]
    simp [here, Builtin.superclass]
  have exception : ¬ host.Descends Builtin.exception.value Builtin.standardError.value := by
    rw [descends_builtin_iff reached]
    simp [here, Builtin.superclass, object]
  have standardError : host.Descends Builtin.standardError.value Builtin.standardError.value :=
    .refl
  rw [descends_builtin_iff reached, here]
  cases b <;> simp [Builtin.superclass, object, exception, standardError]

theorem descends_errorKind_iff (kind : ErrorKind) :
    host.Descends kind.value Builtin.standardError.value ↔
      kind ≠ .noMemoryError ∧ kind ≠ .fatal := by
  rw [ErrorKind.value, descends_standardError_iff reached]
  cases kind <;> decide

theorem not_descends_of_record {definition : Value} {c : ClassDef}
    (found : host.objects.get? definition = some (.classDef c)) (isRecord : c.kind = .record) :
    ¬ host.Descends definition Builtin.standardError.value := by
  have superclass : host.superclass? definition = some Builtin.struct.value := by
    rw [superclass?, ObjectTable.classDef?_eq_some_iff.mpr found]
    exact reached.classified _ _ found isRecord
  have other : definition ≠ Builtin.standardError.value := by
    rintro rfl
    rw [superclass?_builtin reached] at superclass
    exact absurd superclass (by decide)
  rw [Descends.cases_head_iff, superclass]
  simp [other, descends_standardError_iff reached, Builtin.superclass]

/-- Standard errors are the exceptions of all kinds but two. -/
theorem isKindOf_standardError_iff (v : Value) :
    host.isKindOf v Builtin.standardError.value = true ↔
      ∃ kind, host.exceptionKind? v = some kind ∧ kind ≠ .noMemoryError ∧ kind ≠ .fatal := by
  have builtin (b : Builtin) := descends_standardError_iff reached b
  rw [isKindOf_iff]
  cases found : host.objects.get? v with
  | none =>
      have noKind : host.exceptionKind? v = none := by
        simp [exceptionKind?, ObjectTable.exception?, found]
      obtain ⟨b, member, isClass⟩ := classOf_of_missing found
      rw [isClass, builtin, noKind]
      revert member
      cases b <;> decide
  | some object =>
      have admits := reached.classified v object found
      rw [classOf_of_get? found, exceptionKind?, ObjectTable.exception?, found]
      cases object with
      | record definition fields =>
          obtain ⟨c, isClass, isRecord⟩ := admits
          simpa [Object.definition] using not_descends_of_record reached isClass isRecord
      | exception definition message =>
          obtain ⟨kind, rfl⟩ := admits
          simp [Object.definition, descends_errorKind_iff reached, ErrorKind.ofClass?_value]
      | _ => simp [Object.definition, builtin, Builtin.superclass]

end Reached

end Host

end NativeGate
