import NativeGate.Proofs.Host.Objects

namespace NativeGate

namespace ClassDef

theorem lookup_entry (name other : Bytes) (value : Value) (rest : List (Bytes × Value)) :
    ((name, value) :: rest).lookup other =
      if other = name then some value else rest.lookup other := by
  rw [List.lookup_cons]
  by_cases same : other = name
  · simp [same]
  · simp [same, beq_false_of_ne same]

theorem lookup_bindIn (name other : Bytes) (value : Value) (constants : List (Bytes × Value)) :
    (bindIn name value constants).lookup other =
      if other = name then some value else constants.lookup other := by
  induction constants with
  | nil => exact lookup_entry name other value []
  | cons entry rest ih =>
      obtain ⟨key, old⟩ := entry
      rw [bindIn]
      split
      next taken =>
        subst key
        rw [lookup_entry, lookup_entry]
        split <;> rfl
      next free =>
        rw [lookup_entry, lookup_entry, ih]
        by_cases same : other = name
        · rw [if_pos same, if_pos same, if_neg (same ▸ Ne.symm free)]
        · rw [if_neg same, if_neg same]

theorem constant?_bind (c : ClassDef) (name other : Bytes) (value : Value) :
    (c.bind name value).constant? other = if other = name then some value else c.constant? other :=
  lookup_bindIn name other value c.constants

end ClassDef

namespace ObjectTable

theorem classDef?_add (table : ObjectTable) (added : Object) (v : Value) (c : ClassDef) :
    (table.add added).2.classDef? v = some c ↔
      table.classDef? v = some c ∨
        v.bits.toNat = (table.size + 8) * 8 ∧ added = .classDef c := by
  rw [classDef?_eq_some_iff, get?_add, classDef?_eq_some_iff]

theorem classDef?_add_of_not_class (table : ObjectTable) {added : Object}
    (other : ∀ c, added ≠ .classDef c) (v : Value) :
    (table.add added).2.classDef? v = table.classDef? v := by
  apply Option.ext
  intro c
  rw [classDef?_add, or_iff_left_of_imp]
  rintro ⟨-, isClass⟩
  exact absurd isClass (other c)

theorem classDef?_modifyClass (table : ObjectTable) (v w : Value) (change : ClassDef → ClassDef) :
    (table.modifyClass v change).classDef? w =
      if w = v then (table.classDef? w).map change else table.classDef? w := by
  simp only [classDef?, modifyClass, get?_modify]
  by_cases same : w = v
  · rw [if_pos same, if_pos same]
    cases table.get? w with
    | none => rfl
    | some object => cases object <;> rfl
  · rw [if_neg same, if_neg same]

theorem classDef?_modifyString (table : ObjectTable) (v w : Value)
    (change : ManagedString → ManagedString) :
    (table.modifyString v change).classDef? w = table.classDef? w := by
  simp only [classDef?, modifyString, get?_modify]
  by_cases same : w = v
  · rw [if_pos same]
    cases table.get? w with
    | none => rfl
    | some object => cases object <;> rfl
  · rw [if_neg same]

end ObjectTable

namespace Host

/-- No class is new, and none has other constants than before. -/
def SameClasses (host after : Host) : Prop :=
  ∀ v, after.objects.classDef? v = host.objects.classDef? v

namespace SameClasses

theorem refl (host : Host) : host.SameClasses host :=
  fun _ => rfl

theorem trans {first second third : Host} (left : first.SameClasses second)
    (right : second.SameClasses third) : first.SameClasses third :=
  fun v => (right v).trans (left v)

theorem constant? {host after : Host} (same : host.SameClasses after) (scope : Value)
    (name : Bytes) : after.constant? scope name = host.constant? scope name := by
  rw [Host.constant?, same, Host.constant?]

end SameClasses

theorem create_sameClasses (host : Host) {object : Object} (other : ∀ c, object ≠ .classDef c) :
    host.SameClasses (host.create object).2 :=
  host.objects.classDef?_add_of_not_class other

theorem newString_sameClasses (host : Host) (bytes : Bytes) (encoding : Encoding) :
    host.SameClasses (host.newString bytes encoding).2 :=
  host.create_sameClasses nofun

theorem newException_sameClasses (host : Host) (kind : ErrorKind) (message : Bytes) :
    host.SameClasses (host.newException kind message).2 := by
  unfold newException
  split
  · exact .refl host
  · exact host.create_sameClasses nofun

theorem complain_sameClasses {α : Type} (host : Host) (complaint : Complaint) :
    host.SameClasses (host.complain (α := α) complaint).2 := by
  cases complaint with
  | raise kind message => exact host.newException_sameClasses kind message
  | outOfMemory => exact .refl host
  | endless => exact .refl host

theorem readString_sameClasses (host : Host) (string : Value) :
    host.SameClasses (host.readString string).2 := by
  unfold readString
  split
  · exact .refl host
  · exact host.complain_sameClasses _

theorem append_sameClasses (host : Host) (string : Value) (more : Bytes) :
    host.SameClasses (host.append string more).2 := by
  unfold append
  split
  · split
    · exact .refl host
    · exact fun v => host.objects.classDef?_modifyString string v _
  · exact .refl host

theorem carryOut_sameClasses {host : Host} {effect : Effect} (justified : effect.Justified host)
    (other : ∀ definition binding, effect ≠ .define definition binding) :
    host.SameClasses (host.carryOut effect).2 := by
  cases justified with
  | define binding made => exact absurd rfl (other _ binding)
  | nameString found fresh => exact host.create_sameClasses nofun
  | string bytes encoding => exact host.create_sameClasses nofun
  | array elements => exact host.create_sameClasses nofun
  | record found kind length => exact host.create_sameClasses nofun
  | freeze string => exact fun v => host.objects.classDef?_modifyString string v _
  | classify string => exact fun v => host.objects.classDef?_modifyString string v _
  | _ => exact .refl host

theorem constant?_create {host : Host} {definition : ClassDef} (bare : definition.constants = [])
    (scope : Value) (name : Bytes) :
    (host.create (.classDef definition)).2.constant? scope name = host.constant? scope name := by
  apply Option.ext
  intro bound
  rw [constant?, constant?, Option.bind_eq_some_iff, Option.bind_eq_some_iff]
  constructor
  · rintro ⟨c, found, has⟩
    obtain old | ⟨-, same⟩ := (ObjectTable.classDef?_add ..).mp found
    · exact ⟨c, old, has⟩
    · cases same
      rw [ClassDef.constant?, bare] at has
      cases has
  · rintro ⟨c, found, has⟩
    exact ⟨c, (ObjectTable.classDef?_add ..).mpr (.inl found), has⟩

theorem constant?_defineClassDef {host : Host} {definition : ClassDef}
    (bare : definition.constants = []) {binding : Option (Value × Bytes)}
    (isClass : ∀ scope name, binding = some (scope, name) →
      (host.objects.classDef? scope).isSome)
    (scope : Value) (name : Bytes) :
    (host.defineClassDef definition binding).2.constant? scope name =
      if binding = some (scope, name) then some (host.defineClassDef definition binding).1
      else host.constant? scope name := by
  cases binding with
  | none => exact constant?_create bare scope name
  | some key =>
      obtain ⟨space, bound⟩ := key
      let created := host.create (.classDef definition)
      have others : created.2.constant? scope name = host.constant? scope name :=
        constant?_create bare scope name
      change Option.bind
        ((created.2.objects.modifyClass space (·.bind bound created.1)).classDef? scope)
        (·.constant? name) = if some (space, bound) = some (scope, name) then some created.1 else _
      rw [ObjectTable.classDef?_modifyClass]
      by_cases same : scope = space
      · subst same
        obtain ⟨old, found⟩ := Option.isSome_iff_exists.mp (isClass scope bound rfl)
        have kept : created.2.objects.classDef? scope = some old :=
          (ObjectTable.classDef?_add ..).mpr (.inl found)
        rw [constant?, kept, Option.bind_some] at others
        rw [if_pos rfl, kept, Option.map_some, Option.bind_some, ClassDef.constant?_bind, others]
        simp [eq_comm]
      · rw [if_neg same, if_neg (by simp [Ne.symm same])]
        exact others

open Planned

def target? (host : Host) (op : Operation) (args : List Value) : Option (Value × Bytes) :=
  match op, args with
  | .structDefine, name :: _ =>
      (host.objects.string? name).map fun s => (Builtin.struct.value, Utf8.lossy s.bytes)
  | .structDefineUnder, scope :: name :: _ =>
      (host.objects.string? name).map fun s => (scope, Utf8.lossy s.bytes)
  | _, _ => none

theorem string?_nil (host : Host) : host.objects.string? .nil = none := rfl

theorem argument_eq_ok {op : Operation} {args : List Value} {i : Nat} {v : Value} :
    argument op args i = .ok v ↔ args[i]? = some v := by
  unfold argument
  split
  next found => rw [found, Option.some_inj, Except.ok.injEq]
  next missing => simp [missing]

theorem args_of_first {args : List Value} {v : Value} (first : args[0]? = some v) :
    ∃ rest, args = v :: rest := by
  cases args with
  | nil => cases first
  | cons w rest => exact ⟨rest, congrArg (· :: rest) (Option.some.inj first)⟩

theorem args_of_second {args : List Value} {v w : Value} (first : args[0]? = some v)
    (second : args[1]? = some w) : ∃ rest, args = v :: w :: rest := by
  obtain ⟨others, rfl⟩ := args_of_first first
  rw [List.getElem?_cons_succ] at second
  obtain ⟨rest, rfl⟩ := args_of_first second
  exact ⟨rest, rfl⟩

theorem asString_eq_ok {host : Host} {v : Value} {s : ManagedString} :
    host.asString v = .ok s ↔ host.objects.string? v = some s := by
  unfold asString
  split <;> simp_all

theorem defineStruct_defines {host : Host} {scope : Value} {name : Option Bytes} {members : Value}
    {effect : Effect} (planned : host.defineStruct scope name members = .ok effect) :
    ∃ definition, definition.constants = [] ∧
      effect = .define definition (name.map fun name => (scope, Utf8.lossy name)) := by
  obtain ⟨ids, -, planned⟩ := bind_eq_ok.mp planned
  split at planned
  next =>
    cases planned
    exact ⟨_, rfl, rfl⟩
  next =>
    split at planned
    next =>
      cases planned
      exact ⟨_, rfl, rfl⟩
    next => simp at planned

section Plans

variable {host : Host} {args : List Value} {effect : Effect}

theorem plan_structDefine (planned : host.plan .structDefine args = .ok effect) :
    ∃ definition, definition.constants = [] ∧
      effect = .define definition (host.target? .structDefine args) ∧
      ∀ scope name, host.target? .structDefine args = some (scope, name) →
        scope = Builtin.struct.value := by
  simp only [plan, bind_eq_ok, argument_eq_ok] at planned
  obtain ⟨nameWord, first, members, -, planned⟩ := planned
  obtain ⟨rest, rfl⟩ := args_of_first first
  split at planned
  next unnamed =>
    subst unnamed
    obtain ⟨definition, bare, rfl⟩ := defineStruct_defines planned
    exact ⟨definition, bare, rfl, fun _ _ same => absurd same.symm (Option.some_ne_none _)⟩
  next =>
    obtain ⟨s, named, planned⟩ := bind_eq_ok.mp planned
    obtain ⟨definition, bare, rfl⟩ := defineStruct_defines planned
    have target : host.target? .structDefine (nameWord :: rest) =
        some (Builtin.struct.value, Utf8.lossy s.bytes) := by
      rw [target?, asString_eq_ok.mp named, Option.map_some]
    rw [target]
    exact ⟨definition, bare, rfl, fun _ _ same => (Prod.mk.inj (Option.some.inj same)).1.symm⟩

theorem plan_structDefineUnder (planned : host.plan .structDefineUnder args = .ok effect) :
    ∃ definition, definition.constants = [] ∧
      effect = .define definition (host.target? .structDefineUnder args) ∧
      ∀ scope name, host.target? .structDefineUnder args = some (scope, name) →
        (host.objects.classDef? scope).isSome := by
  simp only [plan, stringArgument, bind_eq_ok, argument_eq_ok, asString_eq_ok] at planned
  obtain ⟨scope, first, s, ⟨nameWord, second, named⟩, members, -, planned⟩ := planned
  obtain ⟨rest, rfl⟩ := args_of_second first second
  split at planned
  next isClass =>
    obtain ⟨definition, bare, rfl⟩ := defineStruct_defines planned
    have target : host.target? .structDefineUnder (scope :: nameWord :: rest) =
        some (scope, Utf8.lossy s.bytes) := by
      rw [target?, named, Option.map_some]
    rw [target]
    refine ⟨definition, bare, rfl, fun _ _ same => ?_⟩
    rw [← (Prod.mk.inj (Option.some.inj same)).1]
    exact isClass
  next => simp at planned

theorem plan_dataDefine (planned : host.plan .dataDefine args = .ok effect) :
    ∃ definition, definition.constants = [] ∧ effect = .define definition none := by
  simp only [plan, defineData, bind_eq_ok, pure_eq_ok] at planned
  obtain ⟨superclass, -, members, -, inherited, -, own, -, all, -, rfl⟩ := planned
  exact ⟨_, rfl, rfl⟩

theorem plan_defines {op : Operation} (planned : host.plan op args = .ok effect) :
    (∃ definition, definition.constants = [] ∧
      effect = .define definition (host.target? op args) ∧
      ∀ scope name, host.target? op args = some (scope, name) →
        scope = Builtin.struct.value ∨ (host.objects.classDef? scope).isSome) ∨
    host.target? op args = none ∧ ∀ definition binding, effect ≠ .define definition binding := by
  cases op
  case structDefine =>
      obtain ⟨definition, bare, rfl, space⟩ := plan_structDefine planned
      exact .inl ⟨definition, bare, rfl, fun scope name target => .inl (space scope name target)⟩
  case structDefineUnder =>
      obtain ⟨definition, bare, rfl, space⟩ := plan_structDefineUnder planned
      exact .inl ⟨definition, bare, rfl, fun scope name target => .inr (space scope name target)⟩
  case dataDefine =>
      obtain ⟨definition, bare, rfl⟩ := plan_dataDefine planned
      exact .inl ⟨definition, bare, rfl, nofun⟩
  -- All other operations show their effect.
  all_goals
    refine .inr ⟨rfl, ?_⟩
    rintro definition binding rfl
    simp only [plan, bind_eq_ok, pure_eq_ok] at planned
    grind [nameString, pure_eq_ok, typeError_ne_ok, argumentError_ne_ok, complainOf_ne_ok]

end Plans

theorem Reachable.isClass {host : Host} (reached : host.Reachable) (b : Builtin) :
    (host.objects.classDef? b.value).isSome := by
  obtain ⟨c, found, -⟩ := reached.builtin b
  rw [ObjectTable.classDef?_eq_some_iff.mpr found]
  rfl

def definedBy? (host : Host) (name : String) (args : List Value) :
    Option ((Value × Bytes) × Value) :=
  (Operation.ofName? name).bind fun op =>
    match (host.invoke name args).1 with
    | .value definition => (host.target? op args).map fun key => (key, definition)
    | _ => none

/-- The constant an action defines and the class bound to it, if the action succeeds. -/
def defined? (host : Host) : Action → Option ((Value × Bytes) × Value)
  | .invoke name args => host.definedBy? name args
  | .invokePredicate name args => host.definedBy? name args
  | .defineClass name superclass =>
      some ((Builtin.object.value, name), (host.defineClass name superclass).1)
  | _ => none

/-- The last one first. -/
def definitions (host : Host) : List Action → List ((Value × Bytes) × Value)
  | [] => []
  | action :: rest => (host.act action).definitions rest ++ (host.defined? action).toList

/-- A definition sets its own constant and no other. -/
def Sets (host : Host) (defined : Option ((Value × Bytes) × Value)) (after : Host) : Prop :=
  ∀ scope name,
    after.constant? scope name =
      (defined.toList.lookup (scope, name)).or (host.constant? scope name)

theorem SameClasses.sets {host after : Host} (same : host.SameClasses after) :
    host.Sets none after :=
  fun scope name => same.constant? scope name

theorem defineClassDef_sets {host : Host} {definition : ClassDef}
    (bare : definition.constants = []) {binding : Option (Value × Bytes)}
    (isClass : ∀ scope name, binding = some (scope, name) →
      (host.objects.classDef? scope).isSome) :
    host.Sets (binding.map fun key => (key, (host.defineClassDef definition binding).1))
      (host.defineClassDef definition binding).2 := by
  intro scope name
  rw [constant?_defineClassDef bare isClass]
  cases binding with
  | none => rfl
  | some key =>
      by_cases same : key = (scope, name)
      · subst same
        simp
      · have missed : ((scope, name) == key) = false := beq_false_of_ne (Ne.symm same)
        simp [same, List.lookup_cons, missed]

section Acts

variable {host : Host}

theorem perform_sets (structs : (host.objects.classDef? Builtin.struct.value).isSome)
    (op : Operation) (args : List Value) :
    host.Sets
      (match (host.perform op args).1 with
      | .value definition => (host.target? op args).map fun key => (key, definition)
      | _ => none)
      (host.perform op args).2 := by
  unfold perform
  cases planned : host.plan op args with
  | error complaint =>
      have same := (host.complain_sameClasses (α := Value) complaint).sets
      cases complaint <;> exact same
  | ok effect =>
      obtain ⟨definition, bare, rfl, space⟩ | ⟨untargeted, other⟩ := plan_defines planned
      · apply defineClassDef_sets bare
        intro scope name target
        obtain rfl | isClass := space scope name target
        · exact structs
        · exact isClass
      · dsimp only
        rw [untargeted]
        exact (carryOut_sameClasses (plan_justified planned) other).sets

theorem invoke_sets (structs : (host.objects.classDef? Builtin.struct.value).isSome)
    (name : String) (args : List Value) :
    host.Sets (host.definedBy? name args) (host.invoke name args).2 := by
  unfold definedBy? invoke
  cases Operation.ofName? name with
  | none => exact (complain_sameClasses (host.note name) _).sets
  | some op =>
      rw [Option.bind_some]
      exact @perform_sets (host.note name) structs op args

theorem definedBy?_of_query {name : String} {query : Query}
    (named : Operation.ofName? name = some (.ask query)) (args : List Value) :
    host.definedBy? name args = none := by
  rw [definedBy?, named, Option.bind_some]
  split <;> rfl

theorem invokePredicate_sets (structs : (host.objects.classDef? Builtin.struct.value).isSome)
    (name : String) (args : List Value) :
    host.Sets (host.definedBy? name args) (host.invokePredicate name args).2 := by
  cases named : Operation.ofName? name with
  | none =>
      rw [invokePredicate, definedBy?, named]
      exact (complain_sameClasses (host.note name) _).sets
  | some op =>
      cases op with
      | ask query =>
          rw [definedBy?_of_query named, invokePredicate, named]
          dsimp only
          split
          · exact (SameClasses.refl host).sets
          · exact (complain_sameClasses (host.note name) _).sets
      | _ =>
          have invoked := invoke_sets structs name args
          rw [invoke, named] at invoked
          rw [invokePredicate, named]
          exact invoked

theorem act_sets (reached : host.Reachable) (action : Action) :
    host.Sets (host.defined? action) (host.act action) := by
  cases action with
  | invoke name args => exact invoke_sets (reached.isClass .struct) name args
  | invokePredicate name args => exact invokePredicate_sets (reached.isClass .struct) name args
  | defineClass name superclass =>
      apply defineClassDef_sets rfl
      intro scope name' same
      rw [← (Prod.mk.inj (Option.some.inj same)).1]
      exact reached.isClass .object
  | yield found =>
      cases found with
      | true => exact (SameClasses.refl host).sets
      | false => exact (newException_sameClasses (host.note yieldName) _ _).sets
  | newString bytes encoding => exact (host.newString_sameClasses bytes encoding).sets
  | newException kind message => exact (host.newException_sameClasses kind message).sets
  | readString string => exact (host.readString_sameClasses string).sets
  | append string more => exact (host.append_sameClasses string more).sets
  | setVerbose v => exact (SameClasses.refl host).sets
  | setCategory category on => exact (SameClasses.refl host).sets
  | clearLog => exact (SameClasses.refl host).sets

theorem constant?_actAll (reached : host.Reachable) (actions : List Action) (scope : Value)
    (name : Bytes) :
    (host.actAll actions).constant? scope name =
      ((host.definitions actions).lookup (scope, name)).or (host.constant? scope name) := by
  induction actions generalizing host with
  | nil => rfl
  | cons action rest ih =>
      have later := ih (reached.leads (host.leads_act action))
      rw [actAll_cons, later, act_sets reached action, definitions, List.lookup_append,
        Option.or_assoc]

end Acts

theorem new_constant? (scope : Value) (name : Bytes) : new.constant? scope name = none := by
  rw [constant?, Option.bind_eq_none_iff]
  intro c found
  obtain ⟨b, same⟩ | other := new_get?_cases (ObjectTable.classDef?_eq_some_iff.mp found)
  · cases same
    rfl
  · cases other

theorem constants_of_run (actions : List Action) (scope : Value) (name : Bytes) :
    (new.actAll actions).constant? scope name = (new.definitions actions).lookup (scope, name) := by
  rw [constant?_actAll (.refl new), new_constant?, Option.or_none]

end Host

end NativeGate
