import NativeGate.Proofs.Host.Constants
import NativeGate.Proofs.Host.Records

namespace NativeGate

def Planned.Refuses {α : Type} (planned : Planned α) : Prop :=
  ∃ kind message, planned = .error (.raise kind message)

theorem Planned.Refuses.bind {α β : Type} {first : Planned α} (refuses : first.Refuses)
    (next : α → Planned β) : Refuses (first >>= next) := by
  obtain ⟨kind, message, rfl⟩ := refuses
  exact ⟨kind, message, rfl⟩

namespace Host

open Planned

variable {host : Host}

/-- IDs that differ from each other and from known ones. -/
def Unused (known ids : List Id) : Prop :=
  ids.Nodup ∧ ∀ id ∈ ids, id ∉ known

theorem unused_cons {known : List Id} {id : Id} {rest : List Id} :
    Unused known (id :: rest) ↔ id ∉ known ∧ Unused (known ++ [id]) rest := by
  simp only [Unused, List.nodup_cons, List.forall_mem_cons, List.mem_append, List.mem_singleton,
    not_or]
  grind

theorem unused_nil {ids : List Id} : Unused [] ids ↔ ids.Nodup := by
  simp [Unused]

theorem distinctMembers_of_unused {ids : List Id}
    (symbols : ∀ id ∈ ids, host.symbolId? (.symbol id) = some id) {known : List Id}
    (unused : Unused known ids) :
    host.distinctMembers known (ids.map .symbol) = .ok (known ++ ids) := by
  induction ids generalizing known with
  | nil => simp [distinctMembers]
  | cons id rest ih =>
      obtain ⟨isSymbol, others⟩ := List.forall_mem_cons.mp symbols
      obtain ⟨new, unused⟩ := unused_cons.mp unused
      have read := asSymbol_eq_ok.mpr isSymbol
      have rest := ih others unused
      rw [List.append_assoc] at rest
      simp only [List.map_cons, distinctMembers, read]
      exact (if_neg new).trans rest

theorem distinctMembers_of_used {ids : List Id}
    (symbols : ∀ id ∈ ids, host.symbolId? (.symbol id) = some id) {known : List Id}
    (used : ¬ Unused known ids) :
    ∃ id, host.distinctMembers known (ids.map .symbol) = host.duplicateMember id := by
  induction ids generalizing known with
  | nil => exact absurd ⟨List.nodup_nil, nofun⟩ used
  | cons id rest ih =>
      obtain ⟨isSymbol, others⟩ := List.forall_mem_cons.mp symbols
      have read := asSymbol_eq_ok.mpr isSymbol
      simp only [List.map_cons, distinctMembers, read]
      by_cases old : id ∈ known
      · exact ⟨id, if_pos old⟩
      · obtain ⟨other, refused⟩ := ih others fun unused => used (unused_cons.mpr ⟨old, unused⟩)
        exact ⟨other, (if_neg old).trans refused⟩

theorem extendMembers_of_unused {inherited own : List Id} (unused : Unused inherited own) :
    host.extendMembers inherited own = .ok (inherited ++ own) := by
  induction own generalizing inherited with
  | nil => simp [extendMembers]
  | cons id rest ih =>
      obtain ⟨new, unused⟩ := unused_cons.mp unused
      rw [extendMembers, if_neg new, ih unused, List.append_assoc]
      rfl

theorem extendMembers_of_used {inherited own : List Id} (used : ¬ Unused inherited own) :
    ∃ id, host.extendMembers inherited own = host.duplicateMember id := by
  induction own generalizing inherited with
  | nil => exact absurd ⟨List.nodup_nil, nofun⟩ used
  | cons id rest ih =>
      rw [extendMembers]
      by_cases old : id ∈ inherited
      · exact ⟨id, if_pos old⟩
      · obtain ⟨other, refused⟩ := ih fun unused => used (unused_cons.mpr ⟨old, unused⟩)
        exact ⟨other, (if_neg old).trans refused⟩

theorem duplicateMember_refuses {α : Type} (id : Id) :
    (host.duplicateMember id : Planned α).Refuses :=
  ⟨_, _, rfl⟩

section Listed

variable {members : Value} {ids : List Id}
  (listed : host.objects.array? members = some (ids.map .symbol))
  (symbols : ∀ id ∈ ids, host.symbolId? (.symbol id) = some id)

include listed symbols

theorem memberIds_of_nodup (nodup : ids.Nodup) : host.memberIds members = .ok ids := by
  rw [memberIds, listed]
  exact distinctMembers_of_unused symbols (unused_nil.mpr nodup)

theorem memberIds_refuses (duplicate : ¬ ids.Nodup) : (host.memberIds members).Refuses := by
  obtain ⟨id, refused⟩ := distinctMembers_of_used symbols (mt unused_nil.mp duplicate)
  rw [memberIds, listed]
  dsimp only
  rw [refused]
  exact duplicateMember_refuses id

theorem defineStruct_anonymous (nodup : ids.Nodup) (scope : Value) :
    ∃ c : ClassDef, c.constants = [] ∧ c.members = ids ∧
      host.defineStruct scope none members = .ok (.define c none) := by
  rw [defineStruct, memberIds_of_nodup listed symbols nodup]
  exact ⟨_, rfl, rfl, rfl⟩

theorem defineStruct_named (nodup : ids.Nodup) (scope : Value) {name : Bytes}
    (isConstant : SymbolName.isConstant name = true) :
    ∃ c : ClassDef, c.constants = [] ∧ c.members = ids ∧
      host.defineStruct scope (some name) members =
        .ok (.define c (some (scope, Utf8.lossy name))) := by
  rw [defineStruct, memberIds_of_nodup listed symbols nodup]
  exact ⟨_, rfl, rfl, if_pos isConstant⟩

theorem defineStruct_refuses (scope : Value) (name : Option Bytes)
    (refused : ¬ (ids.Nodup ∧ ∀ given ∈ name, SymbolName.isConstant given = true)) :
    (host.defineStruct scope name members).Refuses := by
  rw [defineStruct]
  by_cases nodup : ids.Nodup
  · rw [memberIds_of_nodup listed symbols nodup]
    cases name with
    | none => simp [nodup] at refused
    | some name =>
        have other : ¬ SymbolName.isConstant name = true := by simpa [nodup] using refused
        exact ⟨_, _, if_neg other⟩
  · exact (memberIds_refuses listed symbols nodup).bind _

end Listed

end Host

inductive Definition
  | struct (name : Option Bytes)
  | structUnder (scope : Value) (name : Bytes)
  | data (superclass : Value)

namespace Definition

open Host Planned

def operation : Definition → Operation
  | .struct _ => .structDefine
  | .structUnder .. => .structDefineUnder
  | .data _ => .dataDefine

def binding : Definition → Option (Value × Bytes)
  | .struct name => name.map fun name => (Builtin.struct.value, Utf8.lossy name)
  | .structUnder scope name => some (scope, Utf8.lossy name)
  | .data _ => none

/-- Nil stands for Data. -/
def parent (superclass : Value) : Value :=
  if superclass = .nil then Builtin.data.value else superclass

def inherited (host : Host) : Definition → List Id
  | .struct _ | .structUnder .. => []
  | .data superclass => ((host.objects.classDef? (parent superclass)).map (·.members)).getD []

/-- What is asked of a definition apart from its members. -/
def Permitted (host : Host) : Definition → Prop
  | .struct name => ∀ given ∈ name, SymbolName.isConstant given = true
  | .structUnder scope name =>
      (host.objects.classDef? scope).isSome ∧ SymbolName.isConstant name = true
  | .data superclass => ∃ base, host.objects.classDef? (parent superclass) = some base ∧
      (parent superclass = Builtin.data.value ∨ base.kind = .data)

/-- What the operation is passed: the name in a string, and the members in an array. -/
inductive Passed (host : Host) (ids : List Id) : Definition → List Value → Prop
  | anonymous {members : Value}
      (listed : host.objects.array? members = some (ids.map .symbol)) :
      Passed host ids (.struct none) [.nil, members]
  | named {word members : Value} {s : ManagedString}
      (spelled : host.objects.string? word = some s)
      (listed : host.objects.array? members = some (ids.map .symbol)) :
      Passed host ids (.struct (some s.bytes)) [word, members]
  | under (scope : Value) {word members : Value} {s : ManagedString}
      (spelled : host.objects.string? word = some s)
      (listed : host.objects.array? members = some (ids.map .symbol)) :
      Passed host ids (.structUnder scope s.bytes) [scope, word, members]
  | data (superclass : Value) {members : Value}
      (listed : host.objects.array? members = some (ids.map .symbol)) :
      Passed host ids (.data superclass) [superclass, members]

section Plans

variable {host : Host}

theorem plan_struct_named {word : Value} {s : ManagedString}
    (spelled : host.objects.string? word = some s) (members : Value) :
    host.plan .structDefine [word, members] =
      host.defineStruct Builtin.struct.value (some s.bytes) members := by
  have notNil : word ≠ .nil := by
    rintro rfl
    rw [string?_nil] at spelled
    cases spelled
  change (if word = .nil then _ else (host.asString word >>= fun name => _)) = _
  rw [if_neg notNil, asString_eq_ok.mpr spelled]
  rfl

theorem plan_structUnder {word : Value} {s : ManagedString}
    (spelled : host.objects.string? word = some s) (scope members : Value) :
    host.plan .structDefineUnder [scope, word, members] =
      if (host.objects.classDef? scope).isSome then
        host.defineStruct scope (some s.bytes) members
      else typeError (octets "namespace is not a class") := by
  change (host.asString word >>= fun name => _) = _
  rw [asString_eq_ok.mpr spelled]
  rfl

theorem plan_data (superclass members : Value) :
    host.plan .dataDefine [superclass, members] = (do
      let inherited ← host.inheritedMembers (parent superclass)
      let members ← host.extendMembers inherited (← host.memberIds members)
      return .define
        { name := none, superclass := some (parent superclass), kind := .data, members } none) := by
  rw [plan]
  rfl

theorem inheritedMembers_of_permitted {superclass : Value}
    (permitted : (Definition.data superclass).Permitted host) :
    host.inheritedMembers (parent superclass) =
      .ok ((Definition.data superclass).inherited host) := by
  obtain ⟨base, found, extensible⟩ := permitted
  rw [inheritedMembers, inherited, found]
  exact if_pos extensible

theorem inheritedMembers_refuses {superclass : Value}
    (refused : ¬ (Definition.data superclass).Permitted host) :
    (host.inheritedMembers (parent superclass)).Refuses := by
  unfold inheritedMembers
  split
  next base found =>
    rw [if_neg fun extensible => refused ⟨base, found, extensible⟩]
    exact ⟨_, _, rfl⟩
  next => exact ⟨_, _, rfl⟩

variable {ids : List Id} {definition : Definition} {args : List Value}
  (passed : Passed host ids definition args)
  (symbols : ∀ id ∈ ids, host.symbolId? (.symbol id) = some id)

include passed symbols

theorem Passed.plan_of_permitted (permitted : definition.Permitted host)
    (unused : Unused (definition.inherited host) ids) :
    ∃ c : ClassDef, c.constants = [] ∧ c.members = definition.inherited host ++ ids ∧
      host.plan definition.operation args = .ok (.define c definition.binding) := by
  cases passed with
  | anonymous listed => exact defineStruct_anonymous listed symbols unused.1 Builtin.struct.value
  | named spelled listed =>
      rw [operation, plan_struct_named spelled]
      exact defineStruct_named listed symbols unused.1 Builtin.struct.value (permitted _ rfl)
  | under scope spelled listed =>
      rw [operation, plan_structUnder spelled, if_pos permitted.1]
      exact defineStruct_named listed symbols unused.1 scope permitted.2
  | data superclass listed =>
      rw [operation, plan_data, inheritedMembers_of_permitted permitted,
        memberIds_of_nodup listed symbols unused.1]
      let members := (Definition.data superclass).inherited host ++ ids
      refine ⟨{ name := none, superclass := some (parent superclass), kind := .data, members },
        rfl, rfl, ?_⟩
      change (host.extendMembers _ ids >>= fun members => _) = _
      rw [extendMembers_of_unused unused]
      rfl

theorem Passed.plan_refuses
    (refused : ¬ (definition.Permitted host ∧ Unused (definition.inherited host) ids)) :
    (host.plan definition.operation args).Refuses := by
  cases passed with
  | anonymous listed =>
      refine defineStruct_refuses listed symbols Builtin.struct.value none ?_
      rintro ⟨nodup, permitted⟩
      exact refused ⟨permitted, unused_nil.mpr nodup⟩
  | named spelled listed =>
      rw [operation, plan_struct_named spelled]
      refine defineStruct_refuses listed symbols Builtin.struct.value _ ?_
      rintro ⟨nodup, permitted⟩
      exact refused ⟨permitted, unused_nil.mpr nodup⟩
  | @under scope word members s spelled listed =>
      rw [operation, plan_structUnder spelled]
      split
      next isClass =>
        refine defineStruct_refuses listed symbols scope _ ?_
        rintro ⟨nodup, isConstant⟩
        exact refused ⟨⟨isClass, isConstant _ rfl⟩, unused_nil.mpr nodup⟩
      next => exact ⟨_, _, rfl⟩
  | data superclass listed =>
      rw [operation, plan_data]
      by_cases permitted : (Definition.data superclass).Permitted host
      · rw [inheritedMembers_of_permitted permitted]
        by_cases nodup : ids.Nodup
        · have used : ¬ Unused ((Definition.data superclass).inherited host) ids :=
            fun unused => refused ⟨permitted, unused⟩
          obtain ⟨id, used⟩ := @extendMembers_of_used host _ _ used
          rw [memberIds_of_nodup listed symbols nodup]
          change Refuses (host.extendMembers _ ids >>= fun members => _)
          rw [used]
          exact (duplicateMember_refuses id).bind _
        · exact (memberIds_refuses listed symbols nodup).bind _
      · exact (inheritedMembers_refuses permitted).bind _

end Plans

theorem inherited_of_sameClasses {host after : Host} (same : host.SameClasses after)
    (definition : Definition) : definition.inherited after = definition.inherited host := by
  cases definition with
  | data superclass => rw [inherited, inherited, same]
  | _ => rfl

theorem permitted_of_sameClasses {host after : Host} (same : host.SameClasses after)
    {definition : Definition} : definition.Permitted after ↔ definition.Permitted host := by
  cases definition with
  | struct name => exact Iff.rfl
  | structUnder scope name => rw [Permitted, Permitted, same]
  | data superclass => rw [Permitted, Permitted, same]

theorem Permitted.isClass {host : Host} (reached : host.Reachable) {definition : Definition}
    (permitted : definition.Permitted host) {scope : Value} {name : Bytes}
    (binding : definition.binding = some (scope, name)) :
    (host.objects.classDef? scope).isSome := by
  cases definition with
  | struct given =>
      obtain ⟨_, -, same⟩ := Option.map_eq_some_iff.mp binding
      rw [← (Prod.mk.inj same).1]
      exact reached.isClass .struct
  | structUnder space given =>
      rw [← (Prod.mk.inj (Option.some.inj binding)).1]
      exact permitted.1
  | data superclass => cases binding

end Definition

namespace Host

/-- One class is new, with these members and under this constant.  No other class has got other
members, and no other constant has changed. -/
structure Defines (host : Host) (members : List Id) (binding : Option (Value × Bytes))
    (handle : Value) (after : Host) : Prop where
  fresh : host.objects.get? handle = none
  made : (after.objects.classDef? handle).map (·.members) = some members
  others : ∀ v ≠ handle,
    (after.objects.classDef? v).map (·.members) = (host.objects.classDef? v).map (·.members)
  constants : ∀ scope name,
    after.constant? scope name =
      if binding = some (scope, name) then some handle else host.constant? scope name

theorem defineClassDef_members (host : Host) (definition : ClassDef)
    (binding : Option (Value × Bytes)) (v : Value) :
    ((host.defineClassDef definition binding).2.objects.classDef? v).map (·.members) =
      ((host.create (.classDef definition)).2.objects.classDef? v).map (·.members) := by
  cases binding with
  | none => rfl
  | some key =>
      obtain ⟨scope, name⟩ := key
      let created := host.create (.classDef definition)
      change ((created.2.objects.modifyClass scope (·.bind name created.1)).classDef? v).map _ = _
      rw [ObjectTable.classDef?_modifyClass]
      split
      · rw [Option.map_map]
        rfl
      · rfl

theorem defineClassDef_handle (host : Host) (definition : ClassDef)
    (binding : Option (Value × Bytes)) :
    (host.defineClassDef definition binding).1 = (host.create (.classDef definition)).1 := by
  cases binding <;> rfl

theorem defineClassDef_defines {host : Host} (room : host.objects.size < ObjectTable.capacity)
    {definition : ClassDef} (bare : definition.constants = []) {binding : Option (Value × Bytes)}
    (isClass : ∀ scope name, binding = some (scope, name) →
      (host.objects.classDef? scope).isSome) :
    host.Defines definition.members binding (host.defineClassDef definition binding).1
      (host.defineClassDef definition binding).2 where
  fresh := by
    rw [defineClassDef_handle]
    exact ObjectTable.get?_add_fresh room (.classDef definition)
  made := by
    have stored : (host.create (.classDef definition)).2.objects.classDef?
        (host.create (.classDef definition)).1 = some definition :=
      ObjectTable.classDef?_eq_some_iff.mpr (ObjectTable.get?_add_self room _)
    rw [defineClassDef_members, defineClassDef_handle, stored, Option.map_some]
  others := by
    intro v other
    rw [defineClassDef_handle] at other
    rw [defineClassDef_members]
    refine congrArg (Option.map _) (Option.ext fun c => ?_)
    refine (ObjectTable.classDef?_add ..).trans (or_iff_left_of_imp ?_)
    rintro ⟨bits, -⟩
    have newest : (host.create (.classDef definition)).1.bits.toNat =
        (host.objects.size + 8) * 8 := Value.toNat_bits_handle room
    exact absurd (congrArg Value.mk (UInt64.toNat_inj.mp (bits.trans newest.symm))) other
  constants := constant?_defineClassDef bare isClass

theorem Leads.get?_eq_none {host later : Host} (leads : host.Leads later) {v : Value}
    (fresh : later.objects.get? v = none) : host.objects.get? v = none := by
  rw [Option.eq_none_iff_forall_ne_some]
  intro object found
  obtain ⟨_, _, kept, -⟩ := leads.becomes found
  rw [fresh] at kept
  cases kept

theorem SameClasses.defines {host middle after : Host} (same : host.SameClasses middle)
    {members : List Id} {binding : Option (Value × Bytes)} {handle : Value}
    (fresh : middle.objects.get? handle = none → host.objects.get? handle = none)
    (defines : middle.Defines members binding handle after) :
    host.Defines members binding handle after where
  fresh := fresh defines.fresh
  made := defines.made
  others v other := (defines.others v other).trans (congrArg (Option.map _) (same v))
  constants scope name := by rw [defines.constants, same.constant?]

theorem invoke_of_refuses {host : Host} {op : Operation} {args : List Value}
    (refuses : ((host.note op.name).plan op args).Refuses) :
    ∃ exception after, host.invoke op.name args = (.raised exception, after) ∧
      host.Leads after ∧ host.SameClasses after := by
  obtain ⟨kind, message, planned⟩ := refuses
  have replied := invoke_of_complaint planned
  exact ⟨_, _, replied, ⟨[.invoke _ _], congrArg Prod.snd replied⟩,
    newException_sameClasses (host.note op.name) kind message⟩

end Host

namespace Definition

open Host

variable {host : Host} {ids : List Id} {definition : Definition} {args : List Value}

theorem Passed.note (passed : Passed host ids definition args) (name : String) :
    Passed (host.note name) ids definition args := by
  cases passed with
  | anonymous listed => exact .anonymous listed
  | named spelled listed => exact .named spelled listed
  | under scope spelled listed => exact .under scope spelled listed
  | data superclass listed => exact .data superclass listed

section Invoked

variable (passed : Passed host ids definition args)
  (symbols : ∀ id ∈ ids, host.symbolId? (.symbol id) = some id)

include passed symbols

theorem Passed.invoke_of_permitted (reached : host.Reachable)
    (room : host.objects.size < ObjectTable.capacity) (permitted : definition.Permitted host)
    (unused : Unused (definition.inherited host) ids) :
    ∃ handle after, host.invoke definition.operation.name args = (.value handle, after) ∧
      host.Leads after ∧
      host.Defines (definition.inherited host ++ ids) definition.binding handle after := by
  obtain ⟨c, bare, members, planned⟩ :=
    (passed.note definition.operation.name).plan_of_permitted symbols permitted unused
  have replied := invoke_of_plan planned
  have same : host.SameClasses (host.note definition.operation.name) := .refl host
  have defines := @defineClassDef_defines (host.note definition.operation.name) room c bare
    definition.binding fun _ _ => permitted.isClass reached
  rw [members] at defines
  exact ⟨_, _, replied, ⟨[.invoke _ _], congrArg Prod.snd replied⟩,
    same.defines id defines⟩

theorem Passed.invoke_of_refused
    (refused : ¬ (definition.Permitted host ∧ Unused (definition.inherited host) ids)) :
    ∃ exception after, host.invoke definition.operation.name args = (.raised exception, after) ∧
      host.Leads after ∧ host.SameClasses after :=
  invoke_of_refuses ((passed.note definition.operation.name).plan_refuses symbols refused)

end Invoked

end Definition

end NativeGate
