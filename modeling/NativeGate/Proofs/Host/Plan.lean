import Mathlib.Data.List.Nodup
import NativeGate.Host.Invoke

namespace NativeGate

theorem Operation.ofName?_name (op : Operation) : ofName? op.name = some op := by
  cases op with
  | ask query => cases query <;> decide
  | _ => decide

namespace Planned

variable {α β : Type}

theorem bind_eq_ok {x : Planned α} {next : α → Planned β} {b : β} :
    x >>= next = .ok b ↔ ∃ a, x = .ok a ∧ next a = .ok b := by
  cases x <;> simp [bind, Except.bind]

@[simp] theorem pure_eq_ok {a b : α} : (pure a : Planned α) = .ok b ↔ a = b := by
  simp [pure, Except.pure]

@[simp] theorem typeError_ne_ok {message : Bytes} {a : α} : typeError message ≠ .ok a := nofun

@[simp] theorem argumentError_ne_ok {message : Bytes} {a : α} :
    argumentError message ≠ .ok a := nofun

end Planned

inductive ClassDef.Made (host : Host) : ClassDef → Prop
  | plain (name : Option Bytes) (superclass : Option Value) :
      Made host { name, superclass, kind := .plain }
  /-- A record class is one of Struct's, and its members are different symbols. -/
  | record (name : Option Bytes) {members : List Id} (distinct : members.Nodup)
      (known : ∀ id ∈ members, (host.symbols.entry? id).isSome) :
      Made host { name, superclass := some Builtin.struct.value, kind := .record, members }
  /-- A data class has the members of the class it extends, and then its own. -/
  | data {parent : Value} {base : ClassDef} {own : List Id}
      (found : host.objects.classDef? parent = some base)
      (extensible : parent = Builtin.data.value ∨ base.kind = .data)
      (distinct : base.members.Nodup → (base.members ++ own).Nodup)
      (known : ∀ id ∈ own, (host.symbols.entry? id).isSome) :
      Made host
        { name := none, superclass := some parent, kind := .data, members := base.members ++ own }

/-- What a planned effect may rely on. -/
inductive Effect.Justified (host : Host) : Effect → Prop
  | reply (v : Value) : Justified host (.reply v)
  | intern (name : Bytes) (encoding : Encoding) : Justified host (.intern name encoding)
  | nameString {id : Id} {entry : SymbolEntry} (found : host.symbols.entry? id = some entry)
      (fresh : entry.text = none) : Justified host (.nameString id)
  | string (bytes : Bytes) (encoding : Encoding) :
      Justified host (.create (.string { bytes, encoding }))
  | array (elements : List Value) : Justified host (.create (.array elements))
  | record {definition : Value} {c : ClassDef} {fields : List Value}
      (found : host.objects.classDef? definition = some c) (kind : c.kind = .record)
      (length : fields.length = c.members.length) :
      Justified host (.create (.record definition fields))
  | freeze (string : Value) : Justified host (.freeze string)
  | classify (string : Value) : Justified host (.classify string)
  | define {definition : ClassDef} (binding : Option (Value × Bytes))
      (made : definition.Made host) : Justified host (.define definition binding)
  | warn (line : Bytes) : Justified host (.warn line)
  | setErrinfo (v : Value) : Justified host (.setErrinfo v)

namespace Host

open Planned

@[simp] theorem complainOf_ne_ok {α : Type} {host : Host} {v : Value} {complaint : String}
    {a : α} :
    host.complainOf v complaint ≠ .ok a := by
  simp [complainOf, bind_eq_ok]

theorem asSymbol_eq_ok {host : Host} {v : Value} {id : Id} :
    host.asSymbol v = .ok id ↔ host.symbolId? v = some id := by
  unfold asSymbol
  split <;> simp_all

theorem symbolArgument_eq_ok {host : Host} {op args i id} :
    host.symbolArgument op args i = .ok id ↔
      ∃ v, argument op args i = .ok v ∧ host.symbolId? v = some id := by
  simp [symbolArgument, bind_eq_ok, asSymbol_eq_ok]

theorem stringArgument_note {host : Host} {v : Value} {s : ManagedString}
    (found : host.objects.string? v = some s) (op : Operation) (rest : List Value) :
    (host.note op.name).stringArgument op (v :: rest) 0 = .ok s := by
  have found : (host.note op.name).objects.string? v = some s := found
  simp [stringArgument, argument, asString, found, bind, Except.bind]

theorem symbolId?_eq_some {host : Host} {v : Value} {id : Id}
    (known : host.symbolId? v = some id) :
    v.symbolId? = some id ∧ ∃ entry, host.symbols.entry? id = some entry := by
  simpa [symbolId?, Option.filter_eq_some_iff, Option.isSome_iff_exists] using known

theorem structMembers_eq_ok {host : Host} {definition : Value} {members : List Id} :
    host.structMembers definition = .ok members ↔
      ∃ c, host.objects.classDef? definition = some c ∧ c.kind = .record ∧
        c.members = members := by
  unfold structMembers
  split
  next c found =>
    by_cases kind : c.kind = .record <;> simp [found, kind]
  next missing => simp [missing]

theorem nameString_justified {host : Host} {id : Id} {entry : SymbolEntry}
    (found : host.symbols.entry? id = some entry) :
    (host.nameString id).Justified host := by
  unfold nameString
  split
  · exact .reply _
  next fresh =>
    rw [found] at fresh
    exact .nameString found fresh

@[simp] theorem duplicateMember_ne_ok {α : Type} {host : Host} {id : Id} {a : α} :
    host.duplicateMember id ≠ .ok a := nofun

theorem distinctMembers_eq_ok {host : Host} {known members : List Id} {items : List Value}
    (planned : host.distinctMembers known items = .ok members) :
    (known.Nodup → members.Nodup) ∧
      ∀ id ∈ members, id ∈ known ∨ (host.symbols.entry? id).isSome := by
  induction items generalizing known with
  | nil =>
      cases planned
      exact ⟨id, fun _ => .inl⟩
  | cons item rest ih =>
      simp only [distinctMembers, bind_eq_ok, asSymbol_eq_ok] at planned
      obtain ⟨id, isSymbol, planned⟩ := planned
      split at planned
      next => simp at planned
      next new =>
        obtain ⟨distinct, symbols⟩ := ih planned
        constructor
        · intro nodup
          apply distinct
          rw [← List.concat_eq_append]
          exact List.Nodup.concat new nodup
        · intro other member
          obtain old | isSome := symbols other member
          · rw [List.mem_append, List.mem_singleton] at old
            obtain old | rfl := old
            · exact .inl old
            · exact .inr (Option.isSome_iff_exists.mpr (symbolId?_eq_some isSymbol).2)
          · exact .inr isSome

theorem memberIds_eq_ok {host : Host} {v : Value} {members : List Id}
    (planned : host.memberIds v = .ok members) :
    members.Nodup ∧ ∀ id ∈ members, (host.symbols.entry? id).isSome := by
  unfold memberIds at planned
  split at planned
  next =>
    obtain ⟨distinct, symbols⟩ := distinctMembers_eq_ok planned
    refine ⟨distinct List.nodup_nil, fun id member => (symbols id member).resolve_left ?_⟩
    exact List.not_mem_nil
  next => simp at planned

theorem extendMembers_eq_ok {host : Host} {inherited own members : List Id}
    (planned : host.extendMembers inherited own = .ok members) :
    members = inherited ++ own ∧ (inherited.Nodup → members.Nodup) := by
  induction own generalizing inherited with
  | nil =>
      cases planned
      exact ⟨(List.append_nil _).symm, id⟩
  | cons first rest ih =>
      rw [extendMembers] at planned
      split at planned
      next => simp at planned
      next new =>
        obtain ⟨rfl, distinct⟩ := ih planned
        refine ⟨List.append_assoc .., fun nodup => distinct ?_⟩
        rw [← List.concat_eq_append]
        exact List.Nodup.concat new nodup

theorem inheritedMembers_eq_ok {host : Host} {parent : Value} {members : List Id}
    (planned : host.inheritedMembers parent = .ok members) :
    ∃ base, host.objects.classDef? parent = some base ∧
      (parent = Builtin.data.value ∨ base.kind = .data) ∧ base.members = members := by
  unfold inheritedMembers at planned
  split at planned
  next base found =>
    split at planned
    next extensible =>
      cases planned
      exact ⟨base, found, extensible, rfl⟩
    next => simp at planned
  next => simp at planned

theorem defineStruct_justified {host : Host} {scope : Value} {name : Option Bytes}
    {members : Value} {effect : Effect}
    (planned : host.defineStruct scope name members = .ok effect) : effect.Justified host := by
  simp only [defineStruct, bind_eq_ok] at planned
  obtain ⟨ids, listed, planned⟩ := planned
  obtain ⟨distinct, known⟩ := memberIds_eq_ok listed
  split at planned
  next =>
    rw [pure_eq_ok] at planned
    subst planned
    exact .define _ (.record _ distinct known)
  next =>
    split at planned
    · rw [pure_eq_ok] at planned
      subst planned
      exact .define _ (.record _ distinct known)
    · simp at planned

theorem defineData_justified {host : Host} {superclass members : Value} {effect : Effect}
    (planned : host.defineData superclass members = .ok effect) : effect.Justified host := by
  simp only [defineData, bind_eq_ok, pure_eq_ok] at planned
  obtain ⟨inherited, inherits, own, listed, all, extends', rfl⟩ := planned
  obtain ⟨base, found, extensible, rfl⟩ := inheritedMembers_eq_ok inherits
  obtain ⟨rfl, distinct⟩ := extendMembers_eq_ok extends'
  exact .define _ (.data found extensible distinct (memberIds_eq_ok listed).2)

theorem plan_justified {host : Host} {op : Operation} {args : List Value} {effect : Effect}
    (planned : host.plan op args = .ok effect) : effect.Justified host := by
  cases op <;> simp only [plan, bind_eq_ok, pure_eq_ok, symbolArgument_eq_ok] at planned
  case symToString | idToString =>
      obtain ⟨id, ⟨v, -, known⟩, rfl⟩ := planned
      obtain ⟨entry, found⟩ := (symbolId?_eq_some known).2
      exact nameString_justified found
  case structNew =>
      obtain ⟨definition, -, members, isRecord, planned⟩ := planned
      obtain ⟨c, found, kind, rfl⟩ := structMembers_eq_ok.mp isRecord
      split at planned
      next length =>
        rw [pure_eq_ok] at planned
        subst planned
        exact .record found kind length
      next => simp at planned
  case structDefine =>
      obtain ⟨name, -, members, -, planned⟩ := planned
      split at planned
      · exact defineStruct_justified planned
      · obtain ⟨s, -, planned⟩ := bind_eq_ok.mp planned
        exact defineStruct_justified planned
  case structDefineUnder =>
      obtain ⟨scope, -, name, -, members, -, planned⟩ := planned
      split at planned
      · exact defineStruct_justified planned
      · simp at planned
  case dataDefine =>
      obtain ⟨superclass, -, members, -, planned⟩ := planned
      exact defineData_justified planned
  -- All other operations show their effect.
  all_goals
    grind [Effect.Justified, pure_eq_ok, typeError_ne_ok, argumentError_ne_ok, complainOf_ne_ok]

theorem invoke_of_plan {host : Host} {op : Operation} {args : List Value} {effect : Effect}
    (planned : (host.note op.name).plan op args = .ok effect) :
    host.invoke op.name args =
      (.value ((host.note op.name).carryOut effect).1,
        ((host.note op.name).carryOut effect).2) := by
  simp only [invoke, Operation.ofName?_name, perform, planned]

theorem invokePredicate_of_answer {host : Host} {query : Query} {args : List Value} {b : Bool}
    (answered : (host.note query.name).answer query args = .ok b) :
    host.invokePredicate query.name args = (.value b, host.note query.name) := by
  have named : Operation.ofName? query.name = some (.ask query) :=
    Operation.ofName?_name (.ask query)
  simp only [invokePredicate, named, answered]

theorem invoke_of_complaint {host : Host} {op : Operation} {args : List Value}
    {complaint : Complaint} (planned : (host.note op.name).plan op args = .error complaint) :
    host.invoke op.name args = (host.note op.name).complain complaint := by
  simp only [invoke, Operation.ofName?_name, perform, planned]

theorem invokePredicate_of_complaint {host : Host} {query : Query} {args : List Value}
    {complaint : Complaint}
    (answered : (host.note query.name).answer query args = .error complaint) :
    host.invokePredicate query.name args = (host.note query.name).complain complaint := by
  have named : Operation.ofName? query.name = some (.ask query) :=
    Operation.ofName?_name (.ask query)
  simp only [invokePredicate, named, answered]

theorem complain_endless_iff {α : Type} (host : Host) (complaint : Complaint) :
    (host.complain (α := α) complaint).1 = .endless ↔ complaint = .endless := by
  cases complaint <;> simp [complain]

theorem perform_endless_iff (host : Host) (op : Operation) (args : List Value) :
    (host.perform op args).1 = .endless ↔ host.plan op args = .error .endless := by
  unfold perform
  cases host.plan op args with
  | ok effect => exact ⟨nofun, nofun⟩
  | error complaint => exact (host.complain_endless_iff complaint).trans (by simp)

theorem invoke_endless_iff (host : Host) (op : Operation) (args : List Value) :
    (host.invoke op.name args).1 = .endless ↔
      (host.note op.name).plan op args = .error .endless := by
  simp only [invoke, Operation.ofName?_name]
  exact perform_endless_iff ..

end Host

end NativeGate
