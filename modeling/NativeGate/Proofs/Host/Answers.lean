import NativeGate.Proofs.Host.Texts

namespace NativeGate

namespace Planned

variable {α γ : Type}

def Settles (x : Planned α) : Prop :=
  x ≠ .error .endless

theorem Settles.bind {x : Planned α} {next : α → Planned γ} (first : Settles x)
    (rest : ∀ a, Settles (next a)) : Settles (x >>= next) := by
  cases x with
  | ok a => exact rest a
  | error complaint => exact fun endless => first (congrArg Except.error (Except.error.inj endless))

@[simp] theorem ok_settles (a : α) : Settles (.ok a) := nofun

@[simp] theorem pure_settles (a : α) : Settles (pure a) := nofun

@[simp] theorem typeError_settles (message : Bytes) : Settles (α := α) (typeError message) := nofun

@[simp] theorem argumentError_settles (message : Bytes) :
    Settles (α := α) (argumentError message) := nofun

@[simp] theorem argument_settles (op : Operation) (args : List Value) (i : Nat) :
    Settles (argument op args i) := by
  unfold argument
  split <;> simp

end Planned

namespace Host

open Planned

section Layered

variable {host : Host} (layered : host.objects.Layered)

include layered

theorem inspected_settles (v : Value) : Settles (host.inspected v) := by
  obtain ⟨text, written⟩ := Option.isSome_iff_exists.mp (inspect?_isSome layered v)
  simp [inspected, written]

theorem complainOf_settles {α : Type} (v : Value) (complaint : String) :
    Settles (α := α) (host.complainOf v complaint) :=
  (inspected_settles layered v).bind fun _ => typeError_settles _

theorem asSymbol_settles (v : Value) : Settles (host.asSymbol v) := by
  unfold asSymbol
  split
  · exact ok_settles _
  · exact complainOf_settles layered v _

omit layered in
theorem asString_settles (host : Host) (v : Value) : Settles (host.asString v) := by
  unfold asString
  split <;> simp

theorem symbolArgument_settles (op : Operation) (args : List Value) (i : Nat) :
    Settles (host.symbolArgument op args i) :=
  (argument_settles op args i).bind fun v => asSymbol_settles layered v

omit layered in
theorem stringArgument_settles (host : Host) (op : Operation) (args : List Value) (i : Nat) :
    Settles (host.stringArgument op args i) :=
  (argument_settles op args i).bind fun v => host.asString_settles v

theorem distinctMembers_settles (known : List Id) (items : List Value) :
    Settles (host.distinctMembers known items) := by
  induction items generalizing known with
  | nil => exact ok_settles known
  | cons item rest ih =>
      refine (asSymbol_settles layered item).bind fun id => ?_
      split
      · exact argumentError_settles _
      · exact ih _

theorem memberIds_settles (members : Value) : Settles (host.memberIds members) := by
  unfold memberIds
  split
  · exact distinctMembers_settles layered _ _
  · exact typeError_settles _

omit layered in
theorem extendMembers_settles (host : Host) (inherited own : List Id) :
    Settles (host.extendMembers inherited own) := by
  induction own generalizing inherited with
  | nil => exact ok_settles inherited
  | cons id rest ih =>
      rw [extendMembers]
      split
      · exact argumentError_settles _
      · exact ih _

theorem structMembers_settles (definition : Value) :
    Settles (host.structMembers definition) := by
  unfold structMembers
  split
  · split
    · exact ok_settles _
    · exact complainOf_settles layered definition _
  · exact complainOf_settles layered definition _

theorem defineStruct_settles (scope : Value) (name : Option Bytes) (members : Value) :
    Settles (host.defineStruct scope name members) := by
  refine (memberIds_settles layered members).bind fun ids => ?_
  cases name with
  | none => exact pure_settles _
  | some name =>
      dsimp only
      split
      · exact pure_settles _
      · exact argumentError_settles _

omit layered in
theorem inheritedMembers_settles (host : Host) (superclass : Value) :
    Settles (host.inheritedMembers superclass) := by
  unfold inheritedMembers
  split
  · split <;> simp
  · exact typeError_settles _

theorem defineData_settles (superclass members : Value) :
    Settles (host.defineData superclass members) :=
  (host.inheritedMembers_settles _).bind fun inherited =>
    (memberIds_settles layered members).bind fun own =>
      (host.extendMembers_settles inherited own).bind fun _ => pure_settles _

theorem toString?_isSome (v : Value) : (host.toString? v).isSome := by
  obtain ⟨text, written⟩ := Option.isSome_iff_exists.mp (inspect?_isSome layered v)
  unfold toString?
  split
  · rfl
  · split
    · rfl
    · split
      · rfl
      · split
        · rfl
        · simp [written]

theorem answer_settles (query : Query) (args : List Value) :
    Settles (host.answer query args) := by
  have symbol (test : Bytes → Bool) : Settles (α := Bool) (do
      return test (host.symbolName (← host.symbolArgument (.ask query) args 0))) :=
    (symbolArgument_settles layered _ args 0).bind fun _ => pure_settles _
  cases query with
  | symbolP | stringP => exact (argument_settles _ args 0).bind fun _ => pure_settles _
  | isClassId => exact symbol _
  | isConstId => exact symbol _
  | isInstanceId => exact symbol _
  | categoryEnabledP =>
      refine (argument_settles _ args 0).bind fun v => ?_
      split <;> simp
  | isKindOf =>
      exact (argument_settles _ args 0).bind fun _ => (argument_settles _ args 1).bind fun _ =>
        pure_settles _

theorem plan_settles (op : Operation) (args : List Value) : Settles (host.plan op args) := by
  have first := argument_settles op args 0
  have second := argument_settles op args 1
  have symbol := symbolArgument_settles layered op args 0
  have string := host.stringArgument_settles op args
  cases op with
  | ask query => exact (answer_settles layered query args).bind fun _ => pure_settles _
  | intern => exact (string 0).bind fun _ => pure_settles _
  | symToId => exact symbol.bind fun _ => pure_settles _
  | idToSym =>
      refine first.bind fun v => ?_
      split <;> simp
  | symToString | idToString => exact symbol.bind fun _ => pure_settles _
  | idAttrset | symToS => exact symbol.bind fun _ => pure_settles _
  | checkSymbol =>
      refine (string 0).bind fun s => ?_
      split <;> simp
  | toSymbol =>
      refine first.bind fun v => ?_
      split
      · exact pure_settles _
      · split
        · exact pure_settles _
        · exact complainOf_settles layered v _
  | checkStringType => exact first.bind fun _ => pure_settles _
  | objAsString =>
      refine first.bind fun v => ?_
      obtain ⟨conversion, converted⟩ := Option.isSome_iff_exists.mp (toString?_isSome layered v)
      rw [converted]
      cases conversion <;> simp
  | inspect =>
      exact first.bind fun v => (inspected_settles layered v).bind fun _ => pure_settles _
  | freeze | coderange =>
      exact first.bind fun v => (host.asString_settles v).bind fun _ => pure_settles _
  | arrayNew | verbose | errinfo | standardError => exact pure_settles _
  | structDefine =>
      refine first.bind fun name => second.bind fun members => ?_
      split
      · exact defineStruct_settles layered _ _ _
      · exact (host.asString_settles name).bind fun _ => defineStruct_settles layered _ _ _
  | structDefineUnder =>
      refine first.bind fun scope => (string 1).bind fun name =>
        (argument_settles _ args 2).bind fun members => ?_
      split
      · exact defineStruct_settles layered _ _ _
      · exact typeError_settles _
  | structSize =>
      exact first.bind fun _ => (structMembers_settles layered _).bind fun _ => pure_settles _
  | structNew =>
      refine first.bind fun definition => (structMembers_settles layered _).bind fun members => ?_
      dsimp only
      split
      · exact pure_settles _
      · exact argumentError_settles _
  | dataDefine =>
      exact first.bind fun _ => second.bind fun _ => defineData_settles layered _ _
  | warn | bug => exact (string 0).bind fun _ => pure_settles _
  | categoryWarn => exact first.bind fun _ => (string 1).bind fun _ => pure_settles _
  | fatal => exact (string 0).bind fun _ => nofun
  | memoryError => exact nofun
  | setErrinfo => exact first.bind fun _ => pure_settles _

theorem perform_ne_endless (op : Operation) (args : List Value) :
    (host.perform op args).1 ≠ .endless :=
  mt (host.perform_endless_iff op args).mp (plan_settles layered op args)

theorem invoke_ne_endless (name : String) (args : List Value) :
    (host.invoke name args).1 ≠ .endless := by
  have noted : (host.note name).objects.Layered := layered
  unfold invoke
  cases Operation.ofName? name with
  | none => exact mt (complain_endless_iff ..).mp nofun
  | some op => exact perform_ne_endless noted op args

theorem invokePredicate_ne_endless (name : String) (args : List Value) :
    (host.invokePredicate name args).1 ≠ .endless := by
  have noted : (host.note name).objects.Layered := layered
  unfold invokePredicate
  dsimp only
  split
  next query _ =>
    have settles := answer_settles noted query args
    cases answered : (host.note name).answer query args with
    | ok answer => exact nofun
    | error complaint =>
        rw [answered] at settles
        exact mt (complain_endless_iff ..).mp fun same => settles (congrArg _ same)
  next op _ _ =>
    have ends := perform_ne_endless noted op args
    cases replied : ((host.note name).perform op args).1 with
    | value v => exact nofun
    | raised exception => exact nofun
    | endless => exact absurd replied ends
  next => exact mt (complain_endless_iff ..).mp nofun

end Layered

end Host

end NativeGate
