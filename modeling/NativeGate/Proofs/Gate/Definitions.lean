import NativeGate.Proofs.Gate.Arrays
import NativeGate.Proofs.Gate.Identifiers
import NativeGate.Proofs.Gate.Members

namespace NativeGate

open Host Proc Trailing

variable {β ω : Type}

namespace Records

theorem length_lt_of_names? {arguments : List Argument} {names : List Bytes}
    (before : names? arguments = some names) : names.length < arguments.length := by
  induction arguments generalizing names with
  | nil => cases before
  | cons argument rest ih =>
      cases argument with
      | null =>
          cases before
          exact Nat.zero_lt_succ _
      | text address name =>
          obtain ⟨others, found, rfl⟩ := Option.map_eq_some_iff.mp before
          exact Nat.succ_lt_succ (ih found)
      | _ => cases before

end Records

section Raised

variable {α : Type} {host after : Host} {fault : Fault} {exception : Value}

theorem Fault.RaisedBy.leads (raised : fault.RaisedBy host exception after) :
    host.Leads after := by
  cases raised with
  | existing already => exact .refl host
  | fresh made => exact host.leads_act (.newException _ _)

theorem Fault.RaisedBy.sameClasses (raised : fault.RaisedBy host exception after) :
    host.SameClasses after := by
  cases raised with
  | existing already => exact .refl host
  | fresh made => exact host.newException_sameClasses _ _

theorem Engine.Answers.bind_refuses {γ : Type} {middle : Host} {p : Proc (Engine β) α}
    {next : α → Proc (Engine β) γ} {a : α} (first : Engine.Answers p host a middle)
    (rest : Engine.Refuses (next a) middle exception after) :
    Engine.Refuses (p >>= next) host exception after := by
  intro engine hasHost unpinned
  rw [runOn_bind_of_ok (first engine hasHost unpinned)]
  exact rest _ rfl unpinned

theorem Variadic.runOn_raising_of_failed {p : Variadic β ω α} {s : Cursor × Gate β ω}
    {cursor : Cursor} {gate : Gate β ω} (ran : p.runOn s = (.error (.failed fault), cursor, gate))
    (routed : gate.Routes host) (named : fault.counterpart ≠ .missing) :
    ∃ exception gate' after, p.raising.runOn s = (.error (.raised exception), cursor, gate') ∧
      gate'.Routes after ∧ fault.RaisedBy host exception after := by
  have routed' := routed
  obtain ⟨scope, current, rfl, unpinned⟩ := routed
  rw [runOn_raising, ran]
  dsimp only
  rw [Native.runOn_raiseFault current]
  cases counterpart : fault.counterpart with
  | existing exception => exact ⟨exception, gate, _, rfl, routed', .existing counterpart⟩
  | fresh kind message =>
      exact ⟨_, _, _, rfl,
        ⟨scope, current, by rw [Gate.engine_changeHost], by simpa using unpinned⟩,
        .fresh counterpart⟩
  | missing => exact absurd counterpart named

end Raised

namespace Definition

def call : Definition → Variadic β ω Value
  | .struct name => Records.define name
  | .structUnder scope name => Records.defineUnder scope name
  | .data superclass => Records.defineData superclass

def prepare (members : List Value) : Definition → Proc (Engine β) (List Value)
  | .struct name => do
      let word ← Records.utf8Name name
      return [word, ← Engine.perform .arrayNew members]
  | .structUnder scope name => do
      let word ← Engine.newString name .utf8
      return [scope, word, ← Engine.perform .arrayNew members]
  | .data superclass => do
      return [superclass, ← Engine.perform .arrayNew members]

theorem call_eq (definition : Definition) :
    (definition.call : Variadic β ω Value) =
      (Records.readMembers >>= fun members =>
        onState (Native.onEngine do
          Engine.perform definition.operation (← definition.prepare members))) := by
  cases definition <;> simp only [call, prepare, bind_assoc, pure_bind] <;> rfl

/-- Exactly `count` objects are new, none of them a class, and no symbol is. -/
structure Readied (host : Host) (count : Nat) (after : Host) : Prop where
  leads : host.Leads after
  classes : host.SameClasses after
  symbols : after.symbols = host.symbols
  size : after.objects.size = host.objects.size + count

theorem Readied.trans {first second third : Host} {m n : Nat} (left : Readied first m second)
    (right : Readied second n third) : Readied first (m + n) third where
  leads := left.leads.trans right.leads
  classes := left.classes.trans right.classes
  symbols := right.symbols.trans left.symbols
  size := by rw [right.size, left.size, Nat.add_assoc]

theorem newString_readied (host : Host) (name : Bytes) :
    Readied host 1 (host.newString name .utf8).2 where
  leads := host.leads_act (.newString name .utf8)
  classes := host.newString_sameClasses name .utf8
  symbols := rfl
  size := ObjectTable.size_add _ _

section Listed

variable {host : Host} (elements : List Value)

def listed (host : Host) (elements : List Value) : Value × Host :=
  (host.note Operation.arrayNew.name).create (.array elements)

theorem listed_answers :
    Engine.Answers (Engine.perform .arrayNew elements : Proc (Engine β) Value) host
      (listed host elements).1 (listed host elements).2 :=
  Engine.perform_answers (Host.invoke_arrayNew host elements)

theorem listed_readied : Readied host 1 (listed host elements).2 where
  leads := ⟨[.invoke _ _], congrArg Prod.snd (Host.invoke_arrayNew host elements)⟩
  classes := (host.note Operation.arrayNew.name).create_sameClasses nofun
  symbols := rfl
  size := ObjectTable.size_add _ _

theorem listed_array? (room : host.objects.size < ObjectTable.capacity) :
    (listed host elements).2.objects.array? (listed host elements).1 = some elements := by
  have stored : (listed host elements).2.objects.get? (listed host elements).1 =
      some (.array elements) := ObjectTable.get?_add_self room _
  rw [ObjectTable.array?, stored]

theorem listed_string? {word : Value} {s : ManagedString}
    (found : host.objects.string? word = some s) :
    (listed host elements).2.objects.string? word = some s := by
  rw [ObjectTable.string?_eq_some_iff] at found ⊢
  exact (ObjectTable.get?_add ..).mpr (.inl found)

end Listed

theorem prepare_answers {host : Host} (room : host.objects.size + 1 < ObjectTable.capacity)
    (ids : List Id) (definition : Definition) :
    ∃ args count after,
      Engine.Answers (definition.prepare (ids.map .symbol) : Proc (Engine β) (List Value)) host
        args after ∧
      count ≤ 2 ∧ Readied host count after ∧ Passed after ids definition args := by
  let members : List Value := ids.map .symbol
  have roomFirst : host.objects.size < ObjectTable.capacity := Nat.lt_of_succ_lt room
  have alone : (listed host members).2.objects.array? (listed host members).1 = some members :=
    listed_array? members roomFirst
  -- With a name, the array comes after the string that spells it.
  have after (name : Bytes) :
      (listed (host.newString name .utf8).2 members).2.objects.array?
        (listed (host.newString name .utf8).2 members).1 = some members := by
    apply listed_array?
    rw [(newString_readied host name).size]
    exact room
  have spelled (name : Bytes) :=
    listed_string? members (Host.newString_string? roomFirst name .utf8)
  have readied (name : Bytes) := (newString_readied host name).trans (listed_readied members)
  have named (name : Bytes) := Engine.newString_answers (β := β) host name .utf8
  cases definition with
  | struct name =>
      cases name with
      | none =>
          exact ⟨_, _, _, .bind (.pure host Value.nil) (.bind (listed_answers members) (.pure _ _)),
            Nat.le_succ 1, listed_readied members, .anonymous alone⟩
      | some name =>
          exact ⟨_, _, _, .bind (named name) (.bind (listed_answers members) (.pure _ _)),
            Nat.le_refl 2, readied name, .named (spelled name) (after name)⟩
  | structUnder scope name =>
      exact ⟨_, _, _, .bind (named name) (.bind (listed_answers members) (.pure _ _)),
        Nat.le_refl 2, readied name, .under scope (spelled name) (after name)⟩
  | data superclass =>
      exact ⟨_, _, _, .bind (listed_answers members) (.pure _ _),
        Nat.le_succ 1, listed_readied members, .data superclass alone⟩

/-- The C strings before the first null argument can be the member names of the class. -/
structure Accepts (host : Host) (definition : Definition) (arguments : List Argument)
    (names : List Bytes) : Prop where
  read : Records.names? arguments = some names
  permitted : definition.Permitted host
  distinct : names.Nodup
  unused : ∀ name ∈ names, ∀ id ∈ definition.inherited host, ¬ host.symbols.Names id name

/-- A new class has the accepted names behind the inherited members. -/
def Succeeds (host : Host) (definition : Definition) (arguments : List Argument) (handle : Value)
    (after : Host) : Prop :=
  ∃ names members, definition.Accepts host arguments names ∧
    host.Defines members definition.binding handle after ∧
    members.map after.symbolName = (definition.inherited host).map host.symbolName ++ names

theorem inherited_known {host : Host} (reached : host.Reachable) (definition : Definition) :
    ∀ id ∈ definition.inherited host, (host.symbols.entry? id).isSome := by
  intro id member
  cases definition with
  | data superclass =>
      cases found : host.objects.classDef? (parent superclass) with
      | none => simp [inherited, found] at member
      | some base =>
          have sound : base.Sound host (parent superclass) :=
            reached.sound _ (.classDef base) (ObjectTable.classDef?_eq_some_iff.mp found)
          rw [inherited, found] at member
          exact sound.known id member
  | _ => exact absurd member List.not_mem_nil

theorem symbolName_of_leads {host after : Host} (leads : host.Leads after) {id : Id}
    (known : (host.symbols.entry? id).isSome) : after.symbolName id = host.symbolName id := by
  obtain ⟨entry, found⟩ := Option.isSome_iff_exists.mp known
  obtain ⟨entry', found', same, -⟩ := leads.symbols_extend.entry id entry found
  rw [Host.symbolName, Host.symbolName, SymbolTable.name?, SymbolTable.name?, found, found']
  exact same

/-- The names are symbols, and what the operation is passed has been made. -/
structure Ready (host : Host) (definition : Definition) (arguments : List Argument)
    (ids : List Id) (args : List Value) (ready : Host) : Prop where
  leads : host.Leads ready
  classes : host.SameClasses ready
  room : ready.objects.size < ObjectTable.capacity
  passed : Passed ready ids definition args
  symbols : ∀ id ∈ ids, ready.symbolId? (.symbol id) = some id
  read : ∀ later, ready.Leads later →
    Records.names? arguments = some (ids.map later.symbolName)
  accepts_iff : (∃ names, definition.Accepts host arguments names) ↔
    definition.Permitted ready ∧ Unused (definition.inherited ready) ids

theorem accepts_iff_of_interned {host middle : Host} (reached : host.Reachable)
    {names : List Bytes} {ids : List Id} (interned : host.Interned names ids middle)
    (coherent : middle.symbols.Coherent) {arguments : List Argument}
    (read : Records.names? arguments = some names) (definition : Definition) :
    (∃ given, definition.Accepts host arguments given) ↔
      definition.Permitted host ∧ Unused (definition.inherited host) ids := by
  rw [interned.unused_iff coherent (inherited_known reached definition)]
  constructor
  · rintro ⟨given, accepts⟩
    cases accepts.read.symm.trans read
    exact ⟨accepts.permitted, accepts.distinct, accepts.unused⟩
  · rintro ⟨permitted, distinct, unused⟩
    exact ⟨names, read, permitted, distinct, unused⟩

theorem ready_of_interned {host middle : Host} (reached : host.Reachable) {names : List Bytes}
    {ids : List Id} (interned : host.Interned names ids middle) {arguments : List Argument}
    (read : Records.names? arguments = some names)
    (room : host.objects.size + names.length + 2 < ObjectTable.capacity)
    (few : host.symbols.size + names.length < SymbolTable.capacity) (definition : Definition) :
    ∃ args ready,
      Engine.Answers (definition.prepare (ids.map .symbol) : Proc (Engine β) (List Value)) middle
        args ready ∧
      definition.Ready host arguments ids args ready := by
  have roomMiddle : middle.objects.size + 1 < ObjectTable.capacity := by
    rw [interned.room]
    omega
  have fewMiddle : middle.symbols.size < SymbolTable.capacity :=
    Nat.lt_of_le_of_lt interned.few few
  have coherent := (reached.leads interned.leads).symbols_coherent fewMiddle
  obtain ⟨args, count, ready, answers, atMost, readied, passed⟩ :=
    prepare_answers (β := β) roomMiddle ids definition
  have classes := interned.classes.trans readied.classes
  refine ⟨args, ready, answers, ?_⟩
  exact
    { leads := interned.leads.trans readied.leads
      classes
      room := by
        rw [readied.size, interned.room]
        omega
      passed
      symbols := by
        intro id member
        rw [Host.symbolId?, readied.symbols]
        exact interned.symbolId? fewMiddle id member
      read := fun later leads => by
        rw [interned.symbolNames (readied.leads.trans leads), read]
      accepts_iff := by
        rw [accepts_iff_of_interned reached interned coherent read,
          permitted_of_sameClasses classes, inherited_of_sameClasses classes] }

section Ready

variable {host ready : Host} {definition : Definition} {arguments : List Argument}
  {ids : List Id} {args : List Value} (isReady : definition.Ready host arguments ids args ready)

include isReady

theorem Ready.defined (reached : host.Reachable)
    (accepts : ∃ names, definition.Accepts host arguments names) :
    ∃ handle after, ready.invoke definition.operation.name args = (.value handle, after) ∧
      host.Leads after ∧ definition.Succeeds host arguments handle after := by
  obtain ⟨permitted, unused⟩ := isReady.accepts_iff.mp accepts
  obtain ⟨handle, after, replied, leads, defines⟩ := isReady.passed.invoke_of_permitted
    isReady.symbols (reached.leads isReady.leads) isReady.room permitted unused
  obtain ⟨names, accepts⟩ := accepts
  have read := isReady.read after leads
  cases accepts.read.symm.trans read
  have leadsAll := isReady.leads.trans leads
  refine ⟨handle, after, replied, leadsAll, _, _, accepts,
    isReady.classes.defines isReady.leads.get?_eq_none defines, ?_⟩
  rw [inherited_of_sameClasses isReady.classes, List.map_append]
  refine congrArg (· ++ _) (List.map_congr_left fun id member => ?_)
  exact symbolName_of_leads leadsAll (inherited_known reached definition id member)

theorem Ready.refused (rejects : ¬ ∃ names, definition.Accepts host arguments names) :
    ∃ exception after, ready.invoke definition.operation.name args = (.raised exception, after) ∧
      host.Leads after ∧ host.SameClasses after := by
  rw [isReady.accepts_iff] at rejects
  obtain ⟨exception, after, replied, leads, same⟩ :=
    isReady.passed.invoke_of_refused isReady.symbols rejects
  exact ⟨exception, after, replied, isReady.leads.trans leads, isReady.classes.trans same⟩

end Ready

section Called

variable {definition : Definition} {arguments : List Argument} {cursor : Cursor}
  {gate gate' : Gate β ω}

theorem runOn_call_of_members {members : List Value} {result : Except Exit Value}
    {host after : Host}
    (read : Records.readMembers.runOn (.start arguments, gate) = (.ok members, cursor, gate'))
    (routed : gate'.Routes host)
    (runs : ∀ engine : Engine β, engine.host = host → engine.pinned = [] →
      (definition.prepare members >>= Engine.perform definition.operation).runOn engine =
        (result, { engine with host := after })) :
    ∃ gate'', definition.call.runOn (.start arguments, gate) = (result, cursor, gate'') ∧
      gate''.Routes after := by
  obtain ⟨gate'', ran, routed''⟩ := Native.onEngine_of_routes routed runs
  refine ⟨gate'', ?_, routed''⟩
  rw [call_eq, runOn_bind_of_ok read, runOn_onState]
  exact congrArg (fun ran => (ran.1, cursor, ran.2)) ran

theorem call_succeeds_or_fails {host : Host} (routed : gate.Routes host) (reached : host.Reachable)
    (room : host.objects.size + arguments.length + 1 < ObjectTable.capacity)
    (few : host.symbols.size + arguments.length < SymbolTable.capacity) :
    ∃ result cursor gate' after,
      definition.call.runOn (.start arguments, gate) = (result, cursor, gate') ∧
      gate'.Routes after ∧ host.Leads after ∧
      ((∃ handle, result = .ok handle ∧ definition.Succeeds host arguments handle after) ∨
        (∃ fault, result = .error (.failed fault) ∧ fault.counterpart ≠ .missing) ∧
          (∀ names, ¬ definition.Accepts host arguments names) ∧ host.SameClasses after) := by
  obtain ⟨result, cursor, gate', middle, read, routed', members⟩ :=
    Records.runOn_readMembers routed reached (by omega) few
  generalize before : Records.names? arguments = names? at members
  cases members with
  | stopped fault leads classes =>
      have ran : definition.call.runOn (.start arguments, gate) =
          (.error (.failed (.cursor fault)), cursor, gate') := by
        rw [call_eq]
        exact runOn_bind_of_error read
      refine ⟨_, cursor, gate', middle, ran, routed', leads,
        .inr ⟨⟨_, rfl, Fault.counterpart_cursor_ne_missing fault⟩, ?_, classes⟩⟩
      intro names accepts
      cases accepts.read.symm.trans before
  | @read names ids _ interned =>
      have fewer := Records.length_lt_of_names? before
      obtain ⟨args, ready, prepared, isReady⟩ :=
        ready_of_interned (β := β) reached interned before (by omega) (by omega) definition
      by_cases accepts : ∃ names, definition.Accepts host arguments names
      · obtain ⟨handle, after, replied, leads, succeeds⟩ := isReady.defined reached accepts
        obtain ⟨gate'', ran, routed''⟩ := runOn_call_of_members read routed'
          (prepared.bind (Engine.perform_answers replied))
        exact ⟨_, cursor, gate'', after, ran, routed'', leads, .inl ⟨handle, rfl, succeeds⟩⟩
      · obtain ⟨exception, after, replied, leads, classes⟩ := isReady.refused accepts
        obtain ⟨gate'', ran, routed''⟩ := runOn_call_of_members read routed'
          (prepared.bind_refuses (Engine.perform_refuses replied))
        exact ⟨_, cursor, gate'', after, ran, routed'', leads,
          .inr ⟨⟨_, rfl, Fault.counterpart_raised_ne_missing exception⟩, not_exists.mp accepts,
            classes⟩⟩

end Called

/-- `rb_struct_define`, `rb_struct_define_under` and `rb_data_define` either make a class with
exactly the inherited members and those named by the C strings, and change no constant but its own,
or raise and leave classes and constants as they were.  Along a run a constant is the class defined
last under its name. -/
theorem definitions_all_or_nothing {gate : Gate β ω} {host : Host} (routed : gate.Routes host)
    (reached : host.Reachable) (definition : Definition) (arguments : List Argument)
    (room : host.objects.size + arguments.length + 1 < ObjectTable.capacity)
    (few : host.symbols.size + arguments.length < SymbolTable.capacity) :
    (∃ result cursor gate' after,
      definition.call.raising.runOn (.start arguments, gate) = (result, cursor, gate') ∧
      gate'.Routes after ∧ host.Leads after ∧
      ((∃ handle, result = .ok handle ∧ definition.Succeeds host arguments handle after) ∨
        (∃ exception, result = .error (.raised exception)) ∧
          (∀ names, ¬ definition.Accepts host arguments names) ∧ host.SameClasses after)) ∧
    ∀ actions scope name,
      (Host.new.actAll actions).constant? scope name =
        (Host.new.definitions actions).lookup (scope, name) := by
  refine ⟨?_, Host.constants_of_run⟩
  obtain ⟨result, cursor, gate', after, ran, routed', leads, outcome⟩ :=
    @call_succeeds_or_fails _ _ definition _ _ _ routed reached room few
  obtain ⟨handle, rfl, succeeds⟩ | ⟨⟨fault, rfl, named⟩, rejects, classes⟩ := outcome
  · refine ⟨_, cursor, gate', after, ?_, routed', leads, .inl ⟨handle, rfl, succeeds⟩⟩
    rw [Variadic.runOn_raising, ran]
  · obtain ⟨exception, gate'', last, raised, routed'', raises⟩ :=
      Variadic.runOn_raising_of_failed ran routed' named
    exact ⟨_, cursor, gate'', last, raised, routed'', leads.trans raises.leads,
      .inr ⟨⟨exception, rfl⟩, rejects, classes.trans raises.sameClasses⟩⟩

theorem definitions_all_or_nothing_twice :
    let gate : Gate Unit Unit := .installed ()
    let point := Definition.struct (some (octets "Point"))
    (∃ handle cursor gate' after, ∃ members : List Id,
      point.call.raising.runOn (.start [.text 4096 (octets "x"), .null], gate) =
        (.ok handle, cursor, gate') ∧
      gate'.Routes after ∧ after.constant? Builtin.struct.value (octets "Point") = some handle ∧
      members.map after.symbolName = [octets "x"]) ∧
    ∃ exception cursor gate' after,
      point.call.raising.runOn
        (.start [.text 4096 (octets "x"), .text 4096 (octets "x"), .null], gate) =
        (.error (.raised exception), cursor, gate') ∧
      gate'.Routes after ∧ after.constant? Builtin.struct.value (octets "Point") = none := by
  intro gate point
  have routed : gate.Routes .new := Gate.installed_routes () {}
  constructor
  · obtain ⟨⟨result, cursor, gate', after, ran, routed', -, ended⟩, -⟩ :=
      definitions_all_or_nothing routed (.refl .new) point [.text 4096 (octets "x"), .null]
        (by decide) (by decide)
    have accepts : point.Accepts .new [.text 4096 (octets "x"), .null] [octets "x"] :=
      { read := rfl
        permitted := by rintro _ ⟨⟩; decide
        distinct := by decide
        unused := nofun }
    obtain ⟨handle, rfl, names, members, given, defines, named⟩ | ⟨-, rejects, -⟩ := ended
    · cases given.read
      refine ⟨handle, cursor, gate', after, members, ran, routed', ?_, named⟩
      rw [defines.constants]
      exact if_pos rfl
    · exact absurd accepts (rejects _)
  · obtain ⟨⟨result, cursor, gate', after, ran, routed', -, ended⟩, -⟩ :=
      definitions_all_or_nothing routed (.refl .new) point
        [.text 4096 (octets "x"), .text 4096 (octets "x"), .null] (by decide) (by decide)
    obtain ⟨handle, rfl, names, members, given, -⟩ | ⟨⟨exception, rfl⟩, -, classes⟩ := ended
    · cases given.read
      exact absurd given.distinct (by decide)
    · refine ⟨exception, cursor, gate', after, ran, routed', ?_⟩
      rw [classes.constant?, Host.new_constant?]

end Definition

end NativeGate
