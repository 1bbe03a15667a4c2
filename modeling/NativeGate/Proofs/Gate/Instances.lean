import NativeGate.Proofs.Gate.Definitions
import NativeGate.Proofs.Host.Cycles

namespace NativeGate

open Proc Trailing

variable {β ω : Type}

namespace Host

variable {host : Host} {definition : Value} {members : List Id}

def HasMembers (host : Host) (definition : Value) (members : List Id) : Prop :=
  ∃ c, host.objects.classDef? definition = some c ∧ c.kind = .record ∧ c.members = members

theorem HasMembers.leads {later : Host} (leads : host.Leads later)
    (has : host.HasMembers definition members) : later.HasMembers definition members := by
  obtain ⟨c, found, kind, rfl⟩ := has
  obtain ⟨_, _, found', turned⟩ :=
    leads.becomes (ObjectTable.classDef?_eq_some_iff.mp found)
  cases turned with
  | classDef _ _ sameKind sameMembers =>
      exact ⟨_, ObjectTable.classDef?_eq_some_iff.mpr found', sameKind.trans kind, sameMembers⟩

theorem HasMembers.structMembers (has : host.HasMembers definition members) :
    host.structMembers definition = .ok members :=
  structMembers_eq_ok.mpr has

theorem HasMembers.length_le (has : host.HasMembers definition members) (reached : host.Reachable) :
    members.length ≤ host.symbols.size := by
  obtain ⟨c, found, -, rfl⟩ := has
  have sound := reached.sound definition _ (ObjectTable.classDef?_eq_some_iff.mp found)
  have inUse (id : Id) (member : id ∈ c.members) :=
    (SymbolTable.entry?_isSome_iff _ _).mp (sound.known id member)
  refine length_le_of_slots sound.distinct (fun id => id.toNat - 1)
    (fun id first id' second same => ?_) (fun id member => ?_)
  · have positive := (inUse id first).1
    have positive' := (inUse id' second).1
    rw [← UInt64.toNat_inj]
    omega
  · have bounds := inUse id member
    omega

theorem HasMembers.invoke_structSize (has : host.HasMembers definition members) :
    host.invoke Operation.structSize.name [definition] =
      (.value (.fixnum (Int64.ofNat members.length)), host.note Operation.structSize.name) := by
  have noted : (host.note Operation.structSize.name).HasMembers definition members := has
  have planned : (host.note Operation.structSize.name).plan .structSize [definition] =
      .ok (.reply (.fixnum (Int64.ofNat members.length))) := by
    simp [plan, argument, noted.structMembers, bind, Except.bind, pure, Except.pure]
  exact invoke_of_plan planned

theorem HasMembers.invoke_structNew (has : host.HasMembers definition members)
    {fields : List Value} (length : fields.length = members.length) :
    host.invoke Operation.structNew.name (definition :: fields) =
      (.value ((host.note Operation.structNew.name).create (.record definition fields)).1,
        ((host.note Operation.structNew.name).create (.record definition fields)).2) := by
  have noted : (host.note Operation.structNew.name).HasMembers definition members := has
  have planned : (host.note Operation.structNew.name).plan .structNew (definition :: fields) =
      .ok (.create (.record definition fields)) := by
    simp [plan, argument, noted.structMembers, length, bind, Except.bind, pure, Except.pure]
  exact invoke_of_plan planned

theorem structMembers_of_stranger (stranger : ∀ members, ¬ host.HasMembers definition members) :
    host.structMembers definition = host.complainOf definition " is not a Struct class" := by
  unfold structMembers
  split
  next c found =>
    rw [if_neg]
    intro kind
    exact stranger c.members ⟨c, found, kind, rfl⟩
  next => rfl

section Stranger

variable (stranger : ∀ members, ¬ host.HasMembers definition members)

include stranger

theorem invoke_structSize_of_stranger {text : Bytes}
    (written : host.inspect? definition = some text) :
    host.invoke Operation.structSize.name [definition] =
      (host.note Operation.structSize.name).complain
        (.raise .typeError (text ++ octets " is not a Struct class")) := by
  have noted : ∀ members, ¬ (host.note Operation.structSize.name).HasMembers definition members :=
    stranger
  apply invoke_of_complaint
  simp [plan, argument, structMembers_of_stranger noted, complainOf, inspected, inspect?_note,
    written, typeError, bind, Except.bind]

theorem invoke_structSize_of_endless (endless : host.inspect? definition = none) :
    host.invoke Operation.structSize.name [definition] =
      (.endless, host.note Operation.structSize.name) := by
  have noted : ∀ members, ¬ (host.note Operation.structSize.name).HasMembers definition members :=
    stranger
  have planned : (host.note Operation.structSize.name).plan .structSize [definition] =
      .error .endless := by
    simp [plan, argument, structMembers_of_stranger noted, complainOf, inspected, inspect?_note,
      endless, bind, Except.bind]
  exact invoke_of_complaint planned

end Stranger

theorem exists_interned (reached : host.Reachable) (names : List Bytes)
    (room : host.objects.size + names.length ≤ ObjectTable.capacity)
    (few : host.symbols.size + names.length < SymbolTable.capacity) :
    ∃ ids after, host.Interned names ids after := by
  induction names generalizing host with
  | nil => exact ⟨[], host, .nil host⟩
  | cons name names ih =>
      rw [List.length_cons] at room few
      have roomFirst : host.objects.size < ObjectTable.capacity := by omega
      have fewFirst : host.symbols.size + 1 < SymbolTable.capacity := by omega
      have roomOthers := host.size_objects_internText name
      have fewOthers := host.size_symbols_internText_le name
      have coherent := reached.symbols_coherent (Nat.lt_of_succ_lt fewFirst)
      obtain ⟨ids, after, others⟩ :=
        ih (reached.leads (internText_leads roomFirst name)) (by omega) (by omega)
      exact ⟨_, after, others.cons coherent roomFirst fewFirst⟩

theorem exists_hasMembers {names : List Bytes} (distinct : names.Nodup)
    (few : names.length < SymbolTable.capacity) :
    ∃ (host : Host) (definition : Value) (members : List Id), host.Reachable ∧
      host.HasMembers definition members ∧ members.length = names.length := by
  have room : new.objects.size + names.length + 2 < ObjectTable.capacity := by
    rw [show new.objects.size = 20 from rfl, ObjectTable.capacity]
    unfold SymbolTable.capacity at few
    omega
  have fewer : new.symbols.size + names.length < SymbolTable.capacity := by
    rw [show new.symbols.size = 0 from rfl, Nat.zero_add]
    exact few
  obtain ⟨ids, middle, interned⟩ := exists_interned (.refl new) names (by omega) fewer
  have fewMiddle := Nat.lt_of_le_of_lt interned.few fewer
  have reached : middle.Reachable := interned.leads
  have nodup : ids.Nodup := by
    have unused : Unused [] ids ↔ _ :=
      interned.unused_iff (reached.symbols_coherent fewMiddle) fun _ => nofun
    exact unused_nil.mp (unused.mpr ⟨distinct, fun _ _ _ => nofun⟩)
  let listed := Definition.listed middle (ids.map .symbol)
  have array : listed.2.objects.array? listed.1 = some (ids.map .symbol) := by
    apply Definition.listed_array?
    rw [interned.room]
    omega
  let c : ClassDef :=
    { name := none, superclass := some Builtin.struct.value, kind := .record, members := ids }
  have members : (listed.2.note Operation.structDefine.name).memberIds listed.1 = .ok ids :=
    memberIds_of_nodup array (interned.symbolId? fewMiddle) nodup
  have planned : (listed.2.note Operation.structDefine.name).plan .structDefine [.nil, listed.1] =
      .ok (.define c none) := by
    simp [plan, argument, defineStruct, members, c, bind, Except.bind, pure, Except.pure]
  have replied := invoke_of_plan planned
  let made := (listed.2.note Operation.structDefine.name).create (.classDef c)
  have roomLast : listed.2.objects.size < ObjectTable.capacity := by
    rw [(Definition.listed_readied _).size, interned.room]
    omega
  refine ⟨made.2, made.1, ids, ?_, ⟨c, ?_, rfl, rfl⟩, ?_⟩
  · exact (reached.leads (Definition.listed_readied _).leads).leads
      ⟨[.invoke _ _], congrArg Prod.snd replied⟩
  · exact ObjectTable.classDef?_eq_some_iff.mpr (ObjectTable.get?_add_self roomLast _)
  · exact interned.named.length_eq

end Host

namespace Records

open Cursor (AreValues StopsAt)

theorem newRecord_eq (definition : Value) (allocator : Allocator) :
    (newRecord definition allocator : Variadic β ω Value) =
      (onState (Native.engineNumber : Native β ω Nat) >>= fun number =>
        onState (Native.atEngine number (Engine.perform .structSize [definition])) >>= fun size =>
          onState (Allocation.reserveWords ((size.asFixnum?.getD 0).toInt.toNat + 1)
              allocator) >>= fun _ =>
            onCursor (Cursor.readValues (size.asFixnum?.getD 0).toInt.toNat) >>= fun fields =>
              onState (Native.atEngine number
                (Engine.perform .structNew (definition :: fields)))) := rfl

theorem count_of_size {count : Nat} (small : count < 2 ^ 62) :
    ((Value.fixnum (Int64.ofNat count)).asFixnum?.getD 0).toInt.toNat = count := by
  have signed : (Int64.ofNat count).toInt = count := by
    rw [Int64.toInt_ofNat_of_lt (by omega)]
  have read : (Value.fixnum (Int64.ofNat count)).asFixnum? = some (Int64.ofNat count) := by
    rw [Value.asFixnum?_fixnum_iff, Value.fixnumRange_iff, signed]
    omega
  rw [read, Option.getD_some, signed, Int.toNat_natCast]

theorem least_of_members {host : Host} (reached : host.Reachable)
    (few : host.symbols.size < SymbolTable.capacity) {definition : Value} {members : List Id}
    (has : host.HasMembers definition members) :
    8 * (members.length + 1) ≤ Allocation.mostOctets := by
  have most := has.length_le reached
  unfold SymbolTable.capacity at few
  unfold Allocation.mostOctets
  omega

section Reserve

variable {allocator : Allocator} {count : Nat} (least : 8 * count ≤ Allocation.mostOctets)
  {gate : Gate β ω} (cursor : Cursor)

include least

theorem runOn_reserveWords_of_granted
    (granted : (allocator.allocate? gate.memory (8 * count)).isSome) :
    (onState (Allocation.reserveWords count allocator : Native β ω Unit)).runOn (cursor, gate) =
      (.ok (), cursor, gate) := by
  rw [runOn_onState, Allocation.reserveWords, if_neg (Nat.not_lt.mpr least),
    runOn_bind_of_ok (runOn_get gate), if_pos granted]
  rfl

theorem runOn_reserveWords_of_refused
    (refused : allocator.allocate? gate.memory (8 * count) = none) :
    (onState (Allocation.reserveWords count allocator : Native β ω Unit)).runOn (cursor, gate) =
      (.error .aborted, cursor, gate) := by
  rw [runOn_onState, Allocation.reserveWords, if_neg (Nat.not_lt.mpr least),
    runOn_bind_of_ok (runOn_get gate), refused]
  rfl

end Reserve

section Current

variable {gate : Gate β ω} {scope : Scope} (current : gate.context.current? = some scope)
  (unpinned : (gate.engine scope.engine).pinned = []) {definition : Value} {allocator : Allocator}
  (cursor : Cursor)

include current unpinned

theorem runOn_newRecord_of_refusal {exception : Value} {after : Host}
    (refused : (gate.engine scope.engine).host.invoke Operation.structSize.name [definition] =
      (.raised exception, after)) :
    (newRecord definition allocator : Variadic β ω Value).raising.runOn (cursor, gate) =
      (.error (.raised exception), cursor, gate.changeHost scope.engine fun _ => after) := by
  have ran : (newRecord definition allocator : Variadic β ω Value).runOn (cursor, gate) =
      (.error (.failed (.raised exception)), cursor,
        gate.changeHost scope.engine fun _ => after) := by
    rw [newRecord_eq, runOn_bind_of_ok (Variadic.runOn_engineNumber current cursor)]
    apply runOn_bind_of_error
    rw [runOn_onState, Native.runOn_atEngine, Engine.perform_refuses refused _ rfl unpinned]
    rfl
  have still : (gate.changeHost scope.engine fun _ => after).context.current? = some scope :=
    current
  rw [Variadic.runOn_raising, ran]
  dsimp only
  rw [Native.runOn_raiseFault still]
  rfl

theorem runOn_newRecord_of_endless {after : Host}
    (endless : (gate.engine scope.engine).host.invoke Operation.structSize.name [definition] =
      (.endless, after)) :
    (newRecord definition allocator : Variadic β ω Value).raising.runOn (cursor, gate) =
      (.error .aborted, cursor, gate.changeHost scope.engine fun _ => after) := by
  have ran : (newRecord definition allocator : Variadic β ω Value).runOn (cursor, gate) =
      (.error .aborted, cursor, gate.changeHost scope.engine fun _ => after) := by
    rw [newRecord_eq, runOn_bind_of_ok (Variadic.runOn_engineNumber current cursor)]
    apply runOn_bind_of_error
    rw [runOn_onState, Native.runOn_atEngine, Engine.runOn_perform unpinned, Engine.runOn_asking,
      endless]
    rfl
  rw [Variadic.runOn_raising, ran]

section Members

variable {members : List Id}
  (has : (gate.engine scope.engine).host.HasMembers definition members)
  (least : 8 * (members.length + 1) ≤ Allocation.mostOctets)

include has least

theorem runOn_newRecord_of_members :
    let sized := gate.changeHost scope.engine (·.note Operation.structSize.name)
    (newRecord definition allocator : Variadic β ω Value).runOn (cursor, gate) =
      (onState
          (Allocation.reserveWords (members.length + 1) allocator : Native β ω Unit) >>= fun _ =>
        onCursor (Cursor.readValues members.length) >>= fun fields =>
          onState (Native.atEngine scope.engine
            (Engine.perform .structNew (definition :: fields)))).runOn (cursor, sized) := by
  intro sized
  have answered : (onState (Native.atEngine scope.engine
        (Engine.perform .structSize [definition]))).runOn (cursor, gate) =
      (.ok (.fixnum (Int64.ofNat members.length)), cursor, sized) := by
    rw [runOn_onState, Native.runOn_atEngine_of_answers unpinned
      (Engine.perform_answers has.invoke_structSize)]
    rfl
  have small : members.length < 2 ^ 62 := by
    unfold Allocation.mostOctets at least
    omega
  rw [newRecord_eq, runOn_bind_of_ok (Variadic.runOn_engineNumber current cursor),
    runOn_bind_of_ok answered, count_of_size small]

theorem runOn_newRecord_of_values {arguments : List Argument}
    (granted : (allocator.allocate? gate.memory (8 * (members.length + 1))).isSome)
    (values : AreValues arguments members.length) :
    let fields := (arguments.take members.length).map fun argument => ⟨argument.word⟩
    let made := (((gate.engine scope.engine).host.note Operation.structSize.name).note
      Operation.structNew.name).create (.record definition fields)
    (newRecord definition allocator : Variadic β ω Value).raising.runOn (.start arguments, gate) =
      (.ok made.1,
        (Cursor.start arguments).afterValues members.length (arguments.drop members.length),
        gate.changeHost scope.engine fun _ => made.2) := by
  intro fields made
  let sized := gate.changeHost scope.engine (·.note Operation.structSize.name)
  have read := @Cursor.runOn_readValues members.length (.start arguments) values.1 values.2
  have taken : (onCursor (Cursor.readValues members.length)).runOn (.start arguments, sized) =
      (.ok fields,
        (Cursor.start arguments).afterValues members.length (arguments.drop members.length),
        sized) := by
    rw [runOn_onCursor, read]
    rfl
  have length : fields.length = members.length := by
    rw [List.length_map, List.length_take]
    exact Nat.min_eq_left values.1
  have hasSized : (sized.engine scope.engine).host.HasMembers definition members := by
    rw [Gate.engine_changeHost]
    exact has
  have unpinnedSized : (sized.engine scope.engine).pinned = [] := by
    rw [Gate.pinned_changeHost]
    exact unpinned
  have created := Native.runOn_atEngine_of_answers (ω := ω) unpinnedSized
    (Engine.perform_answers (hasSized.invoke_structNew length))
  have reserved := @runOn_reserveWords_of_granted β ω allocator (members.length + 1) least sized
    (.start arguments) granted
  rw [Variadic.runOn_raising, runOn_newRecord_of_members current unpinned _ has least,
    runOn_bind_of_ok reserved, runOn_bind_of_ok taken, runOn_onState, created,
    Gate.changeHost_changeHost, Gate.engine_changeHost]
  rfl

theorem runOn_newRecord_of_stop {arguments : List Argument} {index : Nat} {fault : CursorFault}
    (granted : (allocator.allocate? gate.memory (8 * (members.length + 1))).isSome)
    (stops : StopsAt arguments index fault) (less : index < members.length) :
    let made := ((gate.engine scope.engine).host.note Operation.structSize.name).create
      (.exception ErrorKind.argumentError.value fault.message)
    ∃ cursor,
      (newRecord definition allocator : Variadic β ω Value).raising.runOn
          (.start arguments, gate) =
        (.error (.raised made.1), cursor, gate.changeHost scope.engine fun _ => made.2) ∧
      cursor.rest = arguments.drop (index + 1) ∧ cursor.position = index ∧
      cursor.attempts = List.replicate (index + 1) .value := by
  intro made
  let sized := gate.changeHost scope.engine (·.note Operation.structSize.name)
  obtain ⟨cursor, read, left⟩ := Cursor.runOn_readValues_of_stop stops less
  refine ⟨cursor, ?_, left⟩
  have refused : (onCursor (Cursor.readValues members.length)).runOn (.start arguments, sized) =
      (.error (.failed (.cursor fault)), cursor, sized) := by
    rw [runOn_onCursor, read]
  have still : sized.context.current? = some scope := current
  have reserved := @runOn_reserveWords_of_granted β ω allocator (members.length + 1) least sized
    (.start arguments) granted
  rw [Variadic.runOn_raising, runOn_newRecord_of_members current unpinned _ has least,
    runOn_bind_of_ok reserved, runOn_bind_of_error refused]
  dsimp only
  rw [Native.runOn_raiseFault still]
  simp only [Fault.counterpart, sized, Gate.changeHost_changeHost, Gate.engine_changeHost]
  rfl

theorem runOn_newRecord_of_no_memory (cursor : Cursor)
    (refused : allocator.allocate? gate.memory (8 * (members.length + 1)) = none) :
    (newRecord definition allocator : Variadic β ω Value).raising.runOn (cursor, gate) =
      (.error .aborted, cursor,
        gate.changeHost scope.engine (·.note Operation.structSize.name)) := by
  let sized := gate.changeHost scope.engine (·.note Operation.structSize.name)
  have aborted := @runOn_reserveWords_of_refused β ω allocator (members.length + 1) least sized
    cursor refused
  rw [Variadic.runOn_raising, runOn_newRecord_of_members current unpinned _ has least,
    runOn_bind_of_error aborted]

end Members

/-- `rb_struct_new` reads one value for each member of the class, and makes an instance of them or
raises what the cursor fails with; the engine's "struct size differs" is out of reach.  A word that
is not a Struct class is complained about before an argument is read, unless its text does not end,
and the process aborts if the allocator refuses the table of the call. -/
theorem newRecord_reads_members (reached : (gate.engine scope.engine).host.Reachable)
    (definition : Value) (arguments : List Argument) (allocator : Allocator) :
    let run := (newRecord definition allocator : Variadic β ω Value).raising.runOn
      (.start arguments, gate)
    let host := (gate.engine scope.engine).host
    ((∀ members, ¬ host.HasMembers definition members) →
      (¬ host.Loops definition → ∃ text exception after, host.inspect? definition = some text ∧
        run = (.error (.raised exception), .start arguments,
          gate.changeHost scope.engine fun _ => after) ∧
        host.Gains (.exception ErrorKind.typeError.value (text ++ octets " is not a Struct class"))
          ["rb_struct_size"] exception after) ∧
      (host.Loops definition → run.1 = .error .aborted ∧ run.2.1 = .start arguments)) ∧
    ∀ members, host.HasMembers definition members →
      (host.symbols.size < SymbolTable.capacity →
        8 * (members.length + 1) ≤ Allocation.mostOctets) ∧
      (8 * (members.length + 1) ≤ Allocation.mostOctets →
        ((allocator.allocate? gate.memory (8 * (members.length + 1))).isSome →
          (AreValues arguments members.length → ∃ record cursor after,
            run = (.ok record, cursor, gate.changeHost scope.engine fun _ => after) ∧
            host.Gains
              (.record definition
                ((arguments.take members.length).map fun argument => ⟨argument.word⟩))
              ["rb_struct_size", "rb_struct_new_from_values"] record after ∧
            cursor.rest = arguments.drop members.length ∧ cursor.position = members.length ∧
            cursor.attempts = List.replicate members.length .value) ∧
          (¬ AreValues arguments members.length →
            ∃ index < members.length, ∃ fault, StopsAt arguments index fault ∧
              ∃ exception cursor after,
                run = (.error (.raised exception), cursor,
                  gate.changeHost scope.engine fun _ => after) ∧
                host.Gains (.exception ErrorKind.argumentError.value fault.message)
                  ["rb_struct_size"] exception after ∧
                cursor.rest = arguments.drop (index + 1) ∧ cursor.position = index ∧
                cursor.attempts = List.replicate (index + 1) .value)) ∧
        (allocator.allocate? gate.memory (8 * (members.length + 1)) = none →
          run.1 = .error .aborted ∧ run.2.1 = .start arguments)) ∧
      ∀ later fields, host.Leads later → fields.length = members.length →
        ∃ record after,
          later.invoke "rb_struct_new_from_values" (definition :: fields) =
            (.value record, after) := by
  intro run host
  constructor
  · intro stranger
    constructor
    · intro straight
      obtain ⟨text, written⟩ :=
        Option.isSome_iff_exists.mp (Host.inspect?_isSome_of_straight straight)
      exact ⟨text, _, _, written, runOn_newRecord_of_refusal current unpinned _
        (Host.invoke_structSize_of_stranger stranger written), host.note_create_gains _ _⟩
    · intro loops
      have endless := (Host.inspect?_eq_none_iff reached.sound).mpr loops
      have ran : run = _ := runOn_newRecord_of_endless current unpinned _
        (Host.invoke_structSize_of_endless stranger endless)
      rw [ran]
      exact ⟨rfl, rfl⟩
  · intro members has
    refine ⟨fun few => least_of_members reached few has, fun least => ⟨fun granted => ⟨?_, ?_⟩, ?_⟩,
      fun later fields leads length => ?_⟩
    · intro values
      exact ⟨_, _, _, runOn_newRecord_of_values current unpinned has least granted values,
        (Host.note_create_gains _ _ _).of_note, rfl, Nat.zero_add _, List.nil_append _⟩
    · intro missing
      obtain ⟨index, less, fault, stops⟩ := Cursor.exists_stopsAt missing
      obtain ⟨cursor, ran, left⟩ :=
        runOn_newRecord_of_stop current unpinned has least granted stops less
      exact ⟨index, less, fault, stops, _, cursor, _, ran, host.note_create_gains _ _, left⟩
    · intro refused
      have ran : run = _ := runOn_newRecord_of_no_memory current unpinned has least _ refused
      rw [ran]
      exact ⟨rfl, rfl⟩
    · exact ⟨_, _, (has.leads leads).invoke_structNew length⟩

end Current

theorem newRecord_reads_members_two :
    ∃ (gate : Gate Unit Unit) (host : Host) (definition : Value) (x y : Id),
      gate.Routes host ∧ host.Reachable ∧ host.HasMembers definition [x, y] ∧
      (∃ record cursor after, (newRecord definition).raising.runOn
          (.start [.value (.fixnum 7), .null, .integer 5], gate) =
            (.ok record, cursor, gate.changeHost 0 fun _ => after) ∧
        after.objects.get? record = some (.record definition [.fixnum 7, .no]) ∧
        cursor.rest = [.integer 5]) ∧
      (∃ exception cursor after, (newRecord definition).raising.runOn
          (.start [.value (.fixnum 7)], gate) =
            (.error (.raised exception), cursor, gate.changeHost 0 fun _ => after) ∧
        after.log = host.log ++ ["rb_struct_size"] ∧ cursor.attempts = [.value, .value]) ∧
      ∃ exception after, (newRecord .nil).raising.runOn (.start [.null], gate) =
          (.error (.raised exception), .start [.null], gate.changeHost 0 fun _ => after) ∧
        after.objects.get? exception =
          some (.exception ErrorKind.typeError.value (octets "nil is not a Struct class")) := by
  let host := Host.new.actAll
    [.newString (octets "x") .binary, .invoke "rb_intern" [.handle 20],
      .newString (octets "y") .binary, .invoke "rb_intern" [.handle 21],
      .invoke "rb_ary_new_from_values" [.symbol 1, .symbol 2],
      .invoke "rb_struct_define" [.nil, .handle 22]]
  let gate : Gate Unit Unit := Gate.changeHost (.installed ()) 0 fun _ => host
  have made : host.objects.classDef? (.handle 23) = some
      { name := none
        superclass := some Builtin.struct.value
        kind := .record
        members := [1, 2] } := by
    decide +kernel
  have reached : host.Reachable := ⟨_, rfl⟩
  have has : host.HasMembers (.handle 23) [1, 2] := ⟨_, made, rfl, rfl⟩
  have room : host.objects.size < ObjectTable.capacity := by decide
  have hosted : (gate.engine 0).host = host := by rw [Gate.engine_changeHost]
  have current : gate.context.current? = some { engine := 0, settings := {} } := rfl
  have unpinned : (gate.engine 0).pinned = [] := by
    rw [Gate.pinned_changeHost]
    rfl
  have vacant : gate.memory = {} := rfl
  clear_value gate host
  subst hosted
  have granted : (Allocator.sequential.allocate? gate.memory (8 * ([1, 2].length + 1))).isSome := by
    rw [vacant]
    decide
  have of := newRecord_reads_members current unpinned reached
  refine ⟨gate, _, .handle 23, 1, 2, ⟨_, current, rfl, unpinned⟩, reached, has, ?_, ?_, ?_⟩
  · obtain ⟨-, members⟩ := of (.handle 23) [.value (.fixnum 7), .null, .integer 5] .sequential
    obtain ⟨record, cursor, after, ran, gains, rest, -⟩ :=
      (((members [1, 2] has).2.1 (by decide)).1 granted).1 ⟨by decide, by decide⟩
    exact ⟨record, cursor, after, ran, gains.stored room, rest⟩
  · obtain ⟨-, members⟩ := of (.handle 23) [.value (.fixnum 7)] .sequential
    have few : ¬ AreValues [.value (.fixnum 7)] 2 := fun values => absurd values.1 (by decide)
    have most : AreValues [.value (.fixnum 7)] 1 := ⟨by decide, by decide⟩
    obtain ⟨index, less, fault, stops, exception, cursor, after, ran, gains, -, -, attempts⟩ :=
      (((members [1, 2] has).2.1 (by decide)).1 granted).2 few
    have second : index = 1 :=
      Nat.le_antisymm (Nat.le_of_lt_succ less) (stops.areValues_iff.mp most)
    refine ⟨exception, cursor, after, ran, ?_, ?_⟩
    · rw [gains.unchanged]
    · rw [attempts, second]
      rfl
  · obtain ⟨strangers, -⟩ := of .nil [.null] .sequential
    have noObject : (gate.engine 0).host.objects.get? .nil = none := rfl
    have stranger (members : List Id) : ¬ (gate.engine 0).host.HasMembers .nil members := by
      rintro ⟨c, found, -⟩
      rw [ObjectTable.classDef?_eq_some_iff, noObject] at found
      cases found
    have straight : ¬ (gate.engine 0).host.Loops .nil := by
      intro loops
      obtain ⟨_, ⟨_, found, _⟩, _⟩ := loops.next
      rw [noObject] at found
      cases found
    obtain ⟨text, exception, after, written, ran, gains⟩ := (strangers stranger).1 straight
    have isNil : (gate.engine 0).host.inspect? .nil = some (octets "nil") := by
      rw [Host.inspect?, Host.inspectWithin]
      rfl
    rw [isNil] at written
    cases written
    exact ⟨exception, after, ran, gains.stored room⟩

/-- The text of an array that holds itself does not end, so `rb_struct_new` cannot complain about
it. Nor does the call return if the allocator refuses the table, although all of the fields can be
read. -/
theorem newRecord_aborts :
    (∃ (gate : Gate Unit Unit) (host : Host) (read : Cursor),
      (newArray 1).raising.runOn (.start [.value (.handle 20)], .installed ()) =
        (.ok (.handle 20), read, gate) ∧
      gate.Routes host ∧ host.Reachable ∧
      (∀ members, ¬ host.HasMembers (.handle 20) members) ∧
      ((newRecord (.handle 20)).raising.runOn (.start [], gate)).1 = .error .aborted) ∧
    ∀ (allocator : Allocator) (count : Nat), count < SymbolTable.capacity →
      allocator.allocate? {} (8 * (count + 1)) = none →
      ∃ (gate : Gate Unit Unit) (host : Host) (definition : Value) (members : List Id),
        gate.Routes host ∧ host.Reachable ∧ host.HasMembers definition members ∧
        members.length = count ∧
        let arguments := List.replicate count .null
        AreValues arguments count ∧
        ((newRecord definition allocator).raising.runOn (.start arguments, gate)).1 =
          .error .aborted := by
  constructor
  · let host := Host.new.actAll [.invoke "rb_ary_new_from_values" [.handle 20]]
    obtain ⟨gate, read, made, current, unpinned, hosted⟩ :
        ∃ (gate : Gate Unit Unit) (read : Cursor),
          (newArray 1).raising.runOn (.start [.value (.handle 20)], .installed ()) =
            (.ok (.handle 20), read, gate) ∧
          gate.context.current? = some { engine := 0, settings := {} } ∧
          (gate.engine 0).pinned = [] ∧ (gate.engine 0).host = host := ⟨_, _, rfl, rfl, rfl, rfl⟩
    have stored : host.objects.get? (.handle 20) = some (.array [.handle 20]) := rfl
    have reached : host.Reachable := ⟨_, rfl⟩
    have stranger (members : List Id) : ¬ host.HasMembers (.handle 20) members := by
      rintro ⟨c, found, -⟩
      rw [ObjectTable.classDef?_eq_some_iff, stored] at found
      cases found
    have loops : host.Loops (.handle 20) :=
      ⟨.handle 20, .refl, .single ⟨_, stored, List.mem_singleton_self _⟩⟩
    have endless := Host.invoke_structSize_of_endless stranger
      ((Host.inspect?_eq_none_iff reached.sound).mpr loops)
    rw [← hosted] at endless
    have ran := @runOn_newRecord_of_endless Unit Unit gate _ current unpinned (.handle 20)
      .sequential (.start []) _ endless
    exact ⟨gate, host, read, made, ⟨_, current, hosted, unpinned⟩, reached, stranger,
      congrArg Prod.fst ran⟩
  · intro allocator count few refused
    let names : List Bytes := (List.range count).map fun n => List.replicate n 0x78
    have length : names.length = count := by rw [List.length_map, List.length_range]
    have distinct : names.Nodup :=
      List.nodup_range.map fun m n same => by simpa using congrArg List.length same
    obtain ⟨host, definition, members, reached, has, same⟩ :=
      Host.exists_hasMembers distinct (by rw [length]; exact few)
    have many : members.length = count := same.trans length
    let gate : Gate Unit Unit := Gate.changeHost (.installed ()) 0 fun _ => host
    have hosted : (gate.engine 0).host = host := by rw [Gate.engine_changeHost]
    have current : gate.context.current? = some { engine := 0, settings := {} } := rfl
    have unpinned : (gate.engine 0).pinned = [] := by
      rw [Gate.pinned_changeHost]
      rfl
    have values : AreValues (List.replicate count .null) count := by
      refine ⟨(List.length_replicate ..).ge, fun argument member => ?_⟩
      rw [List.eq_of_mem_replicate (List.mem_of_mem_take member)]
      rfl
    have least : 8 * (members.length + 1) ≤ Allocation.mostOctets := by
      rw [many]
      unfold SymbolTable.capacity at few
      unfold Allocation.mostOctets
      omega
    have has' := has
    rw [← hosted] at has'
    rw [← many] at refused
    have ran := runOn_newRecord_of_no_memory current unpinned has' least
      (.start (List.replicate count .null)) refused
    exact ⟨gate, host, definition, members, ⟨_, current, hosted, unpinned⟩, reached, has, many,
      values, congrArg Prod.fst ran⟩

end Records

end NativeGate
