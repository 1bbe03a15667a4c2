import NativeGate.Proofs.Host.Run

namespace NativeGate

theorem ErrorKind.ofClass?_value (kind : ErrorKind) : ofClass? kind.value = some kind := by
  cases kind <;> decide

namespace Host

theorem carryOut_objects_extend (host : Host) (effect : Effect) :
    host.objects.Extends (host.carryOut effect).2.objects := by
  cases effect with
  | nameString id => exact ObjectTable.extends_add _ _
  | create object => exact ObjectTable.extends_add _ _
  | freeze string => exact ObjectTable.extends_freeze _ string
  | classify string => exact ObjectTable.extends_classify _ string
  | define definition binding =>
      cases binding with
      | none => exact ObjectTable.extends_add _ _
      | some binding =>
          exact (ObjectTable.extends_add _ _).trans (ObjectTable.extends_bind _ _ _ _)
  | _ => exact .refl _

theorem newException_objects_extend (host : Host) (kind : ErrorKind) (message : Bytes) :
    host.objects.Extends (host.newException kind message).2.objects := by
  unfold newException
  split
  · exact .refl _
  · exact ObjectTable.extends_add _ _

theorem Move.objects_extend {host after : Host} (move : host.Move after) :
    host.objects.Extends after.objects := by
  cases move with
  | aside objects _ =>
      rw [objects]
      exact .refl _
  | effect justified => exact carryOut_objects_extend host _
  | exception kind message => exact newException_objects_extend host kind message

theorem carryOut_size_le (host : Host) (effect : Effect) :
    (host.carryOut effect).2.objects.size ≤ host.objects.size + 1 := by
  cases effect with
  | nameString id => exact Nat.le_of_eq (ObjectTable.size_add _ _)
  | create object => exact Nat.le_of_eq (ObjectTable.size_add _ _)
  | freeze string =>
      exact Nat.le_succ_of_le (Nat.le_of_eq (ObjectTable.size_modify _ _ _))
  | classify string =>
      exact Nat.le_succ_of_le (Nat.le_of_eq (ObjectTable.size_modify _ _ _))
  | define definition binding =>
      cases binding with
      | none => exact Nat.le_of_eq (ObjectTable.size_add _ _)
      | some binding =>
          refine Nat.le_of_eq ((ObjectTable.size_modify _ _ _).trans ?_)
          exact ObjectTable.size_add _ _
  | _ => exact Nat.le_succ _

theorem newException_size_le (host : Host) (kind : ErrorKind) (message : Bytes) :
    (host.newException kind message).2.objects.size ≤ host.objects.size + 1 := by
  unfold newException
  split
  · exact Nat.le_succ _
  · exact Nat.le_of_eq (ObjectTable.size_add _ _)

theorem complain_size_le {α : Type} (host : Host) (complaint : Complaint) :
    (host.complain (α := α) complaint).2.objects.size ≤ host.objects.size + 1 := by
  cases complaint with
  | raise kind message => exact host.newException_size_le kind message
  | outOfMemory => exact Nat.le_succ _
  | endless => exact Nat.le_succ _

theorem invoke_size_le (host : Host) (name : String) (args : List Value) :
    (host.invoke name args).2.objects.size ≤ host.objects.size + 1 := by
  unfold invoke
  cases Operation.ofName? name with
  | none => exact complain_size_le _ _
  | some op =>
      dsimp only
      unfold perform
      cases (host.note name).plan op args with
      | ok effect => exact carryOut_size_le (host.note name) effect
      | error complaint => exact complain_size_le _ complaint

theorem isFrozen_of_string {host : Host} {v : Value} {s : ManagedString}
    (found : host.objects.get? v = some (.string s)) : host.isFrozen v = s.frozen := by
  simp [isFrozen, ObjectTable.string?, found]

theorem append_refused {host : Host} {string : Value}
    (frozen : ∀ s, host.objects.get? string = some (.string s) → s.frozen = true)
    (more : Bytes) : host.append string more = (false, host) := by
  unfold append ObjectTable.string?
  split
  next s isString =>
    split at isString
    next content found =>
      cases isString
      rw [if_pos (frozen s found)]
    next => cases isString
  next => rfl

theorem append_of_frozen {host : Host} {string : Value} (frozen : host.isFrozen string = true)
    (more : Bytes) : host.append string more = (false, host) := by
  refine append_refused ?_ more
  intro s found
  rw [← isFrozen_of_string found]
  exact frozen

theorem append_of_thawed {host : Host} {string : Value} {s : ManagedString}
    (found : host.objects.get? string = some (.string s)) (thawed : s.frozen = false)
    (more : Bytes) :
    (host.append string more).1 = true ∧
      (host.append string more).2.objects.get? string = some (.string (s.appended more)) := by
  have isString : host.objects.string? string = some s := by
    simp [ObjectTable.string?, found]
  simp [append, isString, thawed, ObjectTable.modifyString, ObjectTable.get?_modify, found]

theorem append_get?_of_ne (host : Host) {string v : Value} (other : v ≠ string) (more : Bytes) :
    (host.append string more).2.objects.get? v = host.objects.get? v := by
  unfold append
  split
  · split
    · rfl
    · exact (ObjectTable.get?_modify _ _ _ _).trans (if_neg other)
  · rfl

theorem append_size (host : Host) (string : Value) (more : Bytes) :
    (host.append string more).2.objects.size = host.objects.size := by
  unfold append
  split
  · split
    · rfl
    · exact ObjectTable.size_modify _ _ _
  · rfl

/-- What an action appends to an object; nothing is appended to a frozen one. -/
def appendedNow (host : Host) (v : Value) : Action → Bytes
  | .append string more => if string = v ∧ host.isFrozen v = false then more else []
  | _ => []

def appendedTo (host : Host) (v : Value) : List Action → Bytes
  | [] => []
  | action :: rest => host.appendedNow v action ++ (host.act action).appendedTo v rest

theorem append_becomes (host : Host) (string : Value) (more : Bytes) {v : Value} {object : Object}
    (found : host.objects.get? v = some object) :
    ∃ object', (host.append string more).2.objects.get? v = some object' ∧
      object.Becomes (host.appendedNow v (.append string more)) object' := by
  by_cases target : string = v
  · subst string
    by_cases isString : ∃ s, object = .string s
    · obtain ⟨s, rfl⟩ := isString
      have flag := isFrozen_of_string found
      cases frozen : s.frozen with
      | true =>
          rw [frozen] at flag
          rw [append_of_frozen flag more]
          simp only [appendedNow, flag]
          exact ⟨.string s, found, .refl _⟩
      | false =>
          rw [frozen] at flag
          simp only [appendedNow, flag]
          refine ⟨_, (append_of_thawed found frozen more).2, .string rfl rfl ?_ ?_⟩ <;>
            simp [frozen]
    · have onlyFrozen (s : ManagedString)
          (other : host.objects.get? v = some (.string s)) : s.frozen = true :=
        absurd ⟨s, Option.some.inj (found.symm.trans other)⟩ isString
      rw [append_refused onlyFrozen more]
      exact ⟨object, found, .of_not_string (fun s same => isString ⟨s, same⟩)⟩
  · have nothing : host.appendedNow v (.append string more) = [] :=
      if_neg fun both => target both.1
    rw [append_get?_of_ne host (Ne.symm target), nothing]
    exact ⟨object, found, .refl object⟩

theorem Leads.objects_grow {host later : Host} (leads : host.Leads later) :
    host.objects.size ≤ later.objects.size := by
  refine Leads.lift (R := fun host later => host.objects.size ≤ later.objects.size)
    (fun _ => Nat.le_refl _) Nat.le_trans (fun move => move.objects_extend.size_le) ?_ leads
  intro host string more
  exact Nat.le_of_eq (append_size host string more).symm

theorem act_becomes (host : Host) (action : Action) {v : Value} {object : Object}
    (found : host.objects.get? v = some object) :
    ∃ object', (host.act action).objects.get? v = some object' ∧
      object.Becomes (host.appendedNow v action) object' := by
  by_cases isAppend : ∃ string more, action = .append string more
  · obtain ⟨string, more, rfl⟩ := isAppend
    exact host.append_becomes string more found
  · have moves := (host.append_or_moves action).resolve_left isAppend
    have extends' := Moves.lift (R := fun host after => host.objects.Extends after.objects)
      (fun _ => .refl _) .trans Move.objects_extend moves
    have nothing : host.appendedNow v action = [] := by
      cases action with
      | append string more => exact absurd ⟨string, more, rfl⟩ isAppend
      | _ => rfl
    rw [nothing]
    exact extends'.object v object found

theorem actAll_becomes {host : Host} (actions : List Action) {v : Value} {object : Object}
    (found : host.objects.get? v = some object) :
    ∃ object', (host.actAll actions).objects.get? v = some object' ∧
      object.Becomes (host.appendedTo v actions) object' := by
  induction actions generalizing host object with
  | nil => exact ⟨object, found, .refl object⟩
  | cons action rest ih =>
      obtain ⟨middle, foundMiddle, turned⟩ := host.act_becomes action found
      obtain ⟨last, foundLast, turned'⟩ := ih foundMiddle
      exact ⟨last, foundLast, turned.trans turned'⟩

theorem Leads.becomes {host later : Host} (leads : host.Leads later) {v : Value} {object : Object}
    (found : host.objects.get? v = some object) :
    ∃ added object', later.objects.get? v = some object' ∧ object.Becomes added object' := by
  obtain ⟨actions, rfl⟩ := leads
  exact ⟨_, actAll_becomes actions found⟩

theorem isFrozen_iff {host : Host} {v : Value} :
    host.isFrozen v = true ↔
      ∃ s, host.objects.get? v = some (.string s) ∧ s.frozen = true := by
  constructor
  · intro frozen
    unfold isFrozen ObjectTable.string? at frozen
    split at frozen
    next s found => exact ⟨s, found, frozen⟩
    next => cases frozen
  · rintro ⟨s, found, frozen⟩
    rw [isFrozen_of_string found]
    exact frozen

theorem Leads.frozen {host later : Host} (leads : host.Leads later) {v : Value}
    (frozen : host.isFrozen v = true) : later.isFrozen v = true := by
  obtain ⟨s, found, isFrozen⟩ := isFrozen_iff.mp frozen
  obtain ⟨added, object', found', turned⟩ := leads.becomes found
  cases turned with
  | string _ _ frozen' _ => exact isFrozen_iff.mpr ⟨_, found', frozen' isFrozen⟩

theorem appendedTo_of_frozen {host : Host} {v : Value} (frozen : host.isFrozen v = true)
    (actions : List Action) : host.appendedTo v actions = [] := by
  induction actions generalizing host with
  | nil => rfl
  | cons action rest ih =>
      have nothing : host.appendedNow v action = [] := by
        unfold appendedNow
        split
        · simp [frozen]
        · rfl
      rw [appendedTo, nothing, ih ((host.leads_act action).frozen frozen)]
      rfl

theorem new_get?_builtin (b : Builtin) :
    new.objects.get? b.value = some (.classDef b.definition) := by
  cases b <;> rfl

theorem new_get?_outOfMemory :
    new.objects.get? outOfMemory =
      some (.exception Builtin.noMemoryError.value outOfMemoryText) := rfl

theorem new_slots_cases {object : Object} (member : object ∈ new.objects.slots) :
    (∃ b : Builtin, object = .classDef b.definition) ∨
      object = .exception Builtin.noMemoryError.value outOfMemoryText := by
  simp only [new, initialObjects, Array.mem_push, List.mem_toArray, List.mem_map] at member
  obtain ⟨b, -, rfl⟩ | rfl := member
  · exact .inl ⟨b, rfl⟩
  · exact .inr rfl

theorem new_get?_cases {v : Value} {object : Object} (found : new.objects.get? v = some object) :
    (∃ b : Builtin, object = .classDef b.definition) ∨
      object = .exception Builtin.noMemoryError.value outOfMemoryText := by
  obtain ⟨position, -, stored⟩ := ObjectTable.get?_eq_some_iff.mp found
  exact new_slots_cases (Array.mem_of_getElem? stored)

theorem Reachable.builtin {host : Host} (reached : host.Reachable) (b : Builtin) :
    ∃ c, host.objects.get? b.value = some (.classDef c) ∧ c.name = b.definition.name ∧
      c.superclass = b.definition.superclass ∧ c.kind = b.definition.kind ∧
      c.members = b.definition.members := by
  obtain ⟨_, _, found, turned⟩ := Leads.becomes reached (new_get?_builtin b)
  cases turned with
  | classDef name superclass kind members => exact ⟨_, found, name, superclass, kind, members⟩

theorem Reachable.outOfMemory {host : Host} (reached : host.Reachable) :
    host.objects.get? outOfMemory =
      some (.exception Builtin.noMemoryError.value outOfMemoryText) := by
  obtain ⟨_, _, found, turned⟩ := Leads.becomes reached new_get?_outOfMemory
  cases turned with
  | exception => exact found

theorem newString_string? {host : Host} (room : host.objects.size < ObjectTable.capacity)
    (bytes : Bytes) (encoding : Encoding) :
    (host.newString bytes encoding).2.objects.string? (host.newString bytes encoding).1 =
      some { bytes, encoding } := by
  have stored : (host.newString bytes encoding).2.objects.get? (host.newString bytes encoding).1 =
      some (.string { bytes, encoding }) := ObjectTable.get?_add_self room _
  rw [ObjectTable.string?, stored]

theorem exceptionKind?_of_get? {host : Host} {v : Value} {kind : ErrorKind} {message : Bytes}
    (found : host.objects.get? v = some (.exception kind.value message)) :
    host.exceptionKind? v = some kind := by
  simp [exceptionKind?, ObjectTable.exception?, found, ErrorKind.ofClass?_value]

theorem newException_get? {host : Host} (room : host.objects.size < ObjectTable.capacity)
    {kind : ErrorKind} (other : kind ≠ .noMemoryError) (message : Bytes) :
    (host.newException kind message).2.objects.get? (host.newException kind message).1 =
      some (.exception kind.value message) := by
  rw [newException, if_neg other]
  exact ObjectTable.get?_add_self room _

theorem newException_kind {host later : Host} (reached : host.Reachable)
    (room : host.objects.size < ObjectTable.capacity) (kind : ErrorKind) (message : Bytes)
    (leads : (host.newException kind message).2.Leads later) :
    later.exceptionKind? (host.newException kind message).1 = some kind := by
  have found : ∃ shown,
      (host.newException kind message).2.objects.get? (host.newException kind message).1 =
        some (.exception kind.value shown) := by
    by_cases same : kind = .noMemoryError
    · subst same
      exact ⟨outOfMemoryText, reached.outOfMemory⟩
    · exact ⟨message, newException_get? room same message⟩
  obtain ⟨shown, found⟩ := found
  obtain ⟨_, _, found', turned⟩ := leads.becomes found
  cases turned with
  | exception => exact exceptionKind?_of_get? found'

/-- Handles never go bad, never come to mean another object, and never share one.  An object changes
only as its kind allows, and a string only by what is appended to it. -/
theorem objects_of_run {host : Host} (reached : host.Reachable) (actions : List Action)
    (few : (host.actAll actions).objects.size < ObjectTable.capacity) :
    host.objects.size ≤ (host.actAll actions).objects.size ∧
    (∀ index < host.objects.size,
      ∃ object, host.objects.get? (.handle (UInt64.ofNat index)) = some object) ∧
    (∀ object, (host.create object).1 = .handle (UInt64.ofNat host.objects.size) ∧
      host.objects.get? (host.create object).1 = none ∧
      (host.create object).2.objects.get? (host.create object).1 = some object) ∧
    (∀ v object, host.objects.get? v = some object →
      ∃ object', (host.actAll actions).objects.get? v = some object' ∧
        object.Becomes (host.appendedTo v actions) object') ∧
    (∀ v more, host.isFrozen v = true → host.append v more = (false, host) ∧
      host.appendedTo v actions = [] ∧ (host.actAll actions).isFrozen v = true) ∧
    (∀ v more s, host.objects.get? v = some (.string s) → s.frozen = false →
      (host.append v more).1 = true ∧
        (host.append v more).2.objects.get? v = some (.string (s.appended more))) ∧
    (∀ v more other, other ≠ v →
      (host.append v more).2.objects.get? other = host.objects.get? other) ∧
    (∀ b : Builtin, ∃ c, host.objects.get? (.handle (UInt64.ofNat b.ctorIdx)) =
        some (.classDef c) ∧ c.name = b.definition.name ∧
      c.superclass = b.definition.superclass ∧ c.kind = b.definition.kind ∧
      c.members = b.definition.members) ∧
    host.objects.get? (.handle 19) =
      some (.exception Builtin.noMemoryError.value outOfMemoryText) ∧
    ∀ kind message later, (host.newException kind message).2.Leads later →
      later.exceptionKind? (host.newException kind message).1 = some kind := by
  have grown : host.objects.size ≤ (host.actAll actions).objects.size :=
    Leads.objects_grow ⟨actions, rfl⟩
  have room := Nat.lt_of_le_of_lt grown few
  refine ⟨grown, ?_, ?_, fun v object => actAll_becomes actions, ?_, ?_, ?_, reached.builtin,
    reached.outOfMemory, ?_⟩
  · intro index inside
    exact ObjectTable.get?_handle inside (Nat.lt_trans inside room)
  · intro object
    exact ⟨rfl, ObjectTable.get?_add_fresh room object, ObjectTable.get?_add_self room object⟩
  · intro v more frozen
    exact ⟨append_of_frozen frozen more, appendedTo_of_frozen frozen actions,
      Leads.frozen ⟨actions, rfl⟩ frozen⟩
  · intro v more s found thawed
    exact append_of_thawed found thawed more
  · intro v more other distinct
    exact host.append_get?_of_ne distinct more
  · intro kind message later leads
    exact newException_kind reached room kind message leads

theorem objects_of_run_frozen :
    ∃ s, ((new.act (.newString (octets "ab") .utf8)).actAll
        [.append (.handle 20) (octets "cd"), .append (.handle 3) (octets "gh"),
          .invoke "rb_str_freeze" [.handle 20],
          .append (.handle 20) (octets "ef")]).objects.get? (.handle 20) = some (.string s) ∧
      s.bytes = octets "abcd" := by
  obtain ⟨_, _, _, becomes, _⟩ :=
    objects_of_run (new.leads_act (.newString (octets "ab") .utf8))
      [.append (.handle 20) (octets "cd"), .append (.handle 3) (octets "gh"),
        .invoke "rb_str_freeze" [.handle 20], .append (.handle 20) (octets "ef")] (by decide)
  obtain ⟨object, found, turned⟩ :=
    becomes (.handle 20) (.string { bytes := octets "ab", encoding := .utf8 }) rfl
  cases turned with
  | string bytes => exact ⟨_, found, bytes⟩

end Host

end NativeGate
