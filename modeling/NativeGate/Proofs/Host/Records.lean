import NativeGate.Proofs.Host.Objects
import NativeGate.Proofs.Host.Symbols

namespace NativeGate

structure ClassDef.Sound (host : Host) (v : Value) (c : ClassDef) : Prop where
  distinct : c.members.Nodup
  known : ∀ id ∈ c.members, (host.symbols.entry? id).isSome
  record : c.kind = .record → c.superclass = some Builtin.struct.value
  /-- The superclass of a data class is older, and its members come first. -/
  data : c.kind = .data → ∃ parent base, c.superclass = some parent ∧
    host.objects.classDef? parent = some base ∧
    (parent = Builtin.data.value ∨ base.kind = .data) ∧ parent.bits < v.bits ∧
    base.members <+: c.members

namespace Object

def Fits (host : Host) (definition : Value) (fields : List Value) : Prop :=
  ∃ c, host.objects.classDef? definition = some c ∧ c.kind = .record ∧
    c.members.length = fields.length

def Sound (host : Host) (v : Value) : Object → Prop
  | .classDef c => c.Sound host v
  | .record definition fields => Fits host definition fields
  | .exception definition _ => ∃ kind : ErrorKind, definition = kind.value
  | .string _ | .array _ => True

def Made (host : Host) : Object → Prop
  | .classDef c => c.Made host
  | .record definition fields => Fits host definition fields
  | .exception definition _ => ∃ kind : ErrorKind, definition = kind.value
  | .string _ | .array _ => True

end Object

namespace Host

def Sound (host : Host) : Prop :=
  ∀ v object, host.objects.get? v = some object → object.Sound host v

/-- No object is lost, and no symbol. -/
structure Keeps (host after : Host) : Prop where
  object : ∀ v object, host.objects.get? v = some object →
    ∃ added object', after.objects.get? v = some object' ∧ object.Becomes added object'
  symbols : host.symbols.Extends after.symbols

end Host

section Kept

variable {host after : Host} (keeps : host.Keeps after)

include keeps

theorem Host.Keeps.classDef {v : Value} {c : ClassDef}
    (found : host.objects.classDef? v = some c) :
    ∃ c', after.objects.classDef? v = some c' ∧ c'.kind = c.kind ∧ c'.members = c.members := by
  rw [ObjectTable.classDef?_eq_some_iff] at found
  obtain ⟨_, _, found', turned⟩ := keeps.object v _ found
  cases turned with
  | classDef _ _ kind members =>
      exact ⟨_, ObjectTable.classDef?_eq_some_iff.mpr found', kind, members⟩

theorem ClassDef.Sound.kept {v : Value} {c c' : ClassDef} (sound : c.Sound host v)
    (superclass : c'.superclass = c.superclass) (kind : c'.kind = c.kind)
    (members : c'.members = c.members) : c'.Sound after v where
  distinct := by
    rw [members]
    exact sound.distinct
  known := by
    intro id member
    rw [members] at member
    obtain ⟨entry, found⟩ := Option.isSome_iff_exists.mp (sound.known id member)
    obtain ⟨entry', found', _⟩ := keeps.symbols.entry id entry found
    exact Option.isSome_iff_exists.mpr ⟨entry', found'⟩
  record := by
    rw [superclass, kind]
    exact sound.record
  data := by
    rw [superclass, kind, members]
    intro isData
    obtain ⟨parent, base, inherits, found, extensible, older, first⟩ := sound.data isData
    obtain ⟨base', found', sameKind, sameMembers⟩ := keeps.classDef found
    rw [← sameKind] at extensible
    rw [← sameMembers] at first
    exact ⟨parent, base', inherits, found', extensible, older, first⟩

theorem Object.Sound.kept {v : Value} {added : Bytes} {object object' : Object}
    (sound : object.Sound host v) (turned : object.Becomes added object') :
    object'.Sound after v := by
  cases turned with
  | classDef _ superclass kind members =>
      exact ClassDef.Sound.kept keeps sound superclass kind members
  | record definition fields =>
      obtain ⟨c, found, isRecord, length⟩ := sound
      obtain ⟨c', found', kind, members⟩ := keeps.classDef found
      rw [← kind] at isRecord
      rw [← members] at length
      exact ⟨c', found', isRecord, length⟩
  | exception => exact sound
  | string | array => trivial

theorem Host.Sound.grow (sound : host.Sound)
    (origin : ∀ v object', after.objects.get? v = some object' →
      (∃ object, host.objects.get? v = some object) ∨
        ∃ object : Object, object.Sound host v ∧ object.Becomes [] object') : after.Sound := by
  intro v object' found'
  obtain ⟨object, found⟩ | ⟨object, isSound, turned⟩ := origin v object' found'
  · obtain ⟨_, kept, foundKept, turned⟩ := keeps.object v object found
    rw [found'] at foundKept
    cases foundKept
    exact (sound v object found).kept keeps turned
  · exact isSound.kept keeps turned

end Kept

namespace Host

theorem Sound.made {host : Host} (sound : host.Sound) {v : Value}
    (newest : v.bits.toNat = (host.objects.size + 8) * 8) {object : Object}
    (made : object.Made host) : object.Sound host v := by
  cases object with
  | record definition fields | exception definition message => exact made
  | string | array => trivial
  | classDef c =>
      cases made with
      | plain name superclass =>
          exact ⟨List.nodup_nil, nofun, nofun, nofun⟩
      | record name distinct known =>
          exact ⟨distinct, known, fun _ => rfl, nofun⟩
      | @data parent base own found extensible distinct known =>
          have isClass := ObjectTable.classDef?_eq_some_iff.mp found
          have inherited : base.Sound host parent := sound parent (.classDef base) isClass
          refine ⟨distinct inherited.distinct, ?_, nofun, fun _ => ?_⟩
          · intro id member
            obtain old | own := List.mem_append.mp member
            · exact inherited.known id old
            · exact known id own
          · obtain ⟨position, bits, stored⟩ := ObjectTable.get?_eq_some_iff.mp isClass
            have inside : position < host.objects.size := (Array.getElem?_eq_some_iff.mp stored).1
            have older : parent.bits < v.bits := UInt64.lt_iff_toNat_lt.mpr (by omega)
            exact ⟨parent, base, rfl, found, extensible, older, List.prefix_append _ _⟩

/-- Objects are old, or made by this move. -/
def Origin (host : Host) (v : Value) (object' : Object) : Prop :=
  (∃ object, host.objects.get? v = some object) ∨
    v.bits.toNat = (host.objects.size + 8) * 8 ∧
      ∃ object : Object, object.Made host ∧ object.Becomes [] object'

section Origins

variable {host : Host} {v : Value} {object' : Object}

theorem origin_add {object : Object} (made : object.Made host)
    (found : (host.objects.add object).2.get? v = some object') : host.Origin v object' := by
  obtain old | ⟨newest, rfl⟩ := (ObjectTable.get?_add ..).mp found
  · exact .inl ⟨_, old⟩
  · exact .inr ⟨newest, object, made, .refl object⟩

theorem origin_modify {w : Value} {change : Object → Object}
    (found : (host.objects.modify w change).get? v = some object') : host.Origin v object' := by
  obtain ⟨object, stored, -⟩ := ObjectTable.get?_modify_cases found
  exact .inl ⟨object, stored⟩

theorem Origin.trans {object'' : Object} (origin : host.Origin v object')
    (turned : object'.Becomes [] object'') : host.Origin v object'' := by
  obtain old | ⟨newest, object, made, before⟩ := origin
  · exact .inl old
  · exact .inr ⟨newest, object, made, before.trans turned⟩

end Origins

theorem newException_origin {host : Host} {kind : ErrorKind} {message : Bytes} {v : Value}
    {object' : Object}
    (found : (host.newException kind message).2.objects.get? v = some object') :
    host.Origin v object' := by
  unfold newException at found
  split at found
  · exact .inl ⟨object', found⟩
  · refine origin_add ?_ found
    exact ⟨kind, rfl⟩

theorem defineClassDef_origin {host : Host} {definition : ClassDef} (made : definition.Made host)
    {binding : Option (Value × Bytes)} {v : Value} {object' : Object}
    (found : (host.defineClassDef definition binding).2.objects.get? v = some object') :
    host.Origin v object' := by
  have isMade : (Object.classDef definition).Made host := made
  cases binding with
  | none => exact origin_add isMade found
  | some binding =>
      obtain ⟨scope, name⟩ := binding
      obtain ⟨object, stored, -⟩ := ObjectTable.get?_modify_cases found
      obtain ⟨bound, foundBound, turned⟩ :=
        (ObjectTable.extends_bind _ scope name _).object v object stored
      have same : object' = bound := Option.some.inj (found.symm.trans foundBound)
      subst same
      exact (origin_add isMade stored).trans turned

theorem Move.origin {host after : Host} (move : host.Move after) {v : Value} {object' : Object}
    (found : after.objects.get? v = some object') : host.Origin v object' := by
  cases move with
  | aside objects _ =>
      rw [objects] at found
      exact .inl ⟨object', found⟩
  | exception kind message => exact newException_origin found
  | effect justified =>
      cases justified with
      | nameString _ _ | string _ _ | array _ =>
          refine origin_add ?_ found
          trivial
      | record isClass isRecord length =>
          refine origin_add ?_ found
          exact ⟨_, isClass, isRecord, length.symm⟩
      | freeze string | classify string => exact origin_modify found
      | define binding made => exact defineClassDef_origin made found
      | _ => exact .inl ⟨object', found⟩

theorem Move.sound {host after : Host} (move : host.Move after) (sound : host.Sound) :
    after.Sound := by
  have keeps : host.Keeps after :=
    ⟨fun v object found => ⟨[], move.objects_extend.object v object found⟩, move.symbols_extend⟩
  apply sound.grow keeps
  intro v object' found
  obtain old | ⟨newest, object, made, turned⟩ := move.origin found
  · exact .inl old
  · exact .inr ⟨object, sound.made newest made, turned⟩

theorem append_sound {host : Host} (sound : host.Sound) (string : Value) (more : Bytes) :
    (host.append string more).2.Sound := by
  have keeps : host.Keeps (host.append string more).2 := by
    refine ⟨fun v object found => ⟨_, host.append_becomes string more found⟩, ?_⟩
    rw [append_symbols]
    exact .refl _
  apply sound.grow keeps
  intro v object' found
  unfold append at found
  split at found
  · split at found
    · exact .inl ⟨object', found⟩
    · obtain ⟨object, stored, -⟩ := ObjectTable.get?_modify_cases found
      exact .inl ⟨object, stored⟩
  · exact .inl ⟨object', found⟩

theorem new_sound : new.Sound := by
  intro v object found
  obtain ⟨b, rfl⟩ | rfl := new_get?_cases found
  · refine ⟨List.nodup_nil, nofun, ?_, ?_⟩ <;> cases b <;> nofun
  · exact ⟨.noMemoryError, rfl⟩

theorem Reachable.sound {host : Host} (reached : host.Reachable) : host.Sound :=
  Leads.preserve Move.sound append_sound reached new_sound

theorem members?_of_known {host : Host} {v : Value} {c : ClassDef}
    (found : host.objects.classDef? v = some c)
    (known : ∀ id ∈ c.members, (host.symbols.entry? id).isSome) :
    host.members? v = some (c.members.map fun id => Utf8.lossy (host.symbolName id)) := by
  have named : c.members.filterMap host.symbols.name? = c.members.map host.symbolName := by
    apply List.filterMap_eq_map_iff_forall_eq_some.mpr
    intro id member
    obtain ⟨entry, stored⟩ := Option.isSome_iff_exists.mp (known id member)
    simp [symbolName, SymbolTable.name?, stored]
  rw [members?, found, Option.map_some, named, List.map_map]
  rfl

/-- Whatever words operations are given: the members of a class are different symbols, a class has
the members of the one it extends in front of its own, and instances have a field for each. -/
theorem records_of_run {host : Host} (reached : host.Reachable) :
    (∀ v c, host.objects.classDef? v = some c →
      c.members.Nodup ∧ (∀ id ∈ c.members, (host.symbols.entry? id).isSome) ∧
      host.members? v = some (c.members.map fun id => Utf8.lossy (host.symbolName id)) ∧
      (c.kind = .record → c.superclass = some Builtin.struct.value) ∧
      (c.kind = .data → ∃ parent base, c.superclass = some parent ∧
        host.objects.classDef? parent = some base ∧
        (parent = Builtin.data.value ∨ base.kind = .data) ∧ parent.bits < v.bits ∧
        base.members <+: c.members)) ∧
    ∀ v definition fields, host.objects.get? v = some (.record definition fields) →
      ∃ c, host.objects.classDef? definition = some c ∧ c.kind = .record ∧
        c.members.length = fields.length := by
  constructor
  · intro v c found
    have sound : c.Sound host v :=
      reached.sound v (.classDef c) (ObjectTable.classDef?_eq_some_iff.mp found)
    exact ⟨sound.distinct, sound.known, members?_of_known found sound.known, sound.record,
      sound.data⟩
  · intro v definition fields found
    exact reached.sound v (.record definition fields) found

theorem records_of_run_extended :
    ∃ (host : Host) (parent : Value) (base : ClassDef), host.Reachable ∧
      host.superclass? (.handle 25) = some parent ∧ parent.bits < (Value.handle 25).bits ∧
      host.objects.classDef? parent = some base ∧ base.members <+: [1, 2] ∧
      host.members? (.handle 25) = some [octets "x", octets "y"] ∧
      ∃ c, host.objects.classDef? (.handle 26) = some c ∧ c.members.length = 1 := by
  let host := new.actAll
    [.newString (octets "x") .utf8, .invoke "rb_intern" [.handle 20],
      .newString (octets "y") .utf8, .invoke "rb_intern" [.handle 21],
      .invoke "rb_ary_new_from_values" [.symbol 1],
      .invoke "rb_data_define" [.nil, .handle 22],
      .invoke "rb_ary_new_from_values" [.symbol 2],
      .invoke "rb_data_define" [.handle 23, .handle 24],
      .invoke "rb_struct_define" [.nil, .handle 24],
      .invoke "rb_struct_new_from_values" [.handle 26, .fixnum 3]]
  have reached : host.Reachable := ⟨_, rfl⟩
  have extended : host.objects.classDef? (.handle 25) =
      some { name := none, superclass := some (.handle 23), kind := .data, members := [1, 2] } := by
    decide +kernel
  have instance' : host.objects.get? (.handle 27) = some (.record (.handle 26) [.fixnum 3]) := by
    decide +kernel
  obtain ⟨classes, instances⟩ := records_of_run reached
  obtain ⟨-, -, names, -, data⟩ := classes _ _ extended
  obtain ⟨parent, base, inherits, found, -, older, first⟩ := data rfl
  obtain ⟨c, foundRecord, -, length⟩ := instances _ _ _ instance'
  have shown : [1, 2].map (fun id => Utf8.lossy (host.symbolName id)) =
      [octets "x", octets "y"] := by
    decide +kernel
  refine ⟨host, parent, base, reached, ?_, older, found, first, ?_, c, foundRecord, length⟩
  · rw [superclass?, extended]
    exact inherits
  · rw [names]
    exact congrArg some shown

end Host

end NativeGate
