import NativeGate.Proofs.Host.Plan
import NativeGate.Proofs.Object

namespace NativeGate.Host

open NativeGate Planned

/-- Objects are new, operations are noted and these lines are shown; nothing else has happened. -/
structure Adds (lines : List Bytes) (before after : Host) : Prop where
  objects : ∃ added, after.objects.slots = before.objects.slots ++ added
  log : ∃ names, after.log = before.log ++ names
  warnings : after.warnings = before.warnings ++ lines
  symbols : after.symbols = before.symbols
  verbose : after.verbose = before.verbose
  enabled : after.enabled = before.enabled
  errinfo : after.errinfo = before.errinfo

variable {lines more : List Bytes} {first second third : Host}

theorem Adds.refl (host : Host) : host.Adds [] host where
  objects := ⟨#[], Array.append_empty.symm⟩
  log := ⟨[], (List.append_nil _).symm⟩
  warnings := (List.append_nil _).symm
  symbols := rfl
  verbose := rfl
  enabled := rfl
  errinfo := rfl

theorem Adds.trans (left : first.Adds lines second) (right : second.Adds more third) :
    first.Adds (lines ++ more) third where
  objects := by
    obtain ⟨added, grown⟩ := left.objects
    obtain ⟨added', grown'⟩ := right.objects
    exact ⟨added ++ added', by rw [grown', grown, Array.append_assoc]⟩
  log := by
    obtain ⟨names, noted⟩ := left.log
    obtain ⟨names', noted'⟩ := right.log
    exact ⟨names ++ names', by rw [noted', noted, List.append_assoc]⟩
  warnings := by rw [right.warnings, left.warnings, List.append_assoc]
  symbols := right.symbols.trans left.symbols
  verbose := right.verbose.trans left.verbose
  enabled := right.enabled.trans left.enabled
  errinfo := right.errinfo.trans left.errinfo

theorem create_adds (host : Host) (object : Object) : host.Adds [] (host.create object).2 :=
  { Adds.refl host with objects := ⟨#[object], Array.push_eq_append⟩ }

theorem newException_adds (host : Host) (kind : ErrorKind) (message : Bytes) :
    host.Adds [] (host.newException kind message).2 := by
  unfold newException
  split
  · exact .refl host
  · exact host.create_adds _

/-- One object is new, `v` is its handle, and these operations are noted; nothing else has happened.
-/
structure Gains (host : Host) (object : Object) (names : List String) (v : Value) (after : Host) :
    Prop where
  unchanged : after = { host with objects := after.objects, log := host.log ++ names }
  slots : after.objects.slots = host.objects.slots.push object
  fresh : host.objects.size < ObjectTable.capacity → host.objects.get? v = none
  stored : host.objects.size < ObjectTable.capacity → after.objects.get? v = some object

theorem create_gains (host : Host) (object : Object) :
    host.Gains object [] (host.create object).1 (host.create object).2 where
  unchanged := by
    rw [List.append_nil]
    rfl
  slots := rfl
  fresh room := ObjectTable.get?_add_fresh room object
  stored room := ObjectTable.get?_add_self room object

theorem note_create_gains (host : Host) (name : String) (object : Object) :
    host.Gains object [name] ((host.note name).create object).1
      ((host.note name).create object).2 where
  unchanged := rfl
  slots := rfl
  fresh room := ObjectTable.get?_add_fresh room object
  stored room := ObjectTable.get?_add_self room object

theorem Gains.of_note {host : Host} {object : Object} {name : String} {names : List String}
    {v : Value} {after : Host} (gains : (host.note name).Gains object names v after) :
    host.Gains object (name :: names) v after where
  unchanged := by
    rw [gains.unchanged]
    simp [note]
  slots := gains.slots
  fresh := gains.fresh
  stored := gains.stored

section Gains

variable {host after : Host} {object : Object} {names : List String} {v : Value}
  (gains : host.Gains object names v after)
  (room : host.objects.size < ObjectTable.capacity)

include gains room

theorem Gains.bits : v.bits.toNat = (host.objects.size + 8) * 8 := by
  obtain ⟨position, bits, stored⟩ := ObjectTable.get?_eq_some_iff.mp (gains.stored room)
  rw [gains.slots, Array.getElem?_push] at stored
  split at stored
  next last => rw [bits, last, ObjectTable.size]
  next =>
    have known := ObjectTable.get?_eq_some_iff.mpr ⟨position, bits, stored⟩
    rw [gains.fresh room] at known
    cases known

theorem Gains.modify (name : String) {change : Object → Object} {object' : Object}
    (changed : change object = object') :
    host.Gains object' (names ++ [name]) v
      { after.note name with objects := after.objects.modify v change } where
  unchanged := by
    rw [gains.unchanged]
    simp [note]
  slots := by
    rw [ObjectTable.slots_modify (gains.bits room), gains.slots, ← changed]
    simp [ObjectTable.size, Array.modify, Array.modifyM, Array.set_push]
  fresh := gains.fresh
  stored _ := by
    rw [ObjectTable.get?_modify, if_pos rfl, gains.stored room, ← changed]
    rfl

end Gains

theorem Gains.modifyString {host after : Host} {s : ManagedString} {names : List String} {v : Value}
    (gains : host.Gains (.string s) names v after)
    (room : host.objects.size < ObjectTable.capacity) (name : String)
    (change : ManagedString → ManagedString) :
    host.Gains (.string (change s)) (names ++ [name]) v
      { after.note name with objects := after.objects.modifyString v change } :=
  gains.modify room name rfl

end NativeGate.Host
