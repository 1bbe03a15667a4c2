import NativeGate.Gate.Strings
import NativeGate.Proofs.Gate.Basic

namespace NativeGate

namespace ManagedString

/-- The cached coderange is unknown, or what a scan would give. -/
def UpToDate (s : ManagedString) : Prop :=
  s.coderange = .unknown ∨ s.coderange = Coderange.scan s.bytes s.encoding

theorem UpToDate.classified_eq {s : ManagedString} (upToDate : s.UpToDate) :
    s.classified = { s with coderange := Coderange.scan s.bytes s.encoding } := by
  unfold classified
  split
  next => rfl
  next known => rw [← upToDate.resolve_left known]

theorem UpToDate.classified {s : ManagedString} (upToDate : s.UpToDate) :
    s.classified.UpToDate := by
  rw [upToDate.classified_eq]
  exact .inr rfl

theorem ofName_upToDate (name : Bytes) (encoding : Encoding) :
    (ofName name encoding).UpToDate :=
  .inr rfl

end ManagedString

def Object.UpToDate : Object → Prop
  | .string s => s.UpToDate
  | .array _ | .classDef _ | .record _ _ | .exception _ _ => True

namespace ObjectTable

def All (P : Object → Prop) (table : ObjectTable) : Prop :=
  ∀ v object, table.get? v = some object → P object

variable {P : Object → Prop} {table : ObjectTable}

theorem All.add (all : table.All P) {added : Object} (holds : P added) :
    (table.add added).2.All P := by
  intro v object found
  obtain old | ⟨-, rfl⟩ := (get?_add ..).mp found
  · exact all v object old
  · exact holds

theorem All.modify (all : table.All P) (v : Value) {change : Object → Object}
    (kept : ∀ object, P object → P (change object)) : (table.modify v change).All P := by
  intro w object found
  obtain ⟨before, stored, rfl | rfl⟩ := get?_modify_cases found
  · exact all w _ stored
  · exact kept before (all w before stored)

theorem All.modifyString (all : table.All P) (v : Value) {change : ManagedString → ManagedString}
    (kept : ∀ s, P (.string s) → P (.string (change s))) : (table.modifyString v change).All P := by
  apply all.modify v
  intro object holds
  cases object with
  | string s => exact kept s holds
  | _ => exact holds

theorem All.modifyClass (all : table.All P) (v : Value) {change : ClassDef → ClassDef}
    (kept : ∀ c, P (.classDef c) → P (.classDef (change c))) :
    (table.modifyClass v change).All P := by
  apply all.modify v
  intro object holds
  cases object with
  | classDef c => exact kept c holds
  | _ => exact holds

end ObjectTable

namespace Host

theorem newException_upToDate {host : Host} (all : host.objects.All Object.UpToDate)
    (kind : ErrorKind) (message : Bytes) :
    (host.newException kind message).2.objects.All Object.UpToDate := by
  unfold newException
  split
  · exact all
  · exact all.add trivial

theorem Move.upToDate {host after : Host} (move : host.Move after)
    (all : host.objects.All Object.UpToDate) : after.objects.All Object.UpToDate := by
  cases move with
  | aside objects _ =>
      rw [objects]
      exact all
  | exception kind message => exact newException_upToDate all kind message
  | effect justified =>
      cases justified with
      | nameString found _ => exact all.add (ManagedString.ofName_upToDate _ _)
      | string bytes encoding => exact all.add (.inl rfl)
      | array elements => exact all.add trivial
      | record found isRecord _ => exact all.add trivial
      | freeze string => exact all.modifyString string fun _ upToDate => upToDate
      | classify string => exact all.modifyString string fun _ upToDate => upToDate.classified
      | @define definition binding _ =>
          have added : (host.objects.add (.classDef definition)).2.All Object.UpToDate :=
            all.add trivial
          cases binding with
          | none => exact added
          | some binding => exact added.modifyClass _ fun _ _ => trivial
      | _ => exact all

theorem append_upToDate {host : Host} (all : host.objects.All Object.UpToDate) (string : Value)
    (more : Bytes) : (host.append string more).2.objects.All Object.UpToDate := by
  unfold append
  split
  · split
    · exact all
    · exact all.modifyString string fun _ _ => .inl rfl
  · exact all

theorem new_upToDate : new.objects.All Object.UpToDate := by
  intro v object found
  obtain ⟨b, rfl⟩ | rfl := new_get?_cases found <;> trivial

theorem Reachable.upToDate {host : Host} (reached : host.Reachable) :
    host.objects.All Object.UpToDate :=
  Leads.preserve Move.upToDate append_upToDate reached new_upToDate

theorem invoke_coderange {host : Host} {v : Value} {s : ManagedString}
    (found : host.objects.string? v = some s) :
    host.invoke Operation.coderange.name [v] =
      (.value (.fixnum s.classified.coderange.flags.toInt64),
        { host.note Operation.coderange.name with
          objects := host.objects.modifyString v ManagedString.classified }) := by
  have isString : (host.note Operation.coderange.name).asString v = .ok s := by
    simp [asString, found]
  have planned : (host.note Operation.coderange.name).plan .coderange [v] = .ok (.classify v) := by
    simp [plan, argument, isString, bind, Except.bind, pure, Except.pure]
  rw [invoke_of_plan planned]
  simp only [carryOut, flagsOf, note_objects, found]

end Host

namespace Strings

open ManagedString

variable {β ω : Type}

theorem flags_of_fixnum (coderange : Coderange) :
    (((Value.fixnum coderange.flags.toInt64).asFixnum?.getD 0).toInt32).toInt =
      coderange.flags.toInt := by
  cases coderange <;> rfl

/-- In every reachable host the cached coderange of a string is what a scan of its octets would
give, and so is what `rb_enc_str_coderange` answers. -/
theorem coderange_never_stale {host : Host} (reached : host.Reachable) :
    (∀ v s, host.objects.string? v = some s →
      s.coderange = .unknown ∨ s.coderange = Coderange.scan s.bytes s.encoding) ∧
    ∀ (gate : Gate β ω) v s, gate.Routes host → host.objects.string? v = some s →
      ∃ gate' after,
        (Native.raising (coderangeFlags v)).runOn gate =
          (.ok (Coderange.scan s.bytes s.encoding).flags.toInt, gate') ∧
        gate'.Routes after ∧ host.Leads after ∧
        after.objects.string? v =
          some { s with coderange := Coderange.scan s.bytes s.encoding } := by
  have upToDate (v : Value) (s : ManagedString) (found : host.objects.string? v = some s) :
      s.UpToDate := reached.upToDate v (.string s) (ObjectTable.string?_eq_some_iff.mp found)
  refine ⟨upToDate, ?_⟩
  intro gate v s routed found
  have same := (upToDate v s found).classified_eq
  have replied := Host.invoke_coderange found
  rw [same] at replied
  obtain ⟨gate', asked, routedAfter⟩ := Native.onEngine_perform (ω := ω) routed replied
  refine ⟨gate', _, ?_, routedAfter, ⟨[.invoke _ _], congrArg Prod.snd replied⟩, ?_⟩
  · rw [Native.raising_eq_ok, coderangeFlags, Proc.runOn_bind_of_ok asked, ← flags_of_fixnum]
    rfl
  · rw [← same]
    exact ObjectTable.string?_modifyString found _

theorem coderange_never_stale_broken :
    ∃ (gate gate' : Gate Unit Unit) (after : Host) (s : ManagedString),
      gate.Routes (Host.new.actAll
        [.newString (octets "\u00e9") .utf8, .invoke "rb_enc_str_coderange" [.handle 20],
          .append (.handle 20) [0xff], .invoke "rb_str_freeze" [.handle 20]]) ∧
      (Native.raising (coderangeFlags (.handle 20))).runOn gate = (.ok 0x300000, gate') ∧
      gate'.Routes after ∧ after.objects.string? (.handle 20) = some s ∧
      s.coderange = .broken := by
  let host := Host.new.actAll
    [.newString (octets "\u00e9") .utf8, .invoke "rb_enc_str_coderange" [.handle 20],
      .append (.handle 20) [0xff], .invoke "rb_str_freeze" [.handle 20]]
  let gate : Gate Unit Unit := (Gate.installed ()).changeHost 0 fun _ => host
  have routed : gate.Routes host := ⟨_, rfl, rfl, rfl⟩
  have found : host.objects.string? (.handle 20) =
      some { bytes := octets "\u00e9" ++ [0xff], encoding := .utf8, frozen := true } := rfl
  have reached : host.Reachable := ⟨_, rfl⟩
  obtain ⟨-, asking⟩ := coderange_never_stale (β := Unit) (ω := Unit) reached
  obtain ⟨gate', after, answered, routedAfter, -, stored⟩ := asking gate _ _ routed found
  exact ⟨gate, gate', after, _, routed, answered, routedAfter, stored, by decide⟩

end Strings

end NativeGate
