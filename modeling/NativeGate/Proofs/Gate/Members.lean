import Mathlib.Data.List.Nodup
import NativeGate.Gate.Records
import NativeGate.Proofs.Gate.Interning
import NativeGate.Proofs.Host.Definitions

namespace NativeGate

open Proc Trailing

variable {β ω : Type}

namespace SymbolTable

/-- The ID of a name passed as a C string. -/
def Names (table : SymbolTable) (id : Id) (name : Bytes) : Prop :=
  ∃ entry, table.entry? id = some entry ∧ entry.name = name ∧
    entry.encoding = normalize name .binary

variable {table later : SymbolTable} {id other : Id} {name : Bytes}

theorem Names.extend (names : table.Names id name) (extends' : table.Extends later) :
    later.Names id name := by
  obtain ⟨entry, found, rfl, encoding⟩ := names
  obtain ⟨entry', found', name, same, -⟩ := extends'.entry id entry found
  refine ⟨entry', found', name, same.trans encoding⟩

theorem Names.unique (coherent : table.Coherent) (left : table.Names id name)
    (right : table.Names other name) : id = other := by
  obtain ⟨first, foundFirst, nameFirst, encodingFirst⟩ := left
  obtain ⟨second, foundSecond, nameSecond, encodingSecond⟩ := right
  exact coherent.unique foundFirst foundSecond (nameFirst.trans nameSecond.symm)
    (encodingFirst.trans encodingSecond.symm)

theorem names_biUnique (coherent : table.Coherent) : Relator.BiUnique table.Names := by
  constructor
  · intro id name other left right
    exact left.unique coherent right
  · rintro id name other ⟨entry, found, rfl, -⟩ ⟨_, found', rfl, -⟩
    rw [found] at found'
    cases found'
    rfl

theorem Names.restrict (names : later.Names id name) (extends' : table.Extends later)
    (known : (table.entry? id).isSome) : table.Names id name := by
  obtain ⟨entry, found⟩ := Option.isSome_iff_exists.mp known
  obtain ⟨entry', found', sameName, sameEncoding, -⟩ := extends'.entry id entry found
  obtain ⟨_, stored, rfl, encoding⟩ := names
  rw [found'] at stored
  cases stored
  exact ⟨entry, found, sameName.symm, sameEncoding.symm.trans encoding⟩

end SymbolTable

namespace Host

theorem symbolName_of_names {host : Host} {id : Id} {name : Bytes}
    (names : host.symbols.Names id name) : host.symbolName id = name := by
  obtain ⟨entry, found, rfl, -⟩ := names
  rw [symbolName, SymbolTable.name?, found]
  rfl

/-- The names have been interned, each from a string of its own, and nothing else has happened. -/
structure Interned (host : Host) (names : List Bytes) (ids : List Id) (after : Host) : Prop where
  leads : host.Leads after
  classes : host.SameClasses after
  room : after.objects.size = host.objects.size + names.length
  few : after.symbols.size ≤ host.symbols.size + names.length
  named : List.Forall₂ after.symbols.Names ids names

theorem Interned.nil (host : Host) : host.Interned [] [] host where
  leads := .refl host
  classes := .refl host
  room := rfl
  few := Nat.le_refl _
  named := .nil

def internText (host : Host) (name : Bytes) : Host :=
  { (host.newString name .binary).2.note Operation.intern.name with
    symbols := (host.symbols.intern name .binary).2 }

theorem internText_leads {host : Host} (room : host.objects.size < ObjectTable.capacity)
    (name : Bytes) : host.Leads (host.internText name) := by
  have replied := (newString_holds room name .binary).invoke_intern
  exact (host.leads_act (.newString name .binary)).trans
    ⟨[.invoke _ _], congrArg Prod.snd replied⟩

theorem size_objects_internText (host : Host) (name : Bytes) :
    (host.internText name).objects.size = host.objects.size + 1 :=
  ObjectTable.size_add _ _

theorem size_symbols_internText_le (host : Host) (name : Bytes) :
    (host.internText name).symbols.size ≤ host.symbols.size + 1 :=
  host.symbols.size_intern_le name .binary

theorem Interned.cons {host after : Host} {name : Bytes} {names : List Bytes} {ids : List Id}
    (coherent : host.symbols.Coherent) (room : host.objects.size < ObjectTable.capacity)
    (few : host.symbols.size + 1 < SymbolTable.capacity)
    (others : (host.internText name).Interned names ids after) :
    host.Interned (name :: names) ((host.symbols.intern name .binary).1 :: ids) after where
  leads := (internText_leads room name).trans others.leads
  classes := (host.newString_sameClasses name .binary).trans others.classes
  room := by
    rw [others.room, size_objects_internText, List.length_cons]
    omega
  few := by
    have first := host.size_symbols_internText_le name
    have rest := others.few
    rw [List.length_cons]
    omega
  named := by
    have small : (host.symbols.intern name .binary).2.size < 2 ^ 64 :=
      Nat.lt_of_le_of_lt (host.symbols.size_intern_le name .binary)
        (Nat.lt_trans few (by decide))
    have first : (host.internText name).symbols.Names (host.symbols.intern name .binary).1 name :=
      coherent.intern_entry small
    exact .cons (first.extend others.leads.symbols_extend) others.named

section Interned

variable {host after : Host} {names : List Bytes} {ids : List Id}
  (interned : host.Interned names ids after)

include interned

theorem Interned.symbolNames {later : Host} (leads : after.Leads later) :
    ids.map later.symbolName = names := by
  have same : List.Forall₂ (· = ·) (ids.map later.symbolName) names :=
    List.forall₂_map_left_iff.mpr <| interned.named.imp fun _ _ named =>
      symbolName_of_names (named.extend leads.symbols_extend)
  rwa [List.forall₂_eq_eq_eq] at same

theorem Interned.isNamed : ∀ id ∈ ids, ∃ name, after.symbols.Names id name := by
  have both := interned.named.imp fun id name named =>
    (⟨⟨name, named⟩, named⟩ : (∃ name, after.symbols.Names id name) ∧ after.symbols.Names id name)
  exact ((List.forall₂_and_left _ _).mp both).1

theorem Interned.symbolId? (few : after.symbols.size < SymbolTable.capacity) :
    ∀ id ∈ ids, after.symbolId? (.symbol id) = some id := by
  intro id member
  obtain ⟨_, entry, found, -⟩ := interned.isNamed id member
  rw [Host.symbolId?, SymbolTable.symbolId?_symbol few found]
  simp [found]

theorem Interned.unused_iff (coherent : after.symbols.Coherent) {known : List Id}
    (isKnown : ∀ id ∈ known, (host.symbols.entry? id).isSome) :
    Unused known ids ↔
      names.Nodup ∧ ∀ name ∈ names, ∀ id ∈ known, ¬ host.symbols.Names id name := by
  have unique := SymbolTable.names_biUnique coherent
  have extends' := interned.leads.symbols_extend
  refine and_congr (List.rel_nodup unique interned.named) ⟨fun unused => ?_, fun unused => ?_⟩
  · intro name member id old named
    have among : id ∈ ids ↔ name ∈ names :=
      List.rel_mem unique (named.extend extends') interned.named
    exact unused id (among.mpr member) old
  · intro id member old
    obtain ⟨name, named⟩ := interned.isNamed id member
    have among : id ∈ ids ↔ name ∈ names := List.rel_mem unique named interned.named
    exact unused name (among.mp member) id old (named.restrict extends' (isKnown id old))

end Interned

end Host

namespace Symbols

theorem intern_answers {host : Host} (coherent : host.symbols.Coherent)
    (room : host.objects.size < ObjectTable.capacity)
    (few : host.symbols.size + 1 < SymbolTable.capacity) (name : Bytes) :
    Native.Answers (intern name .binary : Native β ω Id) host
      (host.symbols.intern name .binary).1 (host.internText name) := by
  have small : (host.symbols.intern name .binary).2.size < SymbolTable.capacity :=
    Nat.lt_of_le_of_lt (host.symbols.size_intern_le name .binary) few
  have replied := (Host.newString_holds room name .binary).invoke_intern
  apply Native.Answers.bind
    (Native.onEngine_answers (Engine.newString_answers host name .binary))
  apply Native.Answers.bind (Native.onEngine_answers (Engine.perform_answers replied))
  exact toId_answers (coherent.symbolId?_intern small) _

end Symbols

namespace Records

/-- The C strings before the first null argument, if nothing else stands before it. -/
def names? : List Argument → Option (List Bytes)
  | .null :: _ => some []
  | .text _ content :: rest => (names? rest).map (content :: ·)
  | _ => none

/-- Reading member names interns them, or stops at an argument that is no C string. -/
inductive MembersRead (host : Host) : Option (List Bytes) → Except Exit (List Value) → Host → Prop
  | read {names : List Bytes} {ids : List Id} {after : Host}
      (interned : host.Interned names ids after) :
      MembersRead host (some names) (.ok (ids.map .symbol)) after
  | stopped (fault : CursorFault) {after : Host} (leads : host.Leads after)
      (classes : host.SameClasses after) :
      MembersRead host none (.error (.failed (.cursor fault))) after

theorem MembersRead.cons {host after : Host} {name : Bytes} {names : Option (List Bytes)}
    {result : Except Exit (List Value)} (coherent : host.symbols.Coherent)
    (room : host.objects.size < ObjectTable.capacity)
    (few : host.symbols.size + 1 < SymbolTable.capacity)
    (others : MembersRead (host.internText name) names result after) :
    MembersRead host (names.map (name :: ·))
      (result.map (.symbol (host.symbols.intern name .binary).1 :: ·)) after := by
  cases others with
  | read interned => exact .read (interned.cons coherent room few)
  | stopped fault leads classes =>
      exact .stopped fault ((Host.internText_leads room name).trans leads)
        ((host.newString_sameClasses name .binary).trans classes)

theorem readMembersWithin_succ (fuel : Nat) :
    (readMembersWithin (fuel + 1) : Variadic β ω (List Value)) =
      (onCursor Cursor.readText >>= fun text =>
        match text with
        | none => pure []
        | some name =>
            onState (Symbols.intern name .binary) >>= fun id =>
              readMembersWithin fuel >>= fun members => pure (.symbol id :: members)) := by
  rw [readMembersWithin]
  rfl

section Reading

variable {gate : Gate β ω} {cursor after : Cursor} {fuel : Nat}

theorem runOn_readMembersWithin_of_fault {fault : CursorFault}
    (refused : cursor.next .text = (.error fault, after)) :
    (readMembersWithin (fuel + 1)).runOn (cursor, gate) =
      (.error (.failed (.cursor fault)), after, gate) := by
  rw [readMembersWithin_succ]
  refine runOn_bind_of_error ?_
  rw [runOn_onCursor, Cursor.runOn_readText_of_fault refused]

theorem runOn_readMembersWithin_of_null (next : cursor.next .text = (.ok .null, after)) :
    (readMembersWithin (fuel + 1)).runOn (cursor, gate) = (.ok [], after, gate) := by
  have read : (onCursor Cursor.readText).runOn (cursor, gate) = (.ok none, after, gate) := by
    rw [runOn_onCursor, Cursor.runOn_readText next]
    rfl
  rw [readMembersWithin_succ, runOn_bind_of_ok read, runOn_pure]

theorem runOn_readMembersWithin_of_text {address : UInt64} {name : Bytes}
    (next : cursor.next .text = (.ok (.text address name), after)) {id : Id} {gate' : Gate β ω}
    (interned : (Symbols.intern name .binary : Native β ω Id).runOn gate = (.ok id, gate'))
    {result : Except Exit (List Value)} {last : Cursor × Gate β ω}
    (others : (readMembersWithin fuel).runOn (after, gate') = (result, last)) :
    (readMembersWithin (fuel + 1)).runOn (cursor, gate) =
      (result.map (.symbol id :: ·), last) := by
  have read : (onCursor Cursor.readText).runOn (cursor, gate) = (.ok (some name), after, gate) := by
    rw [runOn_onCursor, Cursor.runOn_readText next]
    rfl
  have made : (onState (Symbols.intern name .binary : Native β ω Id)).runOn (after, gate) =
      (.ok id, after, gate') := by
    rw [runOn_onState, interned]
  rw [readMembersWithin_succ, runOn_bind_of_ok read]
  dsimp only
  rw [runOn_bind_of_ok made, runOn_bind, others]
  cases result <;> rfl

end Reading

theorem runOn_readMembersWithin {arguments : List Argument} {cursor : Cursor}
    (next : cursor.rest = arguments) {gate : Gate β ω} {host : Host} (routed : gate.Routes host)
    (reached : host.Reachable)
    (room : host.objects.size + arguments.length ≤ ObjectTable.capacity)
    (few : host.symbols.size + arguments.length < SymbolTable.capacity) :
    ∃ result cursor' gate' after,
      (readMembersWithin (arguments.length + 1)).runOn (cursor, gate) = (result, cursor', gate') ∧
      gate'.Routes after ∧ MembersRead host (names? arguments) result after := by
  induction arguments generalizing cursor gate host with
  | nil =>
      exact ⟨_, _, gate, host, runOn_readMembersWithin_of_fault (Cursor.next_of_nothing next),
        routed, .stopped _ (.refl host) (.refl host)⟩
  | cons argument others ih =>
      rw [List.length_cons] at room few
      cases argument with
      | null =>
          exact ⟨_, _, gate, host, runOn_readMembersWithin_of_null (Cursor.next_of_fits next rfl),
            routed, .read (.nil host)⟩
      | text address name =>
          have roomFirst : host.objects.size < ObjectTable.capacity := by omega
          have fewFirst : host.symbols.size + 1 < SymbolTable.capacity := by omega
          have roomOthers := host.size_objects_internText name
          have fewOthers := host.size_symbols_internText_le name
          have coherent := reached.symbols_coherent (Nat.lt_of_succ_lt fewFirst)
          have leads := Host.internText_leads roomFirst name
          obtain ⟨gate', interned, routed'⟩ :=
            Symbols.intern_answers coherent roomFirst fewFirst name gate routed
          obtain ⟨result, last, gate'', after, read, routed'', members⟩ :=
            @ih (cursor.afterRead .text others) rfl gate' (host.internText name) routed'
              (reached.leads leads) (by omega) (by omega)
          exact ⟨_, _, gate'', after,
            runOn_readMembersWithin_of_text (Cursor.next_of_fits next rfl) interned read,
            routed'', members.cons coherent roomFirst fewFirst⟩
      | _ =>
          exact ⟨_, _, gate, host,
            runOn_readMembersWithin_of_fault (Cursor.next_of_misfit next rfl), routed,
            .stopped _ (.refl host) (.refl host)⟩

theorem runOn_readMembers {arguments : List Argument} {gate : Gate β ω} {host : Host}
    (routed : gate.Routes host) (reached : host.Reachable)
    (room : host.objects.size + arguments.length ≤ ObjectTable.capacity)
    (few : host.symbols.size + arguments.length < SymbolTable.capacity) :
    ∃ result cursor gate' after,
      readMembers.runOn (.start arguments, gate) = (result, cursor, gate') ∧
      gate'.Routes after ∧ MembersRead host (names? arguments) result after := by
  have counted : (onCursor Cursor.remaining).runOn (.start arguments, gate) =
      (.ok arguments.length, .start arguments, gate) := by
    rw [runOn_onCursor, Cursor.remaining, runOn_bind_of_ok (runOn_get _), runOn_pure]
    rfl
  have read : readMembers.runOn (.start arguments, gate) =
      (readMembersWithin (arguments.length + 1)).runOn (.start arguments, gate) :=
    runOn_bind_of_ok counted
  rw [read]
  exact @runOn_readMembersWithin _ _ arguments (.start arguments) rfl gate host routed reached room
    few

end Records

end NativeGate
