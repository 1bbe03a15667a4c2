import NativeGate.Gate.Reports
import NativeGate.Proofs.Format.Render
import NativeGate.Proofs.Gate.Basic

namespace NativeGate

variable {α β ω : Type}

namespace Host

theorem invoke_fatal {host : Host} {message : Value} {s : ManagedString}
    (found : host.objects.string? message = some s) :
    host.invoke Operation.fatal.name [message] =
      (host.note Operation.fatal.name).complain (.raise .fatal s.bytes) := by
  simp only [invoke, Operation.ofName?_name, perform, plan, stringArgument_note found]
  rfl

theorem invoke_bug {host : Host} {message : Value} {s : ManagedString}
    (found : host.objects.string? message = some s) :
    host.invoke Operation.bug.name [message] = (.value .nil, host.note Operation.bug.name) := by
  simp only [invoke, Operation.ofName?_name, perform, plan, stringArgument_note found]
  rfl

end Host

namespace Engine

section Unpinned

variable {engine : Engine β} (unpinned : engine.pinned = []) {message : Value} {s : ManagedString}
  (found : engine.host.objects.string? message = some s)

include unpinned found

theorem perform_fatal (room : engine.host.objects.size < ObjectTable.capacity) :
    ∃ exception after, (perform .fatal [message]).runOn engine =
        (.error (.failed (.raised exception)), after) ∧
      after.host.objects.get? exception = some (.exception ErrorKind.fatal.value s.bytes) := by
  have other : ErrorKind.fatal ≠ .noMemoryError := nofun
  rw [runOn_perform unpinned, runOn_asking, Host.invoke_fatal found]
  exact ⟨_, _, rfl, Host.newException_get? room other s.bytes⟩

theorem perform_bug : ∃ after, (perform .bug [message]).runOn engine = (.ok .nil, after) := by
  rw [runOn_perform unpinned, runOn_asking, Host.invoke_bug found]
  exact ⟨_, rfl⟩

end Unpinned

end Engine

namespace Reports

open Format

def fatalOf (message : Value) : Proc (Engine β) Value := do
  match ← (Engine.perform .fatal [message]).catchFault with
  | .error (.raised exception) => return exception
  | .error fault => Proc.fail fault
  | .ok _ => Engine.newException .fatal (← Engine.readString message)

def reportOf (text : Bytes) : Proc (Engine β) Bytes := do
  let message ← Engine.newString text .utf8
  let _ ← Engine.perform .bug [message]
  return Utf8.lossy text

theorem fatalException_eq (format : Bytes) :
    (fatalException format : Variadic β ω Value) =
      Variadic.onEngine (message format >>= fun message => Trailing.onState (fatalOf message)) :=
  rfl

theorem bugReport_eq (format : Bytes) :
    (bugReport format : Variadic β ω Bytes) =
      Variadic.onEngine (render format >>= fun text => Trailing.onState (reportOf text)) := rfl

section Unpinned

variable {engine : Engine β} (unpinned : engine.pinned = [])

include unpinned

theorem fatalOf_string {message : Value} {s : ManagedString}
    (found : engine.host.objects.string? message = some s)
    (room : engine.host.objects.size < ObjectTable.capacity) :
    ∃ exception after, (fatalOf message).runOn engine = (.ok exception, after) ∧
      after.host.objects.get? exception = some (.exception ErrorKind.fatal.value s.bytes) := by
  obtain ⟨exception, after, raised, holds⟩ := Engine.perform_fatal unpinned found room
  have caught : (Engine.perform .fatal [message]).catchFault.runOn engine =
      (.ok (.error (.raised exception)), after) := by
    rw [Proc.runOn_catchFault, raised]
    rfl
  refine ⟨exception, after, ?_, holds⟩
  rw [fatalOf, Proc.runOn_bind_of_ok caught]
  rfl

theorem runOn_reportOf (text : Bytes) (room : engine.host.objects.size < ObjectTable.capacity) :
    ∃ after, (reportOf text).runOn engine = (.ok (Utf8.lossy text), after) := by
  obtain ⟨string, middle, made, pinned, _, stored⟩ := Engine.newString_stored room text .utf8
  obtain ⟨after, replied⟩ := Engine.perform_bug (pinned.trans unpinned) stored
  refine ⟨after, ?_⟩
  rw [reportOf, Proc.runOn_bind_of_ok made, Proc.runOn_bind_of_ok replied]
  rfl

end Unpinned

/-- The message of a report: the formatted one, or the format string if it cannot be formatted. -/
def carried (format : Bytes) (s : Cursor × Engine β) : Bytes :=
  match ((render format).runOn s).1 with
  | .ok text => text
  | .error _ => format

theorem message_of_ok {format text : Bytes} {s : Cursor × Engine β} {rest : Cursor}
    {formatted : Engine β} (room : formatted.host.objects.size < ObjectTable.capacity)
    (written : (render format).runOn s = (.ok text, rest, formatted)) :
    ∃ string after, (message format).runOn s = (.ok string, rest, after) ∧
      after.pinned = formatted.pinned ∧
      after.host.objects.size = formatted.host.objects.size + 1 ∧
      after.host.objects.string? string = some { bytes := text, encoding := .utf8 } := by
  obtain ⟨string, after, made, stored⟩ := Engine.newString_stored room text .utf8
  refine ⟨string, after, ?_, stored⟩
  rw [message, Proc.runOn_bind_of_ok written, Trailing.runOn_onState, made]

def LeavesFatally (p : Variadic β ω α) (s : Cursor × Gate β ω) (message : Bytes) : Prop :=
  ∃ exception rest gate engine, p.runOn s = (.error (.fatal exception), rest, gate) ∧
    gate.current? = some engine ∧ engine.host.exceptionKind? exception = some .fatal ∧
    engine.host.objects.exception? exception = some (ErrorKind.fatal.value, message)

theorem LeavesFatally.of_get? {p : Variadic β ω α} {s : Cursor × Gate β ω} {message : Bytes}
    {exception : Value} {rest : Cursor} {gate : Gate β ω} {engine : Engine β}
    (left : p.runOn s = (.error (.fatal exception), rest, gate))
    (current : gate.current? = some engine)
    (holds : engine.host.objects.get? exception =
      some (.exception ErrorKind.fatal.value message)) :
    LeavesFatally p s message := by
  refine ⟨exception, rest, gate, engine, left, current, Host.exceptionKind?_of_get? holds, ?_⟩
  rw [ObjectTable.exception?, holds]

section Current

variable {gate : Gate β ω} {engine formatted : Engine β} {format : Bytes} {cursor rest : Cursor}

theorem unformattedFatal_of_current (current : gate.current? = some engine)
    (room : engine.host.objects.size < ObjectTable.capacity) (format : Bytes) :
    ∃ exception gate' after, (unformattedFatal format : Native β ω Value).runOn gate =
        (.ok exception, gate') ∧ gate'.current? = some after ∧
      after.host.objects.get? exception = some (.exception ErrorKind.fatal.value format) := by
  obtain ⟨scope, routed, rfl⟩ := Option.map_eq_some_iff.mp current
  have other : ErrorKind.fatal ≠ .noMemoryError := nofun
  obtain ⟨exception, after, made, holds⟩ := Engine.newException_stored room other format
  refine ⟨exception, gate.setEngine scope.engine after, after, ?_, ?_, holds⟩
  · rw [unformattedFatal, Proc.runOn_bind, Proc.runOn_get]
    simp only [routed]
    rw [Native.runOn_atEngine, made]
  · simp [Gate.current?, routed]

variable (current : gate.current? = some engine)

include current

theorem fatalException_left {exit : Exit}
    (left : (render format).runOn (cursor, engine) = (.error exit, rest, formatted)) :
    ∃ gate', (fatalException format : Variadic β ω Value).runOn (cursor, gate) =
        (.error exit, rest, gate') ∧ gate'.current? = some formatted := by
  have left : (message format).runOn (cursor, engine) = (.error exit, rest, formatted) :=
    Proc.runOn_bind_of_error left
  obtain ⟨gate', ran, current', _⟩ :=
    Variadic.onEngine_of_current current (Proc.runOn_bind_of_error left)
  exact ⟨gate', ran, current'⟩

theorem fatal_of_ok {text : Bytes} (unpinned : formatted.pinned = [])
    (room : formatted.host.objects.size + 1 < ObjectTable.capacity)
    (written : (render format).runOn (cursor, engine) = (.ok text, rest, formatted)) :
    LeavesFatally (fatal format : Variadic β ω α) (cursor, gate) text := by
  obtain ⟨string, middle, made, pinned, size, stored⟩ :=
    message_of_ok (Nat.lt_of_succ_lt room) written
  obtain ⟨exception, after, returned, holds⟩ :=
    fatalOf_string (pinned.trans unpinned) stored (size ▸ room)
  have ran : (message format >>= fun message => Trailing.onState (fatalOf message)).runOn
      (cursor, engine) = (.ok exception, rest, after) := by
    rw [Proc.runOn_bind_of_ok made, Trailing.runOn_onState, returned]
  obtain ⟨gate', answered, current', _⟩ := Variadic.onEngine_of_current current ran
  have caught : (fatalException format : Variadic β ω Value).catchFault.runOn (cursor, gate) =
      (.ok (.ok exception), rest, gate') := by
    rw [fatalException_eq, Proc.runOn_catchFault, answered]
    rfl
  have left : (fatal format : Variadic β ω α).runOn (cursor, gate) =
      (.error (.fatal exception), rest, gate') := by
    rw [fatal, Proc.runOn_bind_of_ok caught, Proc.runOn_throw]
  exact .of_get? left current' holds

theorem fatal_of_fault {fault : Fault} (room : formatted.host.objects.size < ObjectTable.capacity)
    (failed : (render format).runOn (cursor, engine) = (.error (.failed fault), rest, formatted)) :
    LeavesFatally (fatal format : Variadic β ω α) (cursor, gate) format := by
  obtain ⟨gate', left, current'⟩ := fatalException_left current failed
  obtain ⟨exception, gate'', after, made, current'', holds⟩ :=
    unformattedFatal_of_current current' room format
  have caught : (fatalException format : Variadic β ω Value).catchFault.runOn (cursor, gate) =
      (.ok (.error fault), rest, gate') := by
    rw [Proc.runOn_catchFault, left]
    rfl
  have fallback : (Trailing.onState (unformattedFatal format)).runOn (rest, gate') =
      (.ok exception, rest, gate'') := by
    rw [Trailing.runOn_onState, made]
  have left : (fatal format : Variadic β ω α).runOn (cursor, gate) =
      (.error (.fatal exception), rest, gate'') := by
    rw [fatal, Proc.runOn_bind_of_ok caught]
    change (Trailing.onState (unformattedFatal format) >>= _).runOn (rest, gate') = _
    rw [Proc.runOn_bind_of_ok fallback, Proc.runOn_throw]
  exact .of_get? left current'' holds

theorem fatal_of_left {exit : Exit} (notFault : ¬ exit.IsFault)
    (left : (render format).runOn (cursor, engine) = (.error exit, rest, formatted)) :
    ∃ after, (fatal format : Variadic β ω α).runOn (cursor, gate) = (.error exit, after) := by
  obtain ⟨gate', left, _⟩ := fatalException_left current left
  exact ⟨_, Proc.runOn_bind_of_error (Proc.runOn_catchFault_of_left left notFault)⟩

theorem bugReport_left {exit : Exit}
    (left : (render format).runOn (cursor, engine) = (.error exit, rest, formatted)) :
    ∃ gate', (bugReport format : Variadic β ω Bytes).runOn (cursor, gate) =
        (.error exit, rest, gate') ∧ gate'.context = gate.context := by
  obtain ⟨gate', ran, _, context⟩ :=
    Variadic.onEngine_of_current current (Proc.runOn_bind_of_error left)
  exact ⟨gate', ran, context⟩

omit current in
theorem bug_of_caught {result : Except Fault Bytes} {gate' : Gate β ω}
    (unwinds : gate'.context.settings.bugAction = .unwind)
    (caught : (bugReport format : Variadic β ω Bytes).catchFault.runOn (cursor, gate) =
      (.ok result, rest, gate')) :
    (bug format : Variadic β ω α).runOn (cursor, gate) =
      (.error (.bug (result.toOption.getD (Utf8.lossy format))), rest, gate') := by
  have settings : (Trailing.onState Native.settings).runOn (rest, gate') =
      (.ok gate'.context.settings, rest, gate') := rfl
  rw [bug, Proc.runOn_bind_of_ok caught]
  cases result
  all_goals
    dsimp only
    rw [pure_bind]
    change (Trailing.onState Native.settings >>= _).runOn (rest, gate') = _
    rw [Proc.runOn_bind_of_ok settings, unwinds]
    rfl

theorem bug_of_ok {text : Bytes} (unpinned : formatted.pinned = [])
    (room : formatted.host.objects.size < ObjectTable.capacity)
    (unwinds : gate.context.settings.bugAction = .unwind)
    (written : (render format).runOn (cursor, engine) = (.ok text, rest, formatted)) :
    ∃ after, (bug format : Variadic β ω α).runOn (cursor, gate) =
      (.error (.bug (Utf8.lossy text)), after) := by
  obtain ⟨after, reported⟩ := runOn_reportOf unpinned text room
  have ran : (render format >>= fun text => Trailing.onState (reportOf text)).runOn
      (cursor, engine) = (.ok (Utf8.lossy text), rest, after) := by
    rw [Proc.runOn_bind_of_ok written, Trailing.runOn_onState, reported]
  obtain ⟨gate', answered, _, context⟩ := Variadic.onEngine_of_current current ran
  have caught : (bugReport format : Variadic β ω Bytes).catchFault.runOn (cursor, gate) =
      (.ok (.ok (Utf8.lossy text)), rest, gate') := by
    rw [bugReport_eq, Proc.runOn_catchFault, answered]
    rfl
  exact ⟨_, bug_of_caught (context ▸ unwinds) caught⟩

theorem bug_of_fault {fault : Fault} (unwinds : gate.context.settings.bugAction = .unwind)
    (failed : (render format).runOn (cursor, engine) = (.error (.failed fault), rest, formatted)) :
    ∃ after, (bug format : Variadic β ω α).runOn (cursor, gate) =
      (.error (.bug (Utf8.lossy format)), after) := by
  obtain ⟨gate', left, context⟩ := bugReport_left current failed
  have caught : (bugReport format : Variadic β ω Bytes).catchFault.runOn (cursor, gate) =
      (.ok (.error fault), rest, gate') := by
    rw [Proc.runOn_catchFault, left]
    rfl
  exact ⟨_, bug_of_caught (context ▸ unwinds) caught⟩

theorem bug_of_left {exit : Exit} (notFault : ¬ exit.IsFault)
    (left : (render format).runOn (cursor, engine) = (.error exit, rest, formatted)) :
    ∃ after, (bug format : Variadic β ω α).runOn (cursor, gate) = (.error exit, after) := by
  obtain ⟨gate', left, _⟩ := bugReport_left current left
  exact ⟨_, Proc.runOn_bind_of_error (Proc.runOn_catchFault_of_left left notFault)⟩

end Current

/-- `rb_fatal` and `rb_bug` leave by an exit of their own, with the message as far as it can be
formatted, unless formatting itself `Escapes`: then its exit is theirs. -/
theorem reports_exit {gate : Gate β ω} {engine : Engine β} (current : gate.current? = some engine)
    (unpinned : engine.pinned = []) (format : Bytes) (cursor : Cursor)
    (room : engine.host.objects.size + (pieces format).length + 2 ≤ ObjectTable.capacity) :
    ((∀ exit, ¬ Escapes exit (pieces format) (cursor, engine)) →
      LeavesFatally (fatal format : Variadic β ω α) (cursor, gate)
          (carried format (cursor, engine)) ∧
        (gate.context.settings.bugAction = .unwind →
          ∃ after, (bug format : Variadic β ω α).runOn (cursor, gate) =
            (.error (.bug (Utf8.lossy (carried format (cursor, engine)))), after))) ∧
    ∀ exit, Escapes exit (pieces format) (cursor, engine) →
      (∃ d, .directive d ∈ pieces format ∧ d.MayEscape exit) ∧
        (∃ after, (fatal format : Variadic β ω α).runOn (cursor, gate) = (.error exit, after)) ∧
        ∃ after, (bug format : Variadic β ω α).runOn (cursor, gate) = (.error exit, after) := by
  have ends := renderPieces_ends (pieces format) (s := (cursor, engine)) unpinned
  constructor
  · intro noEscape
    cases ran : (render format).runOn (cursor, engine) with
    | mk result after =>
        obtain ⟨rest, formatted⟩ := after
        cases result with
        | ok text =>
            have message : carried format (cursor, engine) = text := by rw [carried, ran]
            have spent := ends.returned ran
            have size_le : formatted.host.objects.size ≤
                engine.host.objects.size + (pieces format).length := spent.size_le
            have unpinned' : formatted.pinned = [] := spent.pinned.trans unpinned
            rw [message]
            exact ⟨fatal_of_ok current unpinned' (by omega) ran,
              fun unwinds => bug_of_ok current unpinned' (by omega) unwinds ran⟩
        | error exit =>
            have message : carried format (cursor, engine) = format := by rw [carried, ran]
            obtain ⟨fault | escapes, spent⟩ := ends.left ran
            · have size_le : formatted.host.objects.size ≤
                  engine.host.objects.size + ((pieces format).length + 1) := spent.size_le
              obtain ⟨fault, rfl⟩ := fault
              rw [message]
              exact ⟨fatal_of_fault current (by omega) ran,
                fun unwinds => bug_of_fault current unwinds ran⟩
            · exact absurd escapes (noEscape exit)
  · intro exit escapes
    obtain ⟨⟨rest, formatted⟩, ran⟩ := renderPieces_of_escapes unpinned escapes
    obtain ⟨d, member, may⟩ := escapes.mayEscape
    exact ⟨⟨d, member, may⟩, fatal_of_left current may.not_isFault ran,
      bug_of_left current may.not_isFault ran⟩

theorem reports_exit_too_precise :
    LeavesFatally (fatal (octets "no %s") : Variadic Unit Unit Unit)
      (.start [.text 64 (octets "way")], .installed () { bugAction := .unwind }) (octets "no way") ∧
    (∃ after, (bug (octets "no %s") : Variadic Unit Unit Unit).runOn
        (.start [.text 64 (octets "way")], .installed () { bugAction := .unwind }) =
      (.error (.bug (Utf8.lossy (octets "no way"))), after)) ∧
    ∃ after, (bug (octets "%.65536f") : Variadic Unit Unit Unit).runOn
        (.start [.double ⟨0x3ff0000000000000⟩], .installed () { bugAction := .unwind }) =
      (.error (.foreign tooManyPlaces), after) := by
  have current := Gate.installed_current? (β := Unit) () { bugAction := .unwind }
  have written : (renderPieces (pieces (octets "no %s"))).runOn
      (.start [.text 64 (octets "way")], ({} : Engine Unit)) = (.ok (octets "no way"), _, _) :=
    Prod.ext rfl rfl
  have noEscape : ∀ exit, ¬ Escapes exit (pieces (octets "no %s"))
      (.start [.text 64 (octets "way")], ({} : Engine Unit)) := by
    intro exit escapes
    obtain ⟨after, left⟩ := renderPieces_of_escapes rfl escapes
    rw [written] at left
    cases left
  have escapes : Escapes (.foreign tooManyPlaces) (pieces (octets "%.65536f"))
      (.start [.double ⟨0x3ff0000000000000⟩], ({} : Engine Unit)) :=
    .here (.directive rfl rfl (.tooPrecise rfl rfl (by decide)))
  obtain ⟨fatally, reported⟩ :=
    (reports_exit (α := Unit) current rfl (octets "no %s") _ (by decide)).1 noEscape
  obtain ⟨_, _, otherwise⟩ :=
    (reports_exit (α := Unit) current rfl (octets "%.65536f") _ (by decide)).2 _ escapes
  exact ⟨fatally, reported rfl, otherwise⟩

/-- `%.65536f` of a finite double makes `rb_fatal` leave by `foreign`. -/
theorem fatal_leaves_otherwise :
    ¬ ∃ exception after, (fatal (octets "%.65536f") : Variadic Unit Unit Unit).runOn
        (.start [.double ⟨0x3ff0000000000000⟩], .installed () { bugAction := .unwind }) =
      (.error (.fatal exception), after) := by
  rintro ⟨exception, after, left⟩
  have foreign : ((fatal (octets "%.65536f") : Variadic Unit Unit Unit).runOn
      (.start [.double ⟨0x3ff0000000000000⟩], .installed () { bugAction := .unwind })).1 =
    .error (.foreign tooManyPlaces) := rfl
  rw [left] at foreign
  cases foreign

end Reports

end NativeGate
