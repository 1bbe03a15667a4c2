import NativeGate.Proofs.Format.Closure
import NativeGate.Proofs.Gate.Permits
import NativeGate.Proofs.Gate.Reports
import NativeGate.Proofs.Host.Additions

namespace NativeGate

open Proc Trailing

variable {α β ω : Type}

namespace Engine

def Adds (lines : List Bytes) (before after : Engine β) : Prop :=
  ∃ host, before.host.Adds lines host ∧ after = { before with host }

theorem Adds.trans {lines more : List Bytes} {first second third : Engine β}
    (left : first.Adds lines second) (right : second.Adds more third) :
    first.Adds (lines ++ more) third := by
  obtain ⟨host, added, rfl⟩ := left
  obtain ⟨host', added', rfl⟩ := right
  exact ⟨host', added.trans added', rfl⟩

instance : Std.Refl (Adds (β := β) []) :=
  ⟨fun engine => ⟨engine.host, .refl _, rfl⟩⟩

instance : IsTrans (Engine β) (Adds []) :=
  ⟨fun _ _ _ => Adds.trans⟩

theorem asking_adds {answer : Host → Reply α × Host}
    (adds : ∀ host : Host, host.Adds [] (answer host).2) :
    (asking answer : Proc (Engine β) α).Respects (Adds []) := by
  intro engine
  have added := adds engine.host
  rw [runOn_asking]
  generalize answer engine.host = replied at added ⊢
  rcases replied with ⟨_ | _ | _, host⟩ <;> exact ⟨host, added, rfl⟩

theorem newException_adds (kind : ErrorKind) (message : Bytes) :
    (newException kind message : Proc (Engine β) Value).Respects (Adds []) :=
  asking_adds fun host => host.newException_adds kind message

end Engine

namespace Format

end Format

/-- The exception a host raises for a fault, and what becomes of the host. -/
inductive Fault.RaisedBy (host : Host) (fault : Fault) : Value → Host → Prop
  | existing {exception : Value} (already : fault.counterpart = .existing exception) :
      RaisedBy host fault exception host
  | fresh {kind : ErrorKind} {message : Bytes} (made : fault.counterpart = .fresh kind message) :
      RaisedBy host fault (host.newException kind message).1 (host.newException kind message).2

theorem Fault.RaisedBy.adds {host after : Host} {fault : Fault} {exception : Value}
    (raised : fault.RaisedBy host exception after) : host.Adds [] after := by
  cases raised with
  | existing already => exact .refl host
  | fresh made => exact host.newException_adds _ _

section Current

variable {gate : Gate β ω} {scope : Scope} (current : gate.context.current? = some scope)

include current

namespace Variadic

theorem runOn_onEngine {p : Trailing (Engine β) α} {cursor rest : Cursor}
    {result : Except Exit α} {host : Host}
    (ran : p.runOn (cursor, gate.engine scope.engine) =
      (result, rest, { gate.engine scope.engine with host })) :
    (onEngine p : Variadic β ω α).runOn (cursor, gate) =
      (result, rest, gate.changeHost scope.engine fun _ => host) := by
  change (onState Native.engineNumber >>= _).runOn (cursor, gate) = _
  rw [Proc.runOn_bind_of_ok (runOn_engineNumber current cursor), atEngine, zoomState,
    Proc.runOn_zoom, ran]
  rfl

end Variadic

end Current

namespace Reports

open Format (render pieces)

/-- What becomes of a warning that is let through, by how the formatting of its message ends. -/
inductive Warned (category : Option WarningCategory) (host : Host) :
    Except Exit Bytes → Except Exit Unit → Host → Prop
  | shown {text : Bytes} {after : Host} (adds : host.Adds [Host.warningLine category text] after) :
      Warned category host (.ok text) (.ok ()) after
  | raised {fault : Fault} {failed after : Host} {exception : Value} (adds : host.Adds [] failed)
      (raises : fault.RaisedBy failed exception after) :
      Warned category host (.error (.failed fault)) (.error (.raised exception)) after
  | left {exit : Exit} {after : Host} (other : ¬ exit.IsFault) (adds : host.Adds [] after) :
      Warned category host (.error exit) (.error exit) after

inductive Warning
  | unlessSilent
  | ifVerbose
  | ifEnabled (category : WarningCategory)

namespace Warning

def call (format : Bytes) : Warning → Variadic β ω Unit
  | unlessSilent => warnUnlessSilent format
  | ifVerbose => warnIfVerbose format
  | ifEnabled category => warnIfEnabled category format

def queries (host : Host) : Warning → List String
  | unlessSilent | ifVerbose => [Operation.verbose.name]
  | ifEnabled _ =>
      if host.verbose = .nil then [Operation.verbose.name]
      else [Operation.verbose.name, Query.categoryEnabledP.name]

def asked (host : Host) (warning : Warning) : Host :=
  { host with log := host.log ++ warning.queries host }

end Warning

theorem Warned.before {category : Option WarningCategory} {host asked after : Host}
    {formatted : Except Exit Bytes} {result : Except Exit Unit}
    (warned : Warned category asked formatted result after) (adds : host.Adds [] asked) :
    Warned category host formatted result after := by
  cases warned with
  | shown added => exact .shown (adds.trans added)
  | raised added raises => exact .raised (adds.trans added) raises
  | left other added => exact .left other (adds.trans added)

section Current

variable {gate : Gate β ω} {scope : Scope} (current : gate.context.current? = some scope)
  {host : Host} (hasHost : (gate.engine scope.engine).host = host)
  (unpinned : (gate.engine scope.engine).pinned = [])

include current hasHost unpinned

namespace Warning

end Warning

end Current

end Reports

end NativeGate
