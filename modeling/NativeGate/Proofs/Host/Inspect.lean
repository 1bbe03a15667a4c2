import NativeGate.Proofs.Host.Run

namespace NativeGate.Host

open NativeGate

theorem inspectWithin_note (host : Host) (name : String) (depth : Nat) (v : Value) :
    (host.note name).inspectWithin depth v = host.inspectWithin depth v := by
  induction depth generalizing v with
  | zero =>
    rw [inspectWithin, inspectWithin]
    rfl
  | succ depth ih =>
    have same : (host.note name).inspectWithin depth = host.inspectWithin depth := funext ih
    rw [inspectWithin, inspectWithin]
    simp only [ih, same]
    rfl

theorem inspect?_note (host : Host) (name : String) (v : Value) :
    (host.note name).inspect? v = host.inspect? v :=
  inspectWithin_note ..

theorem toString?_note (host : Host) (name : String) (v : Value) :
    (host.note name).toString? v = host.toString? v := by
  unfold toString?
  rw [inspect?_note]
  rfl

theorem invoke_inspect_endless_iff (host : Host) (v : Value) :
    (host.invoke Operation.inspect.name [v]).1 = .endless ↔ host.inspect? v = none := by
  rw [invoke_endless_iff, ← host.inspect?_note Operation.inspect.name v]
  cases text : (host.note Operation.inspect.name).inspect? v <;>
    simp [plan, argument, inspected, text, bind, Except.bind, pure, Except.pure]

theorem invoke_objAsString_endless_iff (host : Host) (v : Value) :
    (host.invoke Operation.objAsString.name [v]).1 = .endless ↔ host.toString? v = none := by
  rw [invoke_endless_iff, ← host.toString?_note Operation.objAsString.name v]
  rcases text : (host.note Operation.objAsString.name).toString? v with _ | _ | _ <;>
    simp [plan, argument, text, bind, Except.bind, pure, Except.pure]

end NativeGate.Host
