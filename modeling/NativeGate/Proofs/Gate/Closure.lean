import NativeGate.Gate.Symbols

namespace NativeGate.Symbols

variable {β ω : Type}

def operations : List Operation :=
  [.intern, .checkSymbol, .checkStringType, .inspect, .symToId, .symToString, .symToS, .idToString,
    .toSymbol]

/-- What holds of calls into an engine carries over to calls through the gate, and is kept by
sequencing. -/
structure Closed (Q : {α : Type} → Proc (Engine β) α → Prop)
    (P : {α : Type} → Native β ω α → Prop) : Prop where
  pure : ∀ {α : Type} (a : α), Q (pure a)
  bind : ∀ {α γ : Type} {p : Proc (Engine β) α} {next : α → Proc (Engine β) γ},
    Q p → (∀ a, Q (next a)) → Q (p >>= next)
  perform : ∀ op ∈ operations, ∀ args, Q (Engine.perform op args)
  ask : ∀ query args, Q (Engine.ask query args)
  newString : ∀ bytes encoding, Q (Engine.newString bytes encoding)
  readString : ∀ string, Q (Engine.readString string)
  failWith : ∀ {α : Type} (kind : ErrorKind) (message : Bytes),
    Q (Engine.failWith kind message : Proc (Engine β) α)
  through : ∀ {α : Type} {p : Proc (Engine β) α}, Q p → P (Native.onEngine p)
  returned : ∀ {α : Type} (a : α), P (Pure.pure a)
  followed : ∀ {α γ : Type} {p : Native β ω α} {next : α → Native β ω γ},
    P p → (∀ a, P (next a)) → P (p >>= next)

namespace Closed

variable {Q : {α : Type} → Proc (Engine β) α → Prop} {P : {α : Type} → Native β ω α → Prop}
  (closed : Closed Q P)

include closed

theorem performed {op : Operation} (member : op ∈ operations) (args : List Value) :
    P (Native.onEngine (Engine.perform op args)) :=
  closed.through (closed.perform op member args)

theorem symbol? (v : Value) : P (symbol? v) := by
  unfold Symbols.symbol?
  split
  · exact closed.returned _
  · exact closed.through (closed.ask _ _)

theorem lookUpId (v : Value) : Q (lookUpId v) := by
  refine closed.bind (closed.perform _ (by decide) _) fun answer => ?_
  split
  · exact closed.pure _
  · exact closed.failWith _ _

theorem toId (symbol : Value) : P (toId symbol) := by
  unfold Symbols.toId
  split
  · exact closed.returned _
  · exact closed.through (closed.lookUpId symbol)

theorem inspect (v : Value) : Q (Engine.inspect v) :=
  closed.bind (closed.perform _ (by decide) _) closed.readString

theorem stringOf (name : Value) : Q (stringOf name) := by
  refine closed.bind (closed.ask _ _) fun isString => ?_
  split
  · exact closed.pure _
  · refine closed.bind (closed.perform _ (by decide) _) fun converted => ?_
    split
    · exact closed.bind (closed.inspect name) fun _ => closed.failWith _ _
    · exact closed.pure _

theorem internString (string : Value) : P (internString string) :=
  closed.followed (closed.performed (by decide) _) closed.toId

theorem intern (name : Bytes) (encoding : Encoding) : P (intern name encoding) :=
  closed.followed (closed.through (closed.newString _ _)) closed.internString

theorem idOf (name : Value) : P (idOf name) := by
  refine closed.followed (closed.symbol? name) fun isSymbol => ?_
  split
  · exact closed.toId name
  · exact closed.followed (closed.through (closed.stringOf name)) closed.internString

theorem existingId? (name : Value) : P (existingId? name) := by
  refine closed.followed (closed.symbol? name) fun isSymbol => ?_
  split
  · exact closed.followed (closed.toId name) fun _ => closed.returned _
  · refine closed.followed (closed.through (closed.bind (closed.stringOf name) fun _ =>
      closed.perform _ (by decide) _)) fun symbol => ?_
    split
    · exact closed.returned _
    · exact closed.followed (closed.toId symbol) fun _ => closed.returned _

theorem toSymbol (name : Value) : P (toSymbol name) :=
  closed.performed (by decide) _

theorem nameString (symbol : Value) : P (nameString symbol) :=
  closed.performed (by decide) _

theorem copyName (symbol : Value) : P (copyName symbol) :=
  closed.performed (by decide) _

theorem nameStringOfId (id : UInt64) : P (nameStringOfId id) := by
  unfold Symbols.nameStringOfId
  split
  · exact closed.returned _
  · exact closed.performed (by decide) _

theorem name? (id : UInt64) : P (name? id) := by
  unfold Symbols.name?
  split
  · exact closed.returned _
  · exact closed.followed (closed.nameStringOfId id) fun string =>
      closed.followed (closed.through (closed.readString string)) fun _ => closed.returned _

end Closed

end NativeGate.Symbols
