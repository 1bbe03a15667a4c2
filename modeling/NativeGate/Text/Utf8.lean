import NativeGate.Bytes

namespace NativeGate.Utf8

open NativeGate

/-- Where the machine stands: between characters, or owing tails of which the next one may be
restricted. -/
inductive State
  | start
  | tail1
  | tail2
  | tail3
  | afterE0
  | afterED
  | afterF0
  | afterF4
deriving DecidableEq, Repr

def within (low high octet : UInt8) (next : State) : Option State :=
  if low ≤ octet && octet ≤ high then some next else none

def lead (octet : UInt8) : Option State :=
  if octet ≤ 0x7F then some .start
  else if octet < 0xC2 then none
  else if octet ≤ 0xDF then some .tail1
  else if octet = 0xE0 then some .afterE0
  else if octet = 0xED then some .afterED
  else if octet ≤ 0xEF then some .tail2
  else if octet = 0xF0 then some .afterF0
  else if octet ≤ 0xF3 then some .tail3
  else if octet = 0xF4 then some .afterF4
  else none

def step : State → UInt8 → Option State
  | .start, octet => lead octet
  | .tail1, octet => within 0x80 0xBF octet .start
  | .tail2, octet => within 0x80 0xBF octet .tail1
  | .tail3, octet => within 0x80 0xBF octet .tail2
  | .afterE0, octet => within 0xA0 0xBF octet .tail1
  | .afterED, octet => within 0x80 0x9F octet .tail1
  | .afterF0, octet => within 0x90 0xBF octet .tail2
  | .afterF4, octet => within 0x80 0x8F octet .tail2

def run : State → Bytes → Option State
  | state, [] => some state
  | state, octet :: rest =>
      match step state octet with
      | some next => run next rest
      | none => none

def isValid (bytes : Bytes) : Bool :=
  run .start bytes = some .start

/-! Lossy decoding puts one replacement character for each maximal part that no character can
start with. -/

def replacement : Bytes :=
  [0xEF, 0xBF, 0xBD]

/-- `pending` is the unfinished character read so far; it is empty exactly in the start state. -/
def lossyFrom (state : State) (pending : Bytes) : Bytes → Bytes
  | [] => if pending.isEmpty then [] else replacement
  | octet :: rest =>
      match step state octet with
      | some .start => pending ++ octet :: lossyFrom .start [] rest
      | some next => lossyFrom next (pending ++ [octet]) rest
      | none =>
          (if pending.isEmpty then [] else replacement) ++
            match lead octet with
            | some .start => octet :: lossyFrom .start [] rest
            | some next => lossyFrom next [octet] rest
            | none => replacement ++ lossyFrom .start [] rest

def lossy (bytes : Bytes) : Bytes :=
  lossyFrom .start [] bytes

end NativeGate.Utf8
