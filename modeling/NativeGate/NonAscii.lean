import NativeGate.Bytes

namespace NativeGate.NonAscii

open NativeGate

/-! The search for the first octet above 0x7F, a word at a time. -/

structure WordAccess where
  unaligned : Bool
  bigEndian : Bool
deriving DecidableEq, Repr

namespace WordAccess

def native : WordAccess := ⟨true, false⟩

def load (access : WordAccess) (window : Bytes) : UInt64 :=
  if access.bigEndian then
    window.foldl (fun word b => (word <<< 8) ||| b.toUInt64) 0
  else
    window.foldr (fun b word => (word <<< 8) ||| b.toUInt64) 0

end WordAccess

/-- The high bit of every octet in a word. -/
def highMask : UInt64 := 0x8080808080808080

def leadingZeros (word : UInt64) : UInt64 :=
  63 - word.log2

def trailingZeros (word : UInt64) : UInt64 :=
  (word &&& (0 - word)).log2

/-- Which octet of a window the first set high bit belongs to. -/
def WordAccess.octetIndex (access : WordAccess) (high : UInt64) : Nat :=
  ((if access.bigEndian then leadingZeros high else trailingZeros high) >>> 3).toNat

def scanWords (access : WordAccess) (offset : Nat) : Bytes → Option Nat
  | b0 :: b1 :: b2 :: b3 :: b4 :: b5 :: b6 :: b7 :: rest =>
      let high := access.load [b0, b1, b2, b3, b4, b5, b6, b7] &&& highMask
      if high ≠ 0 then some (offset + access.octetIndex high)
      else scanWords access (offset + 8) rest
  | rest => rest.firstHigh?.map (offset + ·)

/-- Search `bytes`, which start at `address`; the outer `none` is a read outside them.  Machines
without cheap unaligned loads first walk up to a word boundary. -/
def search? (access : WordAccess) (address : Nat) (bytes : Bytes) : Option (Option Nat) :=
  if access.unaligned then some (scanWords access 0 bytes)
  else if bytes.length < 8 then some bytes.firstHigh?
  else if address % 8 = 0 then some (scanWords access 0 bytes)
  else
    let lead := 8 - address % 8
    if lead ≤ bytes.length then
      match Bytes.firstHigh? (bytes.take lead) with
      | some i => some (some i)
      | none => some (scanWords access lead (bytes.drop lead))
    else none

def search (bytes : Bytes) : Option Nat :=
  (search? .native 0 bytes).join

/-- Search the addresses from `start` up to `stop`; from the null pointer on nothing is found. -/
def searchAddresses? (access : WordAccess) (memory : Nat → UInt8) (start stop : Nat) :
    Option (Option Nat) :=
  if start = 0 ∨ stop ≤ start then some none
  else
    (search? access start ((List.range' start (stop - start)).map memory)).map
      (·.map (start + ·))

def searchRange (bytes : Bytes) (start stop : Nat) : Option Nat :=
  if stop ≤ start then none
  else (search ((bytes.drop start).take (stop - start))).map (start + ·)

end NativeGate.NonAscii
