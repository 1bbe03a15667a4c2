import NativeGate.Text.Numeral

namespace NativeGate

/-! Versions of the binary interface are written as the engine's version, a dot, and a number. -/

structure AbiVersion where
  engine : List Char
  number : Nat
deriving DecidableEq, Repr

namespace AbiVersion

/-- What `rb_tr_abi_version` returns. -/
def currentText : String := "3.3.7.11"

def splitLastDot? : List Char → Option (List Char × List Char)
  | [] => none
  | c :: rest =>
      match splitLastDot? rest with
      | some (before, after) => some (c :: before, after)
      | none => if c = '.' then some ([], rest) else none

def components : List Char → List (List Char)
  | [] => [[]]
  | c :: rest =>
      if c = '.' then [] :: components rest
      else
        match components rest with
        | [] => [[c]]
        | first :: others => (c :: first) :: others

def isDigits (cs : List Char) : Bool :=
  !cs.isEmpty && cs.all Char.isDigit

def digitOf (c : Char) : Nat :=
  c.toNat - 48

def maxNumber : Nat := 4294967295

/-- A decimal number below `2 ^ 32`; one `+` may stand in front of it. -/
def parseNumber? (cs : List Char) : Option Nat :=
  let ds :=
    match cs with
    | '+' :: rest => rest
    | _ => cs
  let number := Numeral.valueUpTo (maxNumber + 1) 10 (ds.map digitOf)
  if isDigits ds ∧ number ≤ maxNumber then some number else none

def parse? (text : List Char) : Option AbiVersion :=
  match splitLastDot? text with
  | none => none
  | some (engine, last) =>
      match parseNumber? last with
      | none => none
      | some number =>
          if (components engine).all isDigits then some { engine, number } else none

def display (version : AbiVersion) : List Char :=
  version.engine ++ '.' :: (Numeral.digits 10 version.number).map (fun d => Char.ofNat (48 + d))

def isCompatibleWith (version other : AbiVersion) : Bool :=
  version = other

def current : AbiVersion where
  engine := "3.3.7".toList
  number := 11

end AbiVersion

end NativeGate
