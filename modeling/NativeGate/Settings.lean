namespace NativeGate

/-- White space as Unicode defines it. -/
def Blank.holds (c : Char) : Bool :=
  let n := c.toNat
  (9 ≤ n && n ≤ 13) || n = 0x20 || n = 0x85 || n = 0xA0 || n = 0x1680 ||
    (0x2000 ≤ n && n ≤ 0x200A) || n = 0x2028 || n = 0x2029 || n = 0x202F || n = 0x205F ||
    n = 0x3000

def Blank.trim (text : List Char) : List Char :=
  ((text.dropWhile holds).reverse.dropWhile holds).reverse

inductive BugAction
  | abort
  | unwind
deriving DecidableEq, Repr, Inhabited

/-- The word may stand in blanks and in any ASCII case. -/
def BugAction.parse? (text : String) : Option BugAction :=
  let word := (Blank.trim text.toList).map Char.toLower
  if word = "abort".toList then some .abort
  else if word = "unwind".toList then some .unwind
  else none

structure Settings where
  bugAction : BugAction := .abort
deriving DecidableEq, Repr, Inhabited

/-- The settings under an environment variable's value; one that makes no sense is ignored. -/
def Settings.ofEnvironment (value : Option String) : Settings :=
  match value.bind BugAction.parse? with
  | some bugAction => { bugAction }
  | none => {}

end NativeGate
