import NativeGate.Settings

namespace NativeGate

structure Scope where
  engine : Nat
  settings : Settings := {}
deriving DecidableEq, Repr

structure Context where
  /-- Innermost first. -/
  scopes : List Scope := []
  installed : Option Scope := none
deriving DecidableEq, Repr

namespace Context

def current? (context : Context) : Option Scope :=
  context.scopes.head?.or context.installed

def settings (context : Context) : Settings :=
  (context.current?.map (·.settings)).getD {}

def enter (context : Context) (scope : Scope) : Context :=
  { context with scopes := scope :: context.scopes }

def leave (context : Context) : Context :=
  { context with scopes := context.scopes.drop 1 }

/-- Only the first engine can be installed. -/
def install? (context : Context) (scope : Scope) : Option Context :=
  match context.installed with
  | some _ => none
  | none => some { context with installed := some scope }

end Context

end NativeGate
