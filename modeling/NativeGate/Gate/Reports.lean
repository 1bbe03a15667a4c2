import NativeGate.Format.Render
import NativeGate.Gate.Basic

namespace NativeGate.Reports

open NativeGate

/-! `rb_warn`, `rb_warning`, `rb_category_warn`, `rb_fatal` and `rb_bug`.  Warnings that are
switched off read no argument. -/

variable {α β ω : Type}

def format (format : Bytes) : Variadic β ω Bytes :=
  Variadic.onEngine (Format.render format)

def message (format : Bytes) : Trailing (Engine β) Value := do
  let text ← Format.render format
  Trailing.onState (Engine.newString text .utf8)

def warn (format : Bytes) : Variadic β ω Unit :=
  Variadic.onEngine do
    let message ← message format
    let _ ← Trailing.onState (Engine.perform .warn [message])

def warnOf (category : WarningCategory) (format : Bytes) : Variadic β ω Unit :=
  Variadic.onEngine do
    let message ← message format
    let category := Value.fixnum (Int64.ofInt category.raw)
    let _ ← Trailing.onState (Engine.perform .categoryWarn [category, message])

def verbosity : Native β ω Value :=
  Native.raising (Native.onEngine (Engine.perform .verbose []))

def isEnabled (category : WarningCategory) : Native β ω Bool :=
  Native.raising <| Native.onEngine <|
    Engine.ask .categoryEnabledP [.fixnum (Int64.ofInt category.raw)]

def warnUnlessSilent (format : Bytes) : Variadic β ω Unit := do
  let verbosity ← (verbosity : Native β ω Value)
  if verbosity.isNil then return () else (warn format).raising

def warnIfVerbose (format : Bytes) : Variadic β ω Unit := do
  let verbosity ← (verbosity : Native β ω Value)
  if verbosity.isTruthy then (warn format).raising else return ()

/-- `rb_category_warn`: unless `$VERBOSE` is nil, if the category is enabled. -/
def warnIfEnabled (category : WarningCategory) (format : Bytes) : Variadic β ω Unit := do
  let verbosity ← (verbosity : Native β ω Value)
  if verbosity.isNil then return ()
  else if ← (isEnabled category : Native β ω Bool) then (warnOf category format).raising
  else return ()

/-- The exception of a fatal error.  An engine that raises none gets one made from the message. -/
def fatalException (format : Bytes) : Variadic β ω Value :=
  Variadic.onEngine do
    let message ← message format
    Trailing.onState do
      match ← (Engine.perform .fatal [message]).catchFault with
      | .error (.raised exception) => return exception
      | .error fault => Proc.fail fault
      | .ok _ => Engine.newException .fatal (← Engine.readString message)

def unformattedFatal (format : Bytes) : Native β ω Value := do
  match (← get).context.current? with
  | some scope => Native.atEngine scope.engine (Engine.newException .fatal format)
  | none => Native.abort

/-- `rb_fatal`; a message that cannot be formatted is replaced by the format itself. -/
def fatal (format : Bytes) : Variadic β ω α := do
  match ← (fatalException format).catchFault with
  | .ok exception => throw (.fatal exception)
  | .error _ =>
      let exception ← (unformattedFatal format : Native β ω Value)
      throw (.fatal exception)

def bugReport (format : Bytes) : Variadic β ω Bytes :=
  Variadic.onEngine do
    let text ← Format.render format
    Trailing.onState do
      let message ← Engine.newString text .utf8
      let _ ← Engine.perform .bug [message]
      return Utf8.lossy text

/-- `rb_bug` reports and never comes back. -/
def bug (format : Bytes) : Variadic β ω α := do
  let report ←
    match ← (bugReport format).catchFault with
    | .ok report => pure report
    | .error _ => pure (Utf8.lossy format)
  let settings ← (Native.settings : Native β ω Settings)
  match settings.bugAction with
  | .abort => throw .aborted
  | .unwind => throw (.bug report)

end NativeGate.Reports
