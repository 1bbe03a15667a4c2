import NativeGate.Host.Basic

namespace NativeGate

namespace Quotation

/-- How one octet stands between double quotes.  High octets stay only in sound UTF-8. -/
def escape (keepHigh : Bool) (b : UInt8) : Bytes :=
  if b = 0x22 then octets "\\\""
  else if b = 0x5c then octets "\\\\"
  else if b = 0x0a then octets "\\n"
  else if b = 0x09 then octets "\\t"
  else if 0x20 ≤ b && b ≤ 0x7e then [b]
  else if keepHigh && b ≥ 0x80 then [b]
  else octets "\\x" ++ Numeral.padded 2 (Numeral.inBase 16 .upper b.toNat)

def quote (bytes : Bytes) (encoding : Encoding) : Bytes :=
  let keepHigh := encoding = .utf8 && Utf8.isValid bytes
  0x22 :: bytes.flatMap (escape keepHigh) ++ [0x22]

end Quotation

namespace Host

def className (host : Host) (definition : Value) : Bytes :=
  match (host.objects.classDef? definition).bind (·.name) with
  | some name => name
  | none => octets "#<Class:" ++ Numeral.address definition.bits ++ octets ">"

def inspectLeaf? (host : Host) (v : Value) : Option Bytes :=
  if v = Value.nil then some (octets "nil")
  else if v = Value.yes then some (octets "true")
  else if v = Value.no then some (octets "false")
  else if v = Value.undefined then some (octets "undef")
  else
    match v.asFixnum? with
    | some n => some (Numeral.integer n.toInt)
    | none =>
        match host.symbolId? v with
        | some id => some (octets ":" ++ host.symbolName id)
        | none => none

def recordHead (host : Host) (definition : Value) : Bytes :=
  octets "#<struct " ++
    match (host.objects.classDef? definition).bind (·.name) with
    | some name => name ++ octets " "
    | none => []

def memberNames (host : Host) (definition : Value) : List Bytes :=
  match host.objects.classDef? definition with
  | some c => c.members.map host.symbolName
  | none => []

/-- Inspect a value whose contents nest at most `depth` deep; deeper ones have no text here. -/
def inspectWithin (host : Host) : Nat → Value → Option Bytes
  | depth, v =>
      match host.inspectLeaf? v with
      | some text => some text
      | none =>
          match host.objects.get? v with
          | some (.string s) => some (Quotation.quote s.bytes s.encoding)
          | some (.array elements) =>
              match depth with
              | 0 => none
              | depth + 1 => do
                  let texts ← elements.mapM (host.inspectWithin depth)
                  return octets "[" ++ Bytes.joinWith (octets ", ") texts ++ octets "]"
          | some (.classDef _) => some (host.className v)
          | some (.record definition fields) =>
              match depth with
              | 0 => none
              | depth + 1 => do
                  let shown ← ((host.memberNames definition).zip fields).mapM
                    fun (name, field) => do
                      return name ++ octets "=" ++ (← host.inspectWithin depth field)
                  return host.recordHead definition ++ Bytes.joinWith (octets ", ") shown ++
                    octets ">"
          | some (.exception definition message) =>
              some (octets "#<" ++ host.className definition ++ octets ": " ++ message ++
                octets ">")
          | none => some (octets "#<Object:" ++ Numeral.address v.bits ++ octets ">")

/-- A value that nests deeper than there are objects contains itself, and its text never ends. -/
def inspect? (host : Host) (v : Value) : Option Bytes :=
  host.inspectWithin host.objects.size v

/-- What `rb_obj_as_string` makes of a value: a string is itself. -/
inductive Conversion
  | itself
  | fresh (bytes : Bytes) (encoding : Encoding)
deriving DecidableEq, Repr

def toString? (host : Host) (v : Value) : Option Conversion :=
  if (host.objects.string? v).isSome then some .itself
  else
    match host.symbolId? v with
    | some id => let (name, encoding) := host.symbolParts id; some (.fresh name encoding)
    | none =>
        if v = Value.nil then some (.fresh [] .utf8)
        else if (host.objects.classDef? v).isSome then some (.fresh (host.className v) .utf8)
        else (host.inspect? v).map (.fresh · .utf8)

end Host

end NativeGate
