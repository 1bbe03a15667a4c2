import NativeGate.Format.Directive

namespace NativeGate.Format

open NativeGate

/-! Splitting a format string into pieces, one octet at a time. -/

/-- Where the scan stands.  All but `text` are inside a directive, read as far as `d` tells. -/
inductive Stage
  | text
  | flags (d : Directive)
  | width (d : Directive)
  | widthDone (d : Directive)
  | point (d : Directive)
  | precision (d : Directive)
  | precisionDone (d : Directive)
  | short (d : Directive)
  | long (d : Directive)
  | lengthDone (d : Directive)
  /-- Behind a long `i`, which a mark may turn into a managed value. -/
  | longInteger (d : Directive)
deriving DecidableEq, Repr

/-- The vertical tab behind `%li` stands for a managed value. -/
def valueMark : UInt8 := 0x0b

def digitValue (b : UInt8) : Nat :=
  b.toNat - 48

def Amount.appendDigit (b : UInt8) : Amount → Amount
  | .given n => .given (Numeral.appendUpTo mostWord 10 n (digitValue b))
  | .star => .star

def conversionOf (b : UInt8) : Conversion :=
  if b = 0x25 then .percent
  else if b = 0x64 ∨ b = 0x69 then .signed
  else if b = 0x75 then .unsigned .decimal
  else if b = 0x78 then .unsigned (.hexadecimal .lower)
  else if b = 0x58 then .unsigned (.hexadecimal .upper)
  else if b = 0x6f then .unsigned .octal
  else if b = 0x63 then .character
  else if b = 0x73 then .text
  else if b = 0x70 then .pointer
  else if b = 0x66 then .float .fixed
  else if b = 0x65 then .float .scientific
  else .unknown b

abbrev Scanned := List Piece × Stage

def Directive.complete (d : Directive) (conversion : Conversion) : Piece :=
  .directive { d with conversion }

def onConversion (d : Directive) (b : UInt8) : Scanned :=
  if b = 0x69 ∧ d.length = .long then ([], .longInteger d)
  else ([d.complete (conversionOf b)], .text)

def onLength (d : Directive) (b : UInt8) : Scanned :=
  if b = 0x68 then ([], .short { d with length := .short })
  else if b = 0x6c then ([], .long { d with length := .long })
  else if b = 0x7a ∨ b = 0x6a ∨ b = 0x74 then ([], .lengthDone { d with length := .long })
  else onConversion d b

def onPrecision (d : Directive) (b : UInt8) : Scanned :=
  if b = 0x2e then ([], .point { d with precision := some (.given 0) })
  else onLength d b

def onWidth (d : Directive) (b : UInt8) : Scanned :=
  if Numeral.isDigit b then ([], .width { d with width := d.width.appendDigit b })
  else onPrecision d b

def flagOf? (flags : Flags) (b : UInt8) : Option Flags :=
  if b = 0x2d then some { flags with left := true }
  else if b = 0x2b then some { flags with plus := true }
  else if b = 0x20 then some { flags with space := true }
  else if b = 0x30 then some { flags with zero := true }
  else if b = 0x23 then some { flags with alternate := true }
  else none

def onFlag (d : Directive) (b : UInt8) : Scanned :=
  match flagOf? d.flags b with
  | some flags => ([], .flags { d with flags })
  | none =>
      if b = 0x2a then ([], .widthDone { d with width := .star })
      else onWidth d b

def onPrecisionDigit (d : Directive) (b : UInt8) : Scanned :=
  if Numeral.isDigit b then
    ([], .precision { d with precision := d.precision.map (·.appendDigit b) })
  else onLength d b

def onText (b : UInt8) : Scanned :=
  if b = 0x25 then ([], .flags {}) else ([.literal b], .text)

def step : Stage → UInt8 → Scanned
  | .text, b => onText b
  | .flags d, b => onFlag d b
  | .width d, b => onWidth d b
  | .widthDone d, b => onPrecision d b
  | .point d, b =>
      if b = 0x2a then ([], .precisionDone { d with precision := some .star })
      else onPrecisionDigit d b
  | .precision d, b => onPrecisionDigit d b
  | .precisionDone d, b => onLength d b
  | .short d, b =>
      if b = 0x68 then ([], .lengthDone { d with length := .char }) else onConversion d b
  | .long d, b => if b = 0x6c then ([], .lengthDone d) else onConversion d b
  | .lengthDone d, b => onConversion d b
  | .longInteger d, b =>
      if b = valueMark then ([d.complete .value], .text)
      else
        let (pieces, stage) := onText b
        (d.complete .signed :: pieces, stage)

def Stage.finish : Stage → List Piece
  | .text => []
  | .flags d | .width d | .widthDone d | .point d | .precision d | .precisionDone d | .short d
  | .long d | .lengthDone d => [d.complete .missing]
  | .longInteger d => [d.complete .signed]

def scanFrom (stage : Stage) : Bytes → List Piece
  | [] => stage.finish
  | b :: rest =>
      let (pieces, next) := step stage b
      pieces ++ scanFrom next rest

def pieces (format : Bytes) : List Piece :=
  scanFrom .text format

end NativeGate.Format
