/-!
# Compile options

The seven switches a caller sets, and the bit mask they stand for. Each setter changes one
switch, so the last setting of a switch counts.
-/

namespace PatternScan

/-- The switches for compiling a pattern. -/
structure Options where
  /-- Match at the start of the subject only. -/
  anchored : Bool := false
  /-- Letters match regardless of case. -/
  caseless : Bool := false
  /-- `^` and `$` match at line ends. -/
  multiline : Bool := false
  /-- `.` matches line ends too. -/
  dotAll : Bool := false
  /-- Blanks and `#` comments in the pattern are skipped. -/
  extended : Bool := false
  /-- Quantifiers are lazy unless followed by `?`. -/
  ungreedy : Bool := false
  /-- Plain parentheses capture. -/
  capture : Bool := true
deriving DecidableEq, Repr

namespace Options

/-- The names of the switches. -/
inductive Switch
  | anchored | caseless | multiline | dotAll | extended | ungreedy | capture
deriving DecidableEq, Repr

/-- The options with one switch set to `value`. -/
def set (o : Options) (s : Switch) (value : Bool) : Options :=
  match s with
  | .anchored => { o with anchored := value }
  | .caseless => { o with caseless := value }
  | .multiline => { o with multiline := value }
  | .dotAll => { o with dotAll := value }
  | .extended => { o with extended := value }
  | .ungreedy => { o with ungreedy := value }
  | .capture => { o with capture := value }

/-- The options that a list of settings leads to, applied in order to the defaults. -/
def ofSettings (settings : List (Switch × Bool)) : Options :=
  settings.foldl (fun o s => o.set s.1 s.2) {}

/-- `bit` if `b` holds, else no bit. -/
def bitIf (b : Bool) (bit : UInt32) : UInt32 :=
  if b then bit else 0

/-- The bit mask that the engine takes; not capturing is the bit, capturing the default. -/
def mask (o : Options) : UInt32 :=
  bitIf o.anchored 0x80000000 ||| bitIf o.caseless 0x8 ||| bitIf o.multiline 0x400 |||
  bitIf o.dotAll 0x20 ||| bitIf o.extended 0x80 ||| bitIf o.ungreedy 0x40000 |||
  bitIf (!o.capture) 0x2000

end Options

end PatternScan
