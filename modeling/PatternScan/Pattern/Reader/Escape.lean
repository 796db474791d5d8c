import PatternScan.Pattern.Reader.Basic
import PatternScan.Pattern.Unicode.Property

/-!
# Escapes

What may follow a backslash. `escape` reads it, and gives a character, the number of a group that
is referred to, or the letter of an escape that means more than a character; `property` reads
what follows `\p`.
-/

namespace PatternScan.Pattern.Reader

/-- What an escape stands for. -/
inductive Escape
  | char (c : Char)
  | backReference (n : Nat)
  /-- An escape that is known by its letter. -/
  | letter (c : Char)
deriving DecidableEq, Repr

/-- The letters of escapes that mean more than a character. -/
def meaningful : List Char := "ABCDEGHKNPQRSVWXZbdhkpsvwz".toList

/-- The letters of escapes that are known, and refused. -/
def refused : List Char := "FLUlu".toList

/-- The control characters that have a letter. -/
def control? (c : Char) : Option Char :=
  [('a', '\x07'), ('e', '\x1b'), ('f', '\x0c'), ('n', '\n'), ('r', '\r'), ('t', '\t')].lookup c

/-- The largest character that a pattern may name. -/
def largestChar (utf : Bool) : Nat :=
  if utf then 0x10ffff else 0xff

/-- Whether a number is reserved and stands for no character. -/
def isSurrogate (n : Nat) : Bool :=
  0xd800 ≤ n && n ≤ 0xdfff

/-! ## Characters by number -/

/-- Scans digits that continue the number `n`; there is no value if it gets above `most`. -/
def scanCode (value? : Char → Option Nat) (base most n : Nat) :
    List Glyph → Option Nat × List Glyph
  | [] => (some n, [])
  | g :: more =>
    match value? g.char with
    | none => (some n, g :: more)
    | some d =>
      if n * base + d > most then (none, more.dropWhile fun g => (value? g.char).isSome)
      else scanCode value? base most (n * base + d) more

/-- A fault at the next character, or before the end of the pattern if there is none. -/
def faultNear {α : Type} (cause : Cause) : Read α := do
  if (← peek).isSome then fault cause else faultBefore cause

/-- Reads a number in braces, from behind the opening one. -/
def bracedCode (value? : Char → Option Nat) (base : Nat) (malformed : Cause) : Read Char := do
  let utf := (← get).setup.utf
  if (← peek).isNone || (← comes "\x7d") then fault .digitsMissing
  let (n, behind) := scanCode value? base (largestChar utf) 0 (← rest)
  moveTo behind
  match n with
  | none => fault .codePointTooBig
  | some n =>
    if ← accept '\x7d' then
      if utf && isSurrogate n then faultBefore .surrogate
      return Char.ofNat n
    else faultNear malformed

/-- Reads what follows `\x`. -/
def hexEscape : Read Char := do
  if ← accept '\x7b' then bracedCode hex? 16 .hexForm
  else
    let digits := ((← rest).take 2).takeWhile fun g => (hex? g.char).isSome
    skip digits.length
    return Char.ofNat (digits.foldl (fun n g => n * 16 + (hex? g.char).getD 0) 0)

/-- Reads what follows `\o`. -/
def octalEscape : Read Char := do
  if ← accept '\x7b' then bracedCode octal? 8 .octalForm else faultNear .octalWithoutBrace

/-- Reads what follows `\c`. -/
def controlEscape : Read Char := do
  match ← peek with
  | none => fault .endAfterControl
  | some c =>
    if c < ' ' || '~' < c then fault .controlNotPrintable
    skip 1
    return Char.ofNat (c.toUpper.toNat ^^^ 0x40)

/-- Reads up to two more octal digits. -/
def octalDigits (first : Nat) : Read Char := do
  let digits := ((← rest).take 2).takeWhile fun g => (octal? g.char).isSome
  skip digits.length
  let n := digits.foldl (fun n g => n * 8 + (octal? g.char).getD 0) first
  if !(← get).setup.utf && n > 0xff then fault .octalTooBig
  return Char.ofNat n

/-! ## References -/

/-- A reference to a group by number. -/
def numbered (n : Nat) : Read Escape := do
  if n = 0 then fault .noSuchGroup
  return .backReference n

/-- Reads what follows `\g`. -/
def referenceEscape : Read Escape := do
  let groups := (← get).groups
  match ← rest with
  | [] => fault .referenceForm
  | ⟨'<', _⟩ :: _ => return .letter 'g'
  | ⟨'\'', _⟩ :: _ => return .letter 'g'
  | ⟨'\x7b', _⟩ :: more =>
    match scanGroupNumber groups more with
    | .error (cause, _) => fault cause
    | .ok (none, _) => return .letter 'k'
    | .ok (some n, ⟨'\x7d', _⟩ :: behind) =>
      moveTo behind
      numbered n
    | .ok (some _, _) => fault .referenceForm
  | g =>
    match ← take (scanGroupNumber groups g) with
    | none => fault .referenceForm
    | some n => numbered n

/-- The largest number read as one of a group. -/
def largestReference : Nat := 214748363

/-- Reads an escape of digits outside a class, from behind the first of them, `c`: a reference if
the number is small, starts with an eight or a nine, or is one of a group before. -/
def digitEscape (c : Char) (digits : List Glyph) : Read Escape := do
  let groups := (← get).groups
  match scanNumber largestReference .groupNumberTooBig digits with
  | .ok (some n, behind) =>
    if n < 10 || '8' ≤ c || n ≤ groups then
      moveTo behind
      if n > largestGroup then fault .groupNumberTooBig
      return .backReference n
    else if '8' ≤ c then return .char c
    else return .char (← octalDigits (c.toNat - '0'.toNat))
  | _ =>
    if '8' ≤ c then return .char c
    else return .char (← octalDigits (c.toNat - '0'.toNat))

/-! ## All escapes -/

/-- Reads what follows `\N`: nothing, a quantifier, or the number of a character. -/
def notNewlineEscape : Read Escape := do
  if ← comes "\x7bU+" then
    if (← get).setup.utf then
      skip 3
      return .char (← bracedCode hex? 16 .hexForm)
    else fault .namedCharacterWithoutUnicode
  else if ← comes "\x7b" then
    match scanCounts ((← rest).drop 1) with
    | .ok (some _, _) => return .letter 'N'
    | .ok (none, _) => fault .unsupportedEscape
    | .error (cause, _) => fault cause
  else return .letter 'N'

/-- Reads what follows a backslash. -/
def escape (inClass : Bool) : Read Escape := do
  let glyphs ← rest
  match ← next with
  | none => fault .endAfterBackslash
  | some c =>
    if c == 'N' then notNewlineEscape
    else if c ∈ meaningful then return .letter c
    else if let some c := control? c then return .char c
    else if c ∈ refused then fault .unsupportedEscape
    else if c == 'g' then if inClass then return .char c else referenceEscape
    else if c == '0' then return .char (← octalDigits 0)
    else if (digit? c).isSome then
      if !inClass then digitEscape c glyphs
      else if '8' ≤ c then return .char c
      else return .char (← octalDigits (c.toNat - '0'.toNat))
    else if c == 'o' then return .char (← octalEscape)
    else if c == 'x' then return .char (← hexEscape)
    else if c == 'c' then return .char (← controlEscape)
    else if c.isAlpha then faultBefore .unknownEscape
    else return .char c

/-! ## Properties -/

/-- The most characters that the name of a property may have. -/
def longestProperty : Nat := 49

/-- Whether a character does not count in the name of a property. -/
def isLoose (c : Char) : Bool :=
  c == '_' || c == '-' || c == ' ' || ('\t' ≤ c && c ≤ '\r')

/-- Scans the name of a property up to its closing brace, with at most `room` characters that
count; `name` holds those before, the last one first. -/
def scanProperty (room : Nat) (name : List Char) : List Glyph → Scan (List Char)
  | [] => .error (.malformedProperty, [])
  | g :: more =>
    if isLoose g.char then scanProperty room name more
    else if g.char == '\x00' then .error (.malformedProperty, more)
    else if g.char == '\x7d' then .ok (some name.reverse, more)
    else
      match room with
      | 0 => .error (.malformedProperty, more)
      | 1 => .error (.malformedProperty, more)
      | room + 1 => scanProperty room (g.char.toLower :: name) more

/-- The set that the name of a property stands for, with the value after a colon or an equals
sign if it has one. -/
def propertySet? (name : List Char) : Option CharSet :=
  let isSign (c : Char) : Bool := c == ':' || c == '='
  match name.dropWhile (!isSign ·) with
  | [] => Property.named? (String.ofList name)
  | _ :: value =>
    Property.valued? (String.ofList (name.takeWhile (!isSign ·))) (String.ofList value)

/-- Reads the property that follows `\p`: its set, and whether it is negated. -/
def property : Read (CharSet × Bool) := do
  let (name, negated) ← do
    match ← peek with
    | none => fault .malformedProperty
    | some '\x7b' =>
      skip 1
      if (← peek).isNone then fault .malformedProperty
      let negated ← accept '^'
      let name ← take (scanProperty longestProperty [] (← rest))
      pure (name.getD [], negated)
    | some c =>
      if !c.isAlpha then faultAt .malformedProperty ((← here) + 1)
      skip 1
      pure ([c.toLower], false)
  match propertySet? name with
  | some set => return (set, negated)
  | none => fault .unknownProperty

end PatternScan.Pattern.Reader
