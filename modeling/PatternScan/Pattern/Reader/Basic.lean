import PatternScan.Pattern.Fault
import PatternScan.Pattern.Setup
import PatternScan.Pattern.Syntax
import PatternScan.Pattern.Unicode.Category
import PatternScan.Pattern.Utf8

/-!
# Reading patterns

A pattern is read character by character, each with its offset. Three things live here:

* `Glyph` and `Glyph.ofBytes`, the characters of a pattern;
* `Level` and `State`, the groups that are open and what has been read so far, and `Read`, the
  computations on them that may end in a fault;
* `scanNumber` and `scanName`, which take a number or a name off the front of some characters.
-/

namespace PatternScan.Pattern

/-- A character of a pattern and its offset. -/
structure Glyph where
  char : Char
  offset : Nat
deriving DecidableEq, Repr

/-- `Glyph.ofBytes` for bytes each of which is a character. -/
def Glyph.ofSingleBytes (offset : Nat) : Bytes → List Glyph
  | [] => []
  | b :: rest => ⟨Char.ofNat b.toNat, offset⟩ :: ofSingleBytes (offset + 1) rest

/-- `Glyph.ofBytes` for UTF-8, from an offset on. -/
def Glyph.ofUtf8 (s : ByteArray) : Nat → Nat → List Glyph
  | 0, _ => []
  | fuel + 1, i =>
    if i < s.size then
      let (c, j) := Utf8.charAt s i
      ⟨Char.ofNat c, i⟩ :: ofUtf8 s fuel j
    else []

/-- The characters of a pattern from an offset on. -/
def Glyph.ofBytes (utf : Bool) (pattern : Bytes) (offset : Nat) : List Glyph :=
  if utf then ofUtf8 ⟨pattern.toArray⟩ pattern.length offset
  else ofSingleBytes offset (pattern.drop offset)

namespace Reader

/-! ## Levels and state -/

/-- A group that is being read, or the pattern itself. -/
structure Level where
  group : Group := .plain
  /-- The switches outside, which hold again behind the group. -/
  outside : Flags
  /-- The branches that are complete, the last one first. -/
  branches : List (List Item) := []
  /-- The items of the branch that is being read, the last one first. -/
  items : List Item := []
  /-- For branches that number their groups alike: the number of groups before them, and the
  largest number of groups behind any of them. -/
  restart : Option (Nat × Nat) := none
  /-- Whether the group is the condition of the group around it. -/
  isCondition : Bool := false
  /-- Whether the choices in the group are final, beside what it is. -/
  isSealed : Bool := false

/-- What has been read so far. -/
structure State where
  setup : Setup
  /-- The length of the pattern. -/
  stop : Nat
  /-- The characters to come. -/
  rest : List Glyph
  /-- The offset of the last character read. -/
  last : Nat := 0
  flags : Flags
  groups : Nat := 0
  names : List Named := []
  sharedNumbers : Bool := false
  /-- The level that is being read. -/
  level : Level
  /-- The levels around it, the nearest one first. -/
  outer : List Level := []
  /-- The offsets at which groups below ten were first referred to. -/
  firstReferences : List (Nat × Nat) := []
  /-- Between `\Q` and `\E`. -/
  quoted : Bool := false
  /-- Whether a quantifier may follow. -/
  mayRepeat : Bool := false
  /-- Whether the last item was a quantifier, which `?` or `+` may modify. -/
  quantified : Bool := false
  /-- If a lookaround must follow, two, or one behind a callout. -/
  expecting : Nat := 0
  /-- How many of the last items are an `(*ACCEPT)` and its mark. -/
  accepting : Nat := 0

/-- A computation that reads a pattern. -/
abbrev Read := StateT State (Except Fault)

/-- The offset of the first of some characters. -/
def State.offsetOf (s : State) (rest : List Glyph) : Nat :=
  match rest with
  | [] => s.stop
  | g :: _ => g.offset

/-- The characters to come. -/
def rest : Read (List Glyph) := return (← get).rest

/-- The next character. -/
def peek : Read (Option Char) := return (← get).rest.head?.map (·.char)

/-- Whether some characters come next. -/
def comes (text : String) : Read Bool :=
  return text.toList.isPrefixOf ((← get).rest.map (·.char))

/-- The offset of the next character. -/
def here : Read Nat := do
  let s ← get
  return s.offsetOf s.rest

/-- A fault at an offset. -/
def faultAt {α : Type} (cause : Cause) (offset : Nat) : Read α :=
  throw ⟨cause, offset⟩

/-- A fault at the next character. -/
def fault {α : Type} (cause : Cause) : Read α := do faultAt cause (← here)

/-- A fault at the unit before the next character. -/
def faultBefore {α : Type} (cause : Cause) : Read α := do faultAt cause ((← here) - 1)

/-- A fault at the last character read. -/
def faultBack {α : Type} (cause : Cause) : Read α := do faultAt cause (← get).last

/-- Takes the next character. -/
def next : Read (Option Char) := do
  let s ← get
  match s.rest with
  | [] => return none
  | g :: more =>
    set { s with rest := more, last := g.offset }
    return some g.char

/-- Goes on with some of the characters to come. -/
def moveTo (target : List Glyph) : Read Unit := modify fun s =>
  let passed := s.rest.take (s.rest.length - target.length)
  { s with rest := target, last := (passed.getLast?.map (·.offset)).getD s.last }

/-- Takes some characters. -/
def skip (n : Nat) : Read Unit := do moveTo ((← rest).drop n)

/-- Takes the next character if it is `c`. -/
def accept (c : Char) : Read Bool := do
  if (← peek) = some c then
    skip 1
    return true
  else
    return false

/-- Appends an item to the branch that is being read. -/
def put (i : Item) : Read Unit :=
  modify fun s => { s with level := { s.level with items := i :: s.level.items } }

/-- Appends an item that a quantifier may follow. -/
def putRepeatable (i : Item) : Read Unit := do
  put i
  modify fun s => { s with mayRepeat := true }

/-! ## Numbers and names -/

/-- Scanning ends in a fault with the characters that were not reached. -/
abbrev Scanning := Except (Cause × List Glyph)

/-- What scanning some characters gives: a value, or none if nothing is there, and the characters
behind it. -/
abbrev Scan (α : Type) := Scanning (Option α × List Glyph)

/-- The value of a decimal digit. -/
def digit? (c : Char) : Option Nat :=
  if '0' ≤ c && c ≤ '9' then some (c.toNat - '0'.toNat) else none

/-- The value of a hexadecimal digit. -/
def hex? (c : Char) : Option Nat :=
  if '0' ≤ c && c ≤ '9' then some (c.toNat - '0'.toNat)
  else if 'a' ≤ c && c ≤ 'f' then some (c.toNat - 'a'.toNat + 10)
  else if 'A' ≤ c && c ≤ 'F' then some (c.toNat - 'A'.toNat + 10)
  else none

/-- The value of an octal digit. -/
def octal? (c : Char) : Option Nat :=
  if '0' ≤ c && c ≤ '7' then some (c.toNat - '0'.toNat) else none

/-- Whether a character comes first and is a digit. -/
def startsWithDigit : List Glyph → Bool
  | g :: _ => (digit? g.char).isSome
  | [] => false

/-- Scans digits that continue the number `n`, which must not get above `most`. -/
def scanDigits (most : Nat) (tooBig : Cause) (n : Nat) : List Glyph → Scan Nat
  | [] => .ok (some n, [])
  | g :: more =>
    match digit? g.char with
    | none => .ok (some n, g :: more)
    | some d =>
      if n * 10 + d > most then .error (tooBig, more)
      else scanDigits most tooBig (n * 10 + d) more

/-- Scans a number without sign. -/
def scanNumber (most : Nat) (tooBig : Cause) (g : List Glyph) : Scan Nat :=
  if startsWithDigit g then scanDigits most tooBig 0 g else .ok (none, g)

/-- The largest number of a group. -/
def largestGroup : Nat := 65535

/-- Scans the number of a group; one with a sign counts from the `groups` so far. -/
def scanGroupNumber (groups : Nat) (g : List Glyph) : Scan Nat :=
  match g with
  | ⟨'+', _⟩ :: more =>
    match scanNumber (largestGroup - groups) .groupNumberTooBig more with
    | .ok (some 0, rest) => .error (.relativeZero, rest)
    | .ok (some n, rest) => .ok (some (groups + n), rest)
    | .ok (none, _) => .ok (none, g)
    | .error e => .error e
  | ⟨'-', _⟩ :: more =>
    match scanNumber largestGroup .groupNumberTooBig more with
    | .ok (some 0, rest) => .error (.relativeZero, rest)
    | .ok (some n, rest) =>
      if n > groups then .error (.noSuchGroup, rest) else .ok (some (groups + 1 - n), rest)
    | .ok (none, _) => .ok (none, g)
    | .error e => .error e
  | _ => scanNumber largestGroup .groupNumberTooBig g

/-- Goes on behind what a scan found; a fault is where the scan ended. -/
def take {α : Type} (scan : Scan α) : Read (Option α) := do
  match scan with
  | .error (cause, rest) => faultAt cause ((← get).offsetOf rest)
  | .ok (found, rest) =>
    moveTo rest
    return found

/-- Whether a character may be part of a word in ASCII. -/
def isWordAscii (c : Char) : Bool :=
  c.isAlphanum || c == '_'

/-- Whether a character may be part of the name of a group. -/
def isNameChar (utf : Bool) (c : Char) : Bool :=
  if utf then
    let category := Category.of c
    category.isLetter || category == .nd || c == '_'
  else isWordAscii c

/-- Whether a name must not start with a character. -/
def isNameDigit (utf : Bool) (c : Char) : Bool :=
  if utf then Category.of c == .nd else (digit? c).isSome

/-- The longest name, in units. -/
def longestName : Nat := 32

/-- Reads the name of a group up to its terminator, which is read too; gives the offset of the
name as well. -/
def groupName (terminator : Char) : Read (Name × Nat) := do
  let s ← get
  let offset ← here
  match s.rest with
  | [] => fault .nameExpected
  | g :: _ => if isNameDigit s.setup.utf g.char then fault .nameStartsWithDigit
  let name := (s.rest.map (·.char)).takeWhile (isNameChar s.setup.utf)
  skip name.length
  if (← here) > offset + longestName then fault .nameTooLong
  if name.isEmpty then fault .nameExpected
  if !(← accept terminator) then fault .nameUnterminated
  return (name, offset)

/-! ## Quantifiers -/

/-- The largest count. -/
def largestCount : Nat := 65535

/-- Scans the counts of a quantifier from behind its opening brace to behind its closing one. -/
def scanCounts (g : List Glyph) : Scanning (Option (Nat × Option Nat) × List Glyph) := do
  let (least, rest) ← scanNumber largestCount .countTooBig g
  match least, rest with
  | some least, ⟨'\x7d', _⟩ :: more => return (some (least, some least), more)
  | some least, ⟨',', _⟩ :: ⟨'\x7d', _⟩ :: more => return (some (least, none), more)
  | some least, ⟨',', _⟩ :: more =>
    let (most, rest) ← scanNumber largestCount .countTooBig more
    match most, rest with
    | some most, ⟨'\x7d', brace⟩ :: more =>
      if most < least then .error (.countsOutOfOrder, ⟨'\x7d', brace⟩ :: more)
      else return (some (least, some most), more)
    | _, _ => return (none, g)
  | _, _ => return (none, g)

end Reader

end PatternScan.Pattern
