import PatternScan.Pattern.LineEnd
import PatternScan.Pattern.Reader.Group

/-!
# Reading a pattern

`Syntax.read` reads all of a pattern, character by character: `Reader.step` reads one item, or a
part of one, and is repeated until the characters are used up.
-/

namespace PatternScan.Pattern

namespace Reader

/-! ## Quantifiers -/

/-- The last items turned into one that may be repeated: an `(*ACCEPT)` goes into a group of its
own, together with its mark. -/
def repeatable (accepting : Nat) : List Item → List Item
  | .verb .accept :: more =>
    .group .plain [(.verb .accept :: more.take (accepting - 1)).reverse] ::
      more.drop (accepting - 1)
  | items => items

/-- Repeats the last item. -/
def repeatLast (least : Nat) (most : Option Nat) (allowed : Bool) : Read Unit := do
  if !allowed then faultBack .nothingToRepeat
  modify fun s =>
    let mode := if s.flags.ungreedy then Mode.lazy else .greedy
    let items :=
      match repeatable s.accepting s.level.items with
      | i :: more => .repeated i ⟨least, most, mode⟩ :: more
      | [] => []
    { s with level := { s.level with items }, quantified := true }

/-- A mode changed by a `?` behind the quantifier. -/
def Mode.flip : Mode → Mode
  | .greedy => .lazy
  | .lazy => .greedy
  | .possessive => .possessive

/-- Changes the mode of the last quantifier by the `?` or `+` behind it. -/
def modifyQuantifier (possessive : Bool) : Read Unit := modify fun s =>
  match s.level.items with
  | .repeated i q :: more =>
    let mode := if possessive then .possessive else Mode.flip q.mode
    { s with level := { s.level with items := .repeated i { q with mode } :: more } }
  | _ => s

/-! ## Escapes -/

/-- Appends a character. -/
def putChar (c : Char) : Read Unit := do
  putRepeatable (.char c (← get).flags.caseless)

/-- The offset for faults of a reference: for groups below ten, where the first one stands. -/
def referenceOffset (n : Nat) : Read Nat := do
  let s ← get
  let offset := (← here) - 1
  if n ≥ 10 then return offset
  match s.firstReferences.lookup n with
  | some first => return first
  | none =>
    set { s with firstReferences := (n, offset) :: s.firstReferences }
    return offset

/-- A reference or a call behind its letter, by a name or a number between delimiters. -/
def delimited (letter : Char) (place : Nat) : Read Unit := do
  let close? : Option (Char × List Glyph) :=
    match ← rest with
    | ⟨'\x7b', _⟩ :: more => some ('\x7d', more)
    | ⟨'<', _⟩ :: more => some ('>', more)
    | ⟨'\'', _⟩ :: more => some ('\'', more)
    | _ => none
  match close? with
  | none => fault (if letter == 'k' then .namedReferenceForm else .referenceForm)
  | some (close, more) =>
    if letter == 'k' || close == '\x7d' then
      skip 1
      referByName close place
    else
      match scanGroupNumber (← get).groups more with
      | .error (cause, _) => fault cause
      | .ok (some n, behind) =>
        if behind.head?.map (·.char) ≠ some close then fault .referenceForm
        moveTo behind
        putCall n place
      | .ok (none, _) =>
        skip 1
        let (name, offset) ← groupName close
        putRepeatable (.call (.name name) place offset)

/-- The place that a letter tests for. -/
def anchor? (letter : Char) : Option Anchor :=
  [('A', .subjectStart), ('B', .wordBoundary true), ('b', .wordBoundary false),
   ('G', .searchStart), ('Z', .lastLineEnd), ('z', .subjectEnd)].lookup letter

/-- The atom that a letter stands for. -/
def atom? (ucp : Bool) (letter : Char) : Option Atom :=
  match kind? letter with
  | some (k, negated) =>
    match if ucp then kindProperty? k else none with
    | some set => some (.property set negated)
    | none => some (.kind k negated)
  | none =>
    [('C', Atom.byte), ('N', .notNewline), ('R', .newline), ('X', .cluster)].lookup letter

/-- An item that a backslash at `place` starts. -/
def escaped (place : Nat) : Read Unit := do
  match ← escape false with
  | .char c => putChar c
  | .backReference n =>
    let offset ← referenceOffset n
    putRepeatable (.reference (.number n) (← get).flags.caseless place offset)
  | .letter c =>
    if let some a := anchor? c then put (.anchor a)
    else if c == 'K' then put .matchStart
    else if c == 'p' || c == 'P' then
      let (set, negated) ← property
      putRepeatable (.atom (.property set (negated != (c == 'P'))))
    else if let some a := atom? (← get).setup.ucp c then putRepeatable (.atom a)
    else if c == 'k' || c == 'g' then delimited c place

/-! ## What is skipped -/

/-- The characters that do not count where blanks are skipped. -/
def isBlank (c : Char) : Bool :=
  ('\t' ≤ c && c ≤ '\r') || c ∈ [' ', '\u0085', '\u200e', '\u200f', '\u2028', '\u2029']

/-- What comes behind the next line end. -/
def behindLine (n : Newline) : List Glyph → List Glyph
  | [] => []
  | g :: more =>
    match n.length? ((g :: more).map (·.char)) with
    | some length => (g :: more).drop length
    | none => behindLine n more

/-- Skips a comment in parentheses, from its question mark on. -/
def comment : Read Unit := do
  moveTo ((← rest).dropWhile fun g => g.char != ')')
  if !(← accept ')') then fault .unclosedComment

/-- Whether some characters behind a parenthesis start a lookaround, or a callout if one may
stand before it. -/
def startsLook (expected : Nat) : List Glyph → Bool
  | ⟨'?', _⟩ :: ⟨'C', _⟩ :: _ :: _ => expected = 2
  | ⟨'?', _⟩ :: ⟨'=', _⟩ :: _ :: _ => true
  | ⟨'?', _⟩ :: ⟨'!', _⟩ :: _ :: _ => true
  | ⟨'?', _⟩ :: ⟨'<', _⟩ :: ⟨c, _⟩ :: _ => c == '=' || c == '!'
  | ⟨'*', _⟩ :: ⟨c, _⟩ :: _ :: _ => c.isLower
  | _ => false

/-! ## Steps -/

/-- The deepest nesting of groups. -/
def deepestNesting : Nat := 250

/-- A character between `\Q` and `\E`. -/
def quotedChar (c : Char) : Read Unit := do
  if c == '\\' && (← accept 'E') then modify fun s => { s with quoted := false }
  else
    if (← get).expecting > 0 then faultBefore .assertionExpected
    putChar c
    modify fun s => { s with quantified := false }

/-- A quantifier in braces, from behind the opening one; none such is a brace on its own. -/
def bracedQuantifier (allowed : Bool) : Read Unit := do
  match ← take (scanCounts (← rest)) with
  | some (least, most) => repeatLast least most allowed
  | none => putChar '\x7b'

/-- The item that the character `c` at `place` starts. -/
def item (c : Char) (place expected : Nat) (allowed : Bool) : Read Unit := do
  let flags := (← get).flags
  match c with
  | '^' => put (.anchor (if flags.multiline then .lineStart else .circumflex))
  | '$' => put (.anchor (if flags.multiline then .lineEnd else .dollar))
  | '.' => putRepeatable (.atom (if flags.dotAll then .any else .notNewline))
  | '*' => repeatLast 0 none allowed
  | '+' => repeatLast 1 none allowed
  | '?' => repeatLast 0 (some 1) allowed
  | '\x7b' => bracedQuantifier allowed
  | '[' => bracket
  | '\\' => escaped place
  | '(' => open? place expected
  | ')' => close
  | '|' => nextBranch
  | c => putChar c

/-- What the character `c` at `place` starts, if it is neither skipped nor quoted. -/
def significant (c : Char) (place : Nat) : Read Unit := do
  let s ← get
  if s.expecting > 0 && !(c == '(' && startsLook s.expecting s.rest) then
    faultBefore .assertionExpected
  set { s with expecting := 0, mayRepeat := false, quantified := false }
  if s.quantified && (c == '?' || c == '+') then modifyQuantifier (c == '+')
  else item c place s.expecting s.mayRepeat

/-- Reads an item, or a part of one. -/
def step : Read Unit := do
  let s ← get
  if s.outer.length > deepestNesting then fault .nestedTooDeeply
  let place ← here
  let some c ← next | return
  if s.quoted then quotedChar c
  else if c == '\\' && (← comes "Q") then
    skip 1
    modify fun s => { s with quoted := true }
  else if c == '\\' && (← comes "E") then skip 1
  else if s.flags.extended && isBlank c then return
  else if s.flags.extended && c == '#' then moveTo (behindLine s.setup.newline (← rest))
  else if c == '(' && (← comes "?#") then comment
  else significant c place

/-- Reads all items. -/
def steps : Nat → Read Unit
  | 0 => return
  | fuel + 1 => do
    if (← rest).isEmpty then return
    step
    steps fuel

/-- What has been read, if all groups are closed. -/
def result (s : State) : Except Fault Syntax :=
  match s.outer with
  | _ :: _ => .error ⟨.unclosedGroup, s.stop⟩
  | [] =>
    .ok { branches := (s.level.items.reverse :: s.level.branches).reverse
          groups := s.groups
          names := s.names
          sharedNumbers := s.sharedNumbers
          stop := s.stop }

end Reader

/-- Reads the characters of a pattern that has `stop` bytes. -/
def Syntax.read (setup : Setup) (flags : Flags) (glyphs : List Glyph) (stop : Nat) :
    Except Fault Syntax := do
  let start : Reader.State := { setup, stop, rest := glyphs, flags, level := { outside := flags } }
  let (_, s) ← (Reader.steps (glyphs.length + 1)).run start
  Reader.result s

end PatternScan.Pattern
