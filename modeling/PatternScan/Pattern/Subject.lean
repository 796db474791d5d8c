import PatternScan.Pattern.LineEnd
import PatternScan.Pattern.Program
import PatternScan.Pattern.Setup
import PatternScan.Pattern.Unicode.Case
import PatternScan.Pattern.Unicode.Grapheme
import PatternScan.Pattern.Unicode.Property
import PatternScan.Pattern.Classes
import PatternScan.Pattern.Utf8

/-!
# Subjects

The text that is searched, with what the pattern says about reading it. Places are offsets in
bytes. Four things live here:

* `charAt?` and `back?`, which read the character at a place and go back to the one before, and
  `lineEnd?`, `isBehindLineEnd`, the line end at or before a place;
* `Subject.holds`, the tests of places;
* `Subject.single?` and `again?`, where a single character, or what counts as one, and a text
  that is referred to end;
* `Subject.times?` and `upTo`, the same for repetitions of either.
-/

namespace PatternScan.Pattern

/-- A text that is searched. -/
structure Subject where
  bytes : ByteArray
  utf : Bool
  ucp : Bool
  newline : Newline
  /-- `\R` matches any line end of Unicode. -/
  anyLineEnd : Bool

namespace Subject

/-- The number of bytes. -/
def size (s : Subject) : Nat :=
  s.bytes.size

/-- The byte at a place. -/
def byteAt? (s : Subject) (i : Nat) : Option UInt8 :=
  s.bytes[i]?

/-- The character at a place, and the place behind it. -/
def charAt? (s : Subject) (i : Nat) : Option (Char × Nat) :=
  if h : i < s.bytes.size then
    let b := s.bytes[i]
    if s.utf && b ≥ 0x80 then
      let (c, j) := Utf8.charAt s.bytes i
      some (Char.ofNat c, j)
    else some (Char.ofUInt8 b, i + 1)
  else none

/-- The place of the character before a place. -/
def back? (s : Subject) (i : Nat) : Option Nat :=
  if i = 0 then none
  else if s.utf then some (Utf8.back s.bytes (i - 1))
  else some (i - 1)

/-- The character before a place. -/
def charBefore? (s : Subject) (i : Nat) : Option Char :=
  ((s.back? i).bind s.charAt?).map (·.1)

/-- The place some characters before a place. -/
def backBy? (s : Subject) : Nat → Nat → Option Nat
  | 0, i => some i
  | n + 1, i => (s.back? i).bind (s.backBy? n)

/-! ## Line ends -/

/-- Whether a byte is at a place. -/
def hasByte (s : Subject) (i : Nat) (b : UInt8) : Bool :=
  s.bytes[i]? == some b

/-- The place behind the line end at a place. -/
def lineEnd? (s : Subject) (i : Nat) : Option Nat :=
  let one (b : UInt8) : Option Nat := if s.hasByte i b then some (i + 1) else none
  let two : Option Nat := if s.hasByte i 13 && s.hasByte (i + 1) 10 then some (i + 2) else none
  match s.newline with
  | .lf => one 10
  | .cr => one 13
  | .nul => one 0
  | .crlf => two
  | .anyCrlf => two.or ((one 10).or (one 13))
  | .any =>
    two.or ((s.charAt? i).bind fun (c, j) => if Newline.isLineEnd c then some j else none)

/-- Whether a line end stands right before a place. -/
def isBehindLineEnd (s : Subject) (i : Nat) : Bool :=
  let one (b : UInt8) : Bool := 0 < i && s.hasByte (i - 1) b
  match s.newline with
  | .lf => one 10
  | .cr => one 13
  | .nul => one 0
  | .crlf => 1 < i && s.hasByte (i - 2) 13 && s.hasByte (i - 1) 10
  | .anyCrlf => one 10 || one 13
  | .any => (s.charBefore? i).any Newline.isLineEnd

/-! ## Places -/

/-- Whether a character is part of a word. -/
def isWord (s : Subject) (c : Char) : Bool :=
  if s.ucp then Property.word.contains c else c.isAlphanum || c == '_'

/-- Whether a place is the end, or before the last line end. -/
def isBeforeLastLineEnd (s : Subject) (i : Nat) : Bool :=
  s.size ≤ i || s.lineEnd? i == some s.size

/-- Whether a place is between a word character and another. -/
def isWordBoundary (s : Subject) (i : Nat) : Bool :=
  (s.charBefore? i).any s.isWord != ((s.charAt? i).map (·.1)).any s.isWord

/-- Whether a place passes a test. -/
def holds (s : Subject) (i : Nat) : Anchor → Bool
  | .circumflex => i == 0
  | .subjectStart => i == 0
  | .searchStart => i == 0
  | .lineStart => i == 0 || (i < s.size && s.isBehindLineEnd i)
  | .dollar => s.isBeforeLastLineEnd i
  | .lastLineEnd => s.isBeforeLastLineEnd i
  | .lineEnd => s.size ≤ i || (s.lineEnd? i).isSome
  | .subjectEnd => s.size ≤ i
  | .wordBoundary negated => s.isWordBoundary i != negated

/-! ## Single characters -/

/-- The place behind a line end in the sense of `\R`. -/
def anyNewline? (s : Subject) (i : Nat) : Option Nat :=
  match s.charAt? i with
  | some ('\r', j) => some (if s.hasByte j 10 then j + 1 else j)
  | some ('\n', j) => some j
  | some (c, j) => if s.anyLineEnd && Newline.isLineEnd c then some j else none
  | none => none

/-- The place behind a character at a place that passes a test. -/
@[inline]
def charIf? (s : Subject) (i : Nat) (p : Char → Bool) : Option Nat :=
  if h : i < s.bytes.size then
    let b := s.bytes[i]
    if s.utf && b ≥ 0x80 then
      let (c, j) := Utf8.charAt s.bytes i
      if p (Char.ofNat c) then some j else none
    else if p (Char.ofUInt8 b) then some (i + 1) else none
  else none

/-- How many regional indicators stand right before a place. -/
def regionalsBefore (s : Subject) : Nat → Nat → Nat
  | 0, _ => 0
  | fuel + 1, i =>
    match s.back? i with
    | none => 0
    | some j =>
      match s.charAt? j with
      | none => 0
      | some (c, _) =>
        if Grapheme.Break.of c = .regional then s.regionalsBefore fuel j + 1 else 0

/-- The place behind the characters from `i` on that belong to a cluster. -/
def clusterFrom (s : Subject) : Nat → Grapheme.Cluster → Nat → Nat
  | 0, _, i => i
  | fuel + 1, cluster, i =>
    match s.charAt? i with
    | none => i
    | some (c, j) =>
      match cluster.next? c with
      | none => i
      | some cluster => s.clusterFrom fuel cluster j

/-- The place behind a grapheme cluster. -/
def cluster? (s : Subject) (i : Nat) : Option Nat :=
  match s.charAt? i with
  | some (c, j) => some (s.clusterFrom (s.size - j) (.ofFirst c (s.regionalsBefore i i)) j)
  | none => none

/-- The place behind what a single matches at a place. -/
def single? (s : Subject) (i : Nat) : Single → Option Nat
  | .char c => s.charIf? i (· == c)
  | .caseless c d => s.charIf? i fun x => x == c || x == d
  | .set _ set => s.charIf? i set.contains
  | .any => s.charIf? i fun _ => true
  | .notNewline => if (s.lineEnd? i).isSome then none else s.charIf? i fun _ => true
  | .byte => if i < s.size then some (i + 1) else none
  | .newline => s.anyNewline? i
  | .cluster => s.cluster? i

/-! ## References -/

/-- The place behind a text equal to the one from `low` to `high`, but for case. -/
def caseless? (s : Subject) (high : Nat) : Nat → Nat → Nat → Option Nat
  | 0, _, i => some i
  | fuel + 1, low, i =>
    if low < high then
      match s.charAt? low, s.charAt? i with
      | some (c, low'), some (d, j) =>
        if Case.eqv (s.utf || s.ucp) c d then s.caseless? high fuel low' j else none
      | _, _ => none
    else some i

/-- The place behind a text equal to the one from `low` to `high`. -/
def equal? (s : Subject) (high : Nat) : Nat → Nat → Nat → Option Nat
  | 0, _, i => some i
  | fuel + 1, low, i =>
    if low < high then
      match s.byteAt? low, s.byteAt? i with
      | some b, some b' => if b = b' then s.equal? high fuel (low + 1) (i + 1) else none
      | _, _ => none
    else some i

/-- The place behind the text from `low` to `high` once more. -/
def again? (s : Subject) (caseless : Bool) (low high i : Nat) : Option Nat :=
  if caseless then s.caseless? high (high - low + 1) low i
  else s.equal? high (high - low + 1) low i

/-! ## Repetition -/

/-- Something that a quantifier repeats. -/
inductive Piece
  | single (x : Single)
  /-- The text between two places once more. -/
  | again (caseless : Bool) (low high : Nat)

/-- The place behind a piece. -/
def piece? (s : Subject) (i : Nat) : Piece → Option Nat
  | .single x => s.single? i x
  | .again caseless low high => s.again? caseless low high i

/-- The place behind `n` times a piece. -/
def times? (s : Subject) (x : Piece) : Nat → Nat → Option Nat
  | 0, i => some i
  | n + 1, i =>
    match s.piece? i x with
    | some j => s.times? x n j
    | none => none

/-- All places behind at most `n` times a piece, the farthest one first; `places` are those
before. -/
def upTo (s : Subject) (x : Piece) : Nat → Nat → List Nat → List Nat
  | 0, i, places => i :: places
  | n + 1, i, places =>
    match s.piece? i x with
    | some j => s.upTo x n j (i :: places)
    | none => i :: places

end Subject

end PatternScan.Pattern
