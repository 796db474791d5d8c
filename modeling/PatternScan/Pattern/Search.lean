import PatternScan.Pattern.Machine
import PatternScan.Pattern.Start

/-!
# Searches

A search tries the machine at one start after the other, and leaves out starts of which the facts
about the pattern say that nothing can match there. Three things live here:

* `Code`, a compiled pattern;
* `Code.nextStart?`, the next start that the facts allow;
* `Code.search`, the first match, or why there is none.
-/

namespace PatternScan.Pattern

/-- A compiled pattern. -/
structure Code where
  setup : Setup
  program : Program
  start : Start
  /-- Whether the pattern spells out a carriage return or a line feed. -/
  hasLineEnd : Bool

/-- How a search ends. -/
inductive Answer
  | found (r : Machine.Regs)
  | notFound
  /-- The subject is no valid text. -/
  | invalid (code : Int)
  | refused (x : Machine.Refusal)

namespace Code

/-- A text as this pattern reads it. -/
def subject (c : Code) (bytes : ByteArray) : Subject :=
  ⟨bytes, c.setup.utf, c.setup.ucp, c.setup.newline, c.setup.anyLineEnd⟩

/-! ## Starts -/

/-- The first place from `i` on at which a byte passes a test, the end if there is none. -/
def findFrom (s : Subject) (p : UInt8 → Bool) : Nat → Nat → Nat
  | 0, i => i
  | fuel + 1, i =>
    match s.byteAt? i with
    | some b => if p b then i else findFrom s p fuel (i + 1)
    | none => i

/-- The place behind the character at a place. -/
def next (s : Subject) (i : Nat) : Nat :=
  match s.charAt? i with
  | some (_, j) => j
  | none => i + 1

/-- The first place from `i` on that a line end stands before, the end if there is none. -/
def findLine (s : Subject) : Nat → Nat → Nat
  | 0, i => i
  | fuel + 1, i =>
    if i < s.size && !s.isBehindLineEnd i then findLine s fuel (next s i) else i

/-- Whether a place is between a carriage return and a line feed. -/
def splitsLineEnd (s : Subject) (i : Nat) : Bool :=
  0 < i && s.hasByte (i - 1) 13 && s.hasByte i 10

/-- Whether a carriage return and a line feed may each end a line. -/
def endsAtEither : Newline → Bool
  | .any => true
  | .anyCrlf => true
  | _ => false

/-- The start of a line from `i` on; the start of the subject is one. -/
def lineStart (s : Subject) (i : Nat) : Nat :=
  if i = 0 then 0
  else
    let j := findLine s (s.size + 1 - i) i
    if endsAtEither s.newline && splitsLineEnd s j then j + 1 else j

/-- Whether a byte is one of two. -/
def isOneOf (pair : UInt8 × UInt8) (b : UInt8) : Bool :=
  b == pair.1 || b == pair.2

/-- The first place from `i` on at which a match may start, as far as its first byte says. -/
def candidate? (c : Code) (s : Subject) (i : Nat) : Option Nat :=
  let at? (p : UInt8 → Bool) : Option Nat :=
    if c.start.isAnchored then if (s.byteAt? i).any p then some i else none
    else
      let j := findFrom s p (s.size + 1 - i) i
      if j < s.size then some j else none
  match c.start.first, c.start.units with
  | some pair, _ => at? (isOneOf pair)
  | none, some units =>
    if c.start.isStartLine && !c.start.isAnchored then some (lineStart s i) else at? units.has
  | none, none =>
    if c.start.isStartLine && !c.start.isAnchored then some (lineStart s i) else some i

/-- Below this many bytes, the byte that each match holds is looked for. -/
def mostSearched (isAnchored : Bool) : Nat :=
  if isAnchored then 5000 else 5000000

/-- Whether the rest of a subject holds the byte that each match holds, and where; `seen` is the
place behind which it has not yet been looked for. -/
def required? (c : Code) (s : Subject) (i : Nat) (seen : Option Nat) : Option (Option Nat) :=
  match c.start.required with
  | none => some seen
  | some pair =>
    let from' := if c.start.first.isSome then i + 1 else i
    if seen.any (from' ≤ ·) || s.size - i ≥ mostSearched c.start.isAnchored then some seen
    else
      let j := findFrom s (isOneOf pair) (s.size + 1 - from') from'
      if j < s.size then some (some j) else none

/-- The first place from `i` on at which a match may start, with the place where a byte that each
match holds was seen. -/
def nextStart? (c : Code) (s : Subject) (i : Nat) (seen : Option Nat) :
    Option (Nat × Option Nat) :=
  if c.setup.noStartFacts then some (i, seen)
  else
    match c.candidate? s i with
    | none => none
    | some i =>
      if s.size - i < c.start.leastLength then none
      else (c.required? s i seen).map fun seen => (i, seen)

/-! ## Searching -/

/-- Whether the place between a carriage return and a line feed is no start. -/
def skipsSplitLineEnd (c : Code) : Bool :=
  !c.hasLineEnd && (endsAtEither c.setup.newline || c.setup.newline = .crlf)

/-- What to do after a run that failed: the next start and how many skips to a name to ignore
there, or none if the search is over. -/
def afterFailure? (c : Code) (s : Subject) (i skips : Nat) : Machine.Signal → Option (Nat × Nat)
  | .commit => none
  | .skipTo _ => proceed i skips
  | .skip start => proceed (if i < start then start else next s i) 0
  | _ => proceed (next s i) 0
where
  /-- Goes on from a start, unless the search is over there. -/
  proceed (j skips : Nat) : Option (Nat × Nat) :=
    if c.start.isAnchored || s.size < j then none
    else some (if splitsLineEnd s j && c.skipsSplitLineEnd then j + 1 else j, skips)

/-- Searches from a start on. -/
def searchFrom (c : Code) (s : Subject) : Nat → Nat → Nat → Option Nat → Answer
  | 0, _, _, _ => .notFound
  | fuel + 1, i, skips, seen =>
    match c.nextStart? s i seen with
    | none => .notFound
    | some (i, seen) =>
      match Machine.run ⟨c.program, c.setup, s, skips⟩ i with
      | (.matched r, _) => .found r
      | (.refused x, _) => .refused x
      | (.unmatched g, state) =>
        match c.afterFailure? s i state.skips g with
        | none => .notFound
        | some (j, skips) => c.searchFrom s fuel j skips seen

/-- More runs than a search makes: at each start, runs that ignore more and more skips. -/
def mostRuns (c : Code) (s : Subject) : Nat :=
  (s.size + 2) * (c.setup.limits.choices + 2)

/-- Whether the limit on memory allows no choice at all. -/
def lacksMemory (c : Code) : Bool :=
  c.setup.limits.memory * 1024 < Machine.State.bytesPerChoice c.program.groups

/-- Searches a text for the first match. -/
def search (c : Code) (text : Bytes) : Answer :=
  match if c.setup.utf then Utf8.flaw? text else none with
  | some (code, _) => .invalid code
  | none =>
    if c.lacksMemory then .refused .tooMuchMemory
    else
      let s := c.subject ⟨text.toArray⟩
      c.searchFrom s (c.mostRuns s) 0 0 none

end Code

end PatternScan.Pattern
