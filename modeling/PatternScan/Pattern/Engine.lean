import PatternScan.Engine
import PatternScan.Options
import PatternScan.Pattern.Check
import PatternScan.Pattern.Reader
import PatternScan.Pattern.Search

/-!
# The pattern engine

Patterns with groups, lookarounds, references and verbs. `Code.compile` goes from the text of a
pattern to what a search needs, and `engine` answers for it in codes and slots.
-/

namespace PatternScan.Pattern

/-- Whether a mask has a bit. -/
def hasBit (mask bit : UInt32) : Bool :=
  mask &&& bit != 0

/-- The switches that a mask of options stands for. -/
def Flags.ofMask (mask : UInt32) : Flags where
  caseless := hasBit mask 0x8
  multiline := hasBit mask 0x400
  dotAll := hasBit mask 0x20
  extended := hasBit mask 0x80
  ungreedy := hasBit mask 0x40000
  noCapture := hasBit mask 0x2000

namespace Code

/-- The code of a pattern that has been read. -/
def ofSyntax (x : Syntax) (setup : Setup) (anchored : Bool) : Except Fault Code := do
  let widths ← x.widths setup.utf
  x.check setup
  let lowered ← x.lowered setup widths
  return {
    setup
    program := .ofBranches lowered.branches x.groups lowered.facts.hasThen
    start := lowered.start setup anchored
    hasLineEnd := lowered.facts.hasLineEnd }

/-- Compiles a pattern. -/
def compile (pattern : Bytes) (mask : UInt32) : Except Fault Code := do
  let (setup, offset) ← Setup.read pattern
  if setup.utf then
    if let some (code, at') := Utf8.flaw? pattern then throw ⟨.invalidText code, at'⟩
  let glyphs := Glyph.ofBytes setup.utf pattern offset
  let x ← Syntax.read setup (Flags.ofMask mask) glyphs pattern.length
  ofSyntax x setup (hasBit mask 0x80000000)

end Code

/-! ## Replies -/

/-- The slot of a text between two places. -/
def slotOf (span : Option (Nat × Nat)) : Slot :=
  match span with
  | some (low, high) => ⟨UInt64.ofNat low, UInt64.ofNat high⟩
  | none => .unset

/-- The number of the last group that holds a text, zero if none does. -/
def lastSet (captures : Machine.Captures) : Nat :=
  (captures.foldl (fun (n, last) span => (n + 1, if span.isSome then n else last)) (0, 0)).2

/-- The reply to a match, with some number of slots. -/
def Reply.ofRegs (r : Machine.Regs) (slots : Nat) : Reply :=
  let used := lastSet r.captures + 1
  let spans := some (r.start, r.pos) :: r.captures.toList.tail
  ⟨if slots < used then 0 else used,
    (List.range slots).map fun n => slotOf (spans[n]?.join)⟩

/-- The reply that holds no text. -/
def Reply.empty (code : Int) (slots : Nat) : Reply :=
  ⟨code, List.replicate slots .unset⟩

/-- The reply to a search. -/
def Answer.reply (a : Answer) (slots : Nat) : Reply :=
  match a with
  | .found r => Reply.ofRegs r slots
  | .notFound => Reply.empty Reply.noMatchCode slots
  | .invalid code => Reply.empty code slots
  | .refused x => Reply.empty x.code slots

/-- The engine. -/
def engine : Engine where
  Code := Code
  compile pattern mask :=
    (Code.compile pattern mask).mapError fun f => (f.cause.code, UInt64.ofNat f.offset)
  groups c := c.program.groups
  search c text slots := (c.search text).reply slots

end PatternScan.Pattern
