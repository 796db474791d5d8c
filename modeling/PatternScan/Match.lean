import PatternScan.Breach
import PatternScan.Engine
import PatternScan.Error

/-!
# Matches

What the library makes of an engine's answers. Three things live here:

* `Match`, the groups of one match, with offsets into the subject that was searched;
* `Match.settle`, which reads an engine's reply for the number of slots it was given;
* `Compiled`, a pattern as its users hold it, with `find` and `test`, the two ways of asking
  for one match, and `Engine.compiled`, which makes one.
-/

namespace PatternScan

/-- One match: the slots that the engine was given, and how many of them count. -/
structure Match where
  slots : List Slot
  size : Nat
deriving DecidableEq, Repr

namespace Match

/-- The slot of a group. -/
def slot (m : Match) (group : Nat) : Except Breach Slot :=
  if group < m.size then
    match m.slots[group]? with
    | some s => .ok s
    | none => .error .noSuchGroup
  else .error .noSuchGroup

/-- Where a group starts in the subject. -/
def start (m : Match) (group : Nat) : Except Breach UInt64 :=
  (m.slot group).map Slot.start

/-- Where a group ends in the subject. -/
def stop (m : Match) (group : Nat) : Except Breach UInt64 :=
  (m.slot group).map Slot.stop

/-- The text of a group, none for an unset one. -/
def text (m : Match) (subject : Bytes) (group : Nat) : Except Breach (Option Bytes) := do
  let s ← m.slot group
  if s.isSet then
    Breach.check (s.start ≤ s.stop) .groupReversed
    return some (subject.slice s.start.toNat s.stop.toNat)
  else
    return none

/-- The span of a group in the subject. -/
def span (m : Match) (subject : Bytes) (group : Nat) : Except Breach (Span Bytes) := do
  let s ← m.slot group
  return ⟨s.start, s.stop, ← m.text subject group⟩

/-- The spans of all groups in the subject. -/
def record (m : Match) (subject : Bytes) : Except Breach (Record Bytes) :=
  (List.range m.size).mapM (m.span subject)

/-- The number of groups to report. The engine leaves trailing unset groups out of its count;
they are counted again if all groups of the pattern have a slot. -/
def sizeOf (groups slots : Nat) (code : Nat) : Nat :=
  let counted := if code = 0 then slots else code
  if counted ≤ groups ∧ groups < slots then groups + 1 else counted

/-- What a reply means for a pattern with `groups` groups that was searched for with `slots`
slots: a match, no match, or a failure. -/
def settle (groups slots : Nat) (r : Reply) : Except Failure (Option Match) :=
  if r.code = Reply.noMatchCode then .ok none
  else if r.code < 0 then .error (Failure.ofCode r.code)
  else .ok (some ⟨r.slots, sizeOf groups slots r.code.toNat⟩)

end Match

/-! ## Single searches

Two failures that no pattern and no subject leads to are left out: an engine that does not tell how
many groups a code has that it just compiled, after which the pattern would count as one without
groups, and a search that is given no memory for its slots.
-/

/-- A compiled pattern as its users hold it: the engine's code and the number of groups. -/
structure Compiled (E : Engine) where
  code : E.Code
  groups : Nat

namespace Compiled

variable {E : Engine}

/-- The compiled pattern that the engine's code stands for, with as many groups as the engine tells
of it. -/
def ofCode (code : E.Code) : Compiled E :=
  ⟨code, E.groups code⟩

/-- Searches a subject with a given number of slots. The engine is never given the view of no place,
which it may reject. -/
def search (p : Compiled E) (slots : Nat) (subject : View) : Except Failure (Option Match) :=
  Match.settle p.groups slots (E.search p.code subject.text slots)

/-- The first match in a subject, with a slot for every group. -/
def find (p : Compiled E) (subject : View) : Except Failure (Option Match) :=
  p.search (E.groups p.code + 1) subject

/-- Whether a subject holds a match; no group but the whole match is asked for. -/
def test (p : Compiled E) (subject : View) : Except Failure Bool :=
  (p.search 1 subject).map fun m => m.any (0 < ·.size)

end Compiled

/-- Compiles a pattern; the empty one is rejected without asking the engine. -/
def Engine.compiled (E : Engine) (pattern : Bytes) (mask : UInt32) :
    Except Rejection (Compiled E) :=
  if pattern.isEmpty then .error Rejection.ofEmpty
  else
    match E.compile pattern mask with
    | .error (code, offset) => .error (Rejection.ofCode code offset)
    | .ok code => .ok (Compiled.ofCode code)

end PatternScan
