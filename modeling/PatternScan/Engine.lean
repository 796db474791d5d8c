import PatternScan.Span

/-!
# Engines

What the library asks of a pattern engine: compiling a pattern, the number of its groups, and
one search of a subject. A search gets a number of slots, one for the whole match and one for
each group as far as they go, and answers with a code and the slots filled.
-/

namespace PatternScan

/-- A slot for the two offsets of a group. -/
structure Slot where
  start : UInt64
  stop : UInt64
deriving DecidableEq, Repr

/-- A slot of a group that took no part in the match. -/
def Slot.unset : Slot := ⟨npos, npos⟩

/-- Whether the group took part in the match. -/
def Slot.isSet (s : Slot) : Bool :=
  s.start != npos

/-- An engine's answer to a search: a code and the slots it was given, filled. A code `n > 0`
says that the slots below `n` were filled, `0` that there were more groups than slots. -/
structure Reply where
  code : Int
  slots : List Slot
deriving DecidableEq, Repr

/-- The code that says that the subject holds no match. -/
def Reply.noMatchCode : Int := -1

/-- A pattern engine. -/
structure Engine where
  /-- What a pattern is compiled to. -/
  Code : Type
  /-- Compiles a pattern under a bit mask of options, or says with which code and at which
  offset the pattern was rejected. -/
  compile : Bytes → UInt32 → Except (Int × UInt64) Code
  /-- The number of groups, not counting the whole match. -/
  groups : Code → Nat
  /-- Searches a subject for the first match, with a number of slots for its groups. -/
  search : Code → Bytes → Nat → Reply

end PatternScan
