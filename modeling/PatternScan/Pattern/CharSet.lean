/-!
# Sets of characters

A set of characters as the list of its borders, in ascending order: the characters from the
first border on are in, those from the second on are out again, and so on. Two things live here:

* `CharSet.contains`, which looks a character up by bisection;
* `CharSet.ofRanges` and `CharSet.union`, which build sets.
-/

namespace PatternScan.Pattern

/-- A set of characters by its borders. -/
structure CharSet where
  borders : Array Nat
deriving DecidableEq, Repr, Inhabited

namespace CharSet

/-- The number of borders at or below `n` if the borders below `low` are, and those from `high`
on are not. -/
def rank (borders : Array Nat) (n : Nat) : Nat → Nat → Nat → Nat
  | 0, low, _ => low
  | fuel + 1, low, high =>
    if low < high then
      let middle := (low + high) / 2
      if borders[middle]?.getD 0 ≤ n then rank borders n fuel (middle + 1) high
      else rank borders n fuel low middle
    else low

/-- Whether a character is in the set: an odd number of borders is not above it. -/
def contains (s : CharSet) (c : Char) : Bool :=
  rank s.borders c.toNat (s.borders.size + 1) 0 s.borders.size % 2 == 1

/-- The empty set. -/
def empty : CharSet := ⟨#[]⟩

/-- The set of all characters. -/
def all : CharSet := ⟨#[0]⟩

/-- The range from `low` to `high` and those behind it, in ascending order of their first
characters, with those that overlap or touch joined. -/
def joined (low high : Nat) : List (Nat × Nat) → List (Nat × Nat)
  | [] => [(low, high)]
  | (low', high') :: rest =>
    if low' ≤ high + 1 then joined low (max high high') rest
    else (low, high) :: joined low' high' rest

/-- All characters that are not in a set. -/
def complement (s : CharSet) : CharSet :=
  match s.borders.toList with
  | 0 :: rest => ⟨rest.toArray⟩
  | borders => ⟨(0 :: borders).toArray⟩

/-- The set of the characters in some ranges, both ends included. -/
def ofRanges (ranges : List (Nat × Nat)) : CharSet :=
  match ranges.mergeSort fun a b => a.1 ≤ b.1 with
  | [] => empty
  | (low, high) :: rest =>
    ⟨((joined low high rest).flatMap fun (low, high) => [low, high + 1]).toArray⟩

/-- The ranges that some borders stand for. -/
def pairs : List Nat → List (Nat × Nat)
  | [] => []
  | [low] => [(low, 0x10ffff)]
  | low :: high :: rest => (low, high - 1) :: pairs rest

/-- The ranges of a set. -/
def ranges (s : CharSet) : List (Nat × Nat) :=
  pairs s.borders.toList

/-- The characters in any of some sets. -/
def union (sets : List CharSet) : CharSet :=
  ofRanges (sets.flatMap ranges)

end CharSet

end PatternScan.Pattern
