/-!
# Runs

Tables that give each character a value. They are written as texts of words, one for each run of
characters with the same value: the number of characters, left out if it is one, and the value.
Two things live here:

* `Runs.ofLines`, which reads such a text;
* `Runs.get?` and `Runs.ranges`, which look up a character by bisection, and all characters whose
  value passes a test.
-/

namespace PatternScan.Pattern

/-- The first character of each run with the value of the run, in ascending order. -/
structure Runs (α : Type) where
  starts : Array (Nat × α)

namespace Runs

/-- The words of a text, which single blanks divide. -/
def words : List Char → List (List Char)
  | [] => [[]]
  | c :: rest =>
    if c == ' ' then [] :: words rest
    else
      match words rest with
      | [] => [[c]]
      | w :: more => (c :: w) :: more

/-- The number that some digits stand for. -/
def number (digits : List Char) : Nat :=
  digits.foldl (fun n c => n * 10 + (c.toNat - '0'.toNat)) 0

/-- The number of characters and the value of a run. -/
def readWord {α : Type} (value : List Char → α) (word : List Char) : Nat × α :=
  (max 1 (number (word.takeWhile Char.isDigit)), value (word.dropWhile Char.isDigit))

/-- The first characters of runs from a character on. -/
def startsFrom {α : Type} (start : Nat) : List (Nat × α) → List (Nat × α)
  | [] => []
  | (n, a) :: rest => (start, a) :: startsFrom (start + n) rest

/-- Reads the runs from character zero on. -/
def ofLines {α : Type} (lines : List String) (value : List Char → α) : Runs α :=
  ⟨(startsFrom 0 (lines.flatMap fun line =>
    (words line.toList).map (readWord value))).toArray⟩

/-- The value of the last run between two places of the table that starts at or before a
character. -/
def search {α : Type} (t : Runs α) (n : Nat) : Nat → Nat → Nat → Option α
  | 0, low, _ => t.starts[low]?.map (·.2)
  | fuel + 1, low, high =>
    if low + 1 < high then
      let middle := (low + high) / 2
      if (t.starts[middle]?).any (·.1 ≤ n) then t.search n fuel middle high
      else t.search n fuel low middle
    else t.starts[low]?.map (·.2)

/-- The value of a character. -/
def get? {α : Type} (t : Runs α) (c : Char) : Option α :=
  t.search c.toNat t.starts.size 0 t.starts.size

/-- The ranges of characters in some runs whose values pass a test. -/
def rangesOf {α : Type} (p : α → Bool) : List (Nat × α) → List (Nat × Nat)
  | [] => []
  | [(start, a)] => if p a then [(start, 0x10ffff)] else []
  | (start, a) :: (stop, b) :: rest =>
    if p a then (start, stop - 1) :: rangesOf p ((stop, b) :: rest)
    else rangesOf p ((stop, b) :: rest)

/-- The ranges of characters whose values pass a test. -/
def ranges {α : Type} (t : Runs α) (p : α → Bool) : List (Nat × Nat) :=
  rangesOf p t.starts.toList

end Runs

end PatternScan.Pattern
