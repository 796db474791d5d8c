import PatternScan.Match
import PatternScan.Shelf

/-!
# Stored matches

Every test and every search for one match is given a block for its slots. A cell keeps at most one
block, together with the subject, the place of the slots and their number; moves hand a block on and
leave the other fields of the source behind. A cell counts as a match iff it has a block and its
number of slots is not zero, so the fields left behind are never read. The searches of a scan have
blocks too, but each step gives its own back before it ends, so they are left out here.
-/

namespace PatternScan

/-- The number of a block, in order of allocation. -/
abbrev Block := Nat

/-- A place for one match in a subject of type `S`. -/
structure Cell (S : Type) where
  block : Option Block := none
  subject : Option S := none
  slots : Option Block := none
  size : Nat := 0

namespace Cell

variable {S : Type}

/-- Whether the cell holds a match. -/
def isMatch (c : Cell S) : Bool :=
  c.block.isSome && 0 < c.size

/-- What the cell is after its match was moved out of it. -/
def vacated (c : Cell S) : Cell S :=
  { c with block := none }

end Cell

/-- All blocks and the cells by name. -/
structure MatchStore (S : Type) where
  blocks : List (List Slot) := []
  freed : List Block := []
  cells : Shelf (Cell S) := {}

namespace MatchStore

variable {S : Type}

/-- The cell of a name; a new one holds nothing. -/
def cell (s : MatchStore S) (name : Name) : Cell S :=
  (s.cells.get? name).getD {}

/-- What a cell holds: the subject and the match in it. -/
def content? (s : MatchStore S) (c : Cell S) : Option (S × Match) := do
  if c.isMatch then
    let subject ← c.subject
    let slots ← s.blocks[← c.slots]?
    return (subject, ⟨slots, c.size⟩)
  else none

/-- The store after a cell was destroyed. -/
def release (s : MatchStore S) (c : Cell S) : MatchStore S :=
  { s with freed := c.block.toList ++ s.freed }

/-- The store with one cell changed. -/
def setCell (s : MatchStore S) (name : Name) (c : Cell S) : MatchStore S :=
  { s with cells := s.cells.put name c }

/-- The store after a search, with the cell that holds its match. A search that fails or finds
nothing gives its block back at once. -/
def searched (s : MatchStore S) (subject : S) (result : Except Failure (Option Match)) :
    MatchStore S × Cell S :=
  let block := s.blocks.length
  match result with
  | .ok (some m) =>
    ({ s with blocks := s.blocks ++ [m.slots] }, ⟨some block, some subject, some block, m.size⟩)
  | _ => ({ s with blocks := s.blocks ++ [[]], freed := block :: s.freed }, {})

/-- The store after a cell was exchanged with the one of a name and then destroyed. -/
def keep (s : MatchStore S) (name : Name) (c : Cell S) : MatchStore S :=
  (s.setCell name c).release (s.cell name)

/-- The store after `target` was destroyed and made anew by moving from `source`. -/
def takeOver (s : MatchStore S) (source target : Name) : MatchStore S :=
  ((s.release (s.cell target)).setCell target (s.cell source)).setCell source
    (s.cell source).vacated

/-- The store after two cells exchanged all their fields. -/
def exchange (s : MatchStore S) (source target : Name) : MatchStore S :=
  (s.setCell source (s.cell target)).setCell target (s.cell source)

end MatchStore

end PatternScan
