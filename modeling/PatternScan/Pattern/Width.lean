import PatternScan.Pattern.Fault
import PatternScan.Pattern.Syntax

/-!
# Widths

How many characters the branches of a lookbehind match. Each branch must have one width, its
branches may differ. `Syntax.widths` gives the widths of all lookbehinds by their places, or the
fault of one that has none.

A branch may call groups that stand elsewhere, so the recursion is not on the syntax; it ends
because only so many branches may be looked at.
-/

namespace PatternScan.Pattern

/-- The widths of the branches of lookbehinds, by the places of these. -/
abbrev Widths := List (Nat × List Nat)

namespace Width

/-- A fault whose offset may be left to the lookbehind around it. -/
structure Flaw where
  cause : Cause
  offset : Option Nat := none
deriving DecidableEq, Repr

/-- What has been found out so far. -/
structure State where
  /-- How many branches have been looked at. -/
  visits : Nat := 0
  /-- The widths of numbered groups. -/
  groups : List (Nat × Nat) := []
  lookbehinds : Widths := []

/-- A computation of widths. -/
abbrev Measure := StateT State (Except Flaw)

/-- The most branches that are looked at. -/
def mostVisits : Nat := 2000

/-- The largest width. -/
def largest : Nat := 65535

/-- A flaw without an offset. -/
def flaw {α : Type} (cause : Cause) : Measure α :=
  throw { cause }

/-- A numbered group: where it starts and ends, and its branches. -/
structure Numbered where
  number : Nat
  start : Nat
  stop : Nat
  branches : List (List Item)

mutual

/-- The numbered groups in an item, in the order of the pattern. -/
def numberedIn : Item → List Numbered
  | .group (.capture n start stop) branches =>
    ⟨n, start, stop, branches⟩ :: numberedInBranches branches
  | .group _ branches => numberedInBranches branches
  | .repeated i _ => numberedIn i
  | _ => []

/-- The numbered groups in a branch. -/
def numberedInBranch : List Item → List Numbered
  | [] => []
  | i :: rest => numberedIn i ++ numberedInBranch rest

/-- The numbered groups in some branches. -/
def numberedInBranches : List (List Item) → List Numbered
  | [] => []
  | b :: rest => numberedInBranch b ++ numberedInBranches rest

end

/-- What does not change while widths are computed. -/
structure Context where
  utf : Bool
  pattern : Syntax
  groups : List Numbered

/-- The context of a pattern. -/
def Context.of (utf : Bool) (x : Syntax) : Context :=
  ⟨utf, x, numberedInBranches x.branches⟩

/-- Whether an item ends its branch. -/
def endsBranch : Item → Bool
  | .verb .accept => true
  | .verb .fail => true
  | _ => false

/-- Whether an item is a lookahead, whose quantifier does not matter. -/
def isLookahead : Item → Bool
  | .group (.look l) _ => !l.behind
  | _ => false

/-- Adds to the width of a branch. -/
def add (width more : Nat) : Measure Nat :=
  if width + more > largest then flaw .lookbehindTooLong else return width + more

/-- The width of `n` items of some width, the first of which has been added. -/
def repeated (width : Nat) (w : Nat) (q : Quantifier) : Measure Nat :=
  if q.most = some q.least then
    if q.least = 0 then return width - w else add width ((q.least - 1) * w)
  else flaw .lookbehindNotFixed

/-- The number that a target stands for, the first one of a name. -/
def numberOf (c : Context) (t : Target) (offset : Nat) : Measure Nat :=
  match t with
  | .number n =>
    if n > c.pattern.groups then throw { cause := .noSuchGroup, offset := offset } else return n
  | .name s =>
    match c.pattern.named s with
    | g :: _ => return g.number
    | [] => throw { cause := .noSuchGroup, offset := offset }

/-- Whether what a reference names may have different widths at different times. -/
def isAmbiguous (c : Context) : Target → Bool
  | .number _ => c.pattern.sharedNumbers
  | .name s => c.pattern.sharedNumbers || (c.pattern.named s).any (·.shared)

mutual

/-- The width of a branch; `within` are the starts of the groups that are being called. -/
def branch (c : Context) : Nat → List Nat → List Item → Measure Nat
  | 0, _, _ => flaw .lookbehindTooComplicated
  | fuel + 1, within, items => do
    let s ← get
    if s.visits > mostVisits then flaw .lookbehindTooComplicated
    set { s with visits := s.visits + 1 }
    let mut width := 0
    for i in items do
      if endsBranch i then return width
      match i with
      | .repeated i q =>
        let w ← item c fuel within i
        width ← add width w
        if !isLookahead i then width ← repeated width w q
      | _ => width ← add width (← item c fuel within i)
    return width

/-- The width of an item without its quantifier. -/
def item (c : Context) : Nat → List Nat → Item → Measure Nat
  | 0, _, _ => flaw .lookbehindTooComplicated
  | fuel + 1, within, i => do
    match i with
    | .char _ _ => return 1
    | .bracket _ => return 1
    | .atom .newline => flaw .lookbehindNotFixed
    | .atom .cluster => flaw .lookbehindNotFixed
    | .atom .byte => if c.utf then flaw .byteInLookbehind else return 1
    | .atom _ => return 1
    | .anchor _ => return 0
    | .matchStart => return 0
    | .verb _ => return 0
    | .callout _ => return 0
    | .repeated i _ => item c fuel within i
    | .reference t _ place offset =>
      match t with
      | .number _ =>
        if isAmbiguous c t then flaw .lookbehindNotFixed
        called c fuel within (← numberOf c t offset) place
      | .name _ =>
        let n ← numberOf c t offset
        if isAmbiguous c t then flaw .lookbehindNotFixed
        called c fuel within n place
    | .call t place offset =>
      let n ← numberOf c t offset
      if n = 0 then flaw .lookbehindNotFixed
      called c fuel within n place
    | .group (.look l) branches =>
      if l.behind then lookbehind c fuel within l branches else scanBranches c fuel within branches
      return 0
    | .group (.conditional (.define _)) _ => return 0
    | .group (.capture n _ _) branches => group c fuel within (some n) branches
    | .group _ branches => group c fuel within none branches

/-- The width of a group that is called or referred to at a place. -/
def called (c : Context) : Nat → List Nat → Nat → Nat → Measure Nat
  | 0, _, _, _ => flaw .lookbehindTooComplicated
  | fuel + 1, within, n, place => do
    match c.groups.find? (·.number = n) with
    | none => flaw .lookbehindNotFixed
    | some g =>
      if (g.start < place && place < g.stop) || g.start ∈ within then flaw .lookbehindNotFixed
      group c fuel (g.start :: within) (some n) g.branches

/-- The width of a group, all of whose branches must have it. -/
def group (c : Context) : Nat → List Nat → Option Nat → List (List Item) → Measure Nat
  | 0, _, _, _ => flaw .lookbehindTooComplicated
  | fuel + 1, within, number, branches => do
    if let some n := number then
      if !c.pattern.sharedNumbers then
        if let some w := (← get).groups.lookup n then return w
    let mut width : Option Nat := none
    for b in branches do
      let w ← branch c fuel within b
      if width.any (· ≠ w) then flaw .lookbehindNotFixed
      width := some w
    let found := width.getD 0
    if let some n := number then
      modify fun s => { s with groups := (n, found) :: s.groups }
    return found

/-- The widths of the branches of a lookbehind. -/
def lookbehind (c : Context) : Nat → List Nat → Look → List (List Item) → Measure Unit
  | 0, _, _, _ => flaw .lookbehindTooComplicated
  | fuel + 1, within, l, branches => do
    let mut widths : List Nat := []
    for b in branches do
      let w ← tryCatch (branch c fuel within b) fun f =>
        throw { f with offset := some (f.offset.getD l.offset) }
      widths := w :: widths
    let found := widths.reverse
    modify fun s => { s with lookbehinds := (l.place, found) :: s.lookbehinds }

/-- Finds the lookbehinds in some branches. -/
def scanBranches (c : Context) : Nat → List Nat → List (List Item) → Measure Unit
  | 0, _, _ => flaw .lookbehindTooComplicated
  | fuel + 1, within, branches => do
    for b in branches do
      for i in b do
        scanItem c fuel within i

/-- Finds the lookbehinds in an item. -/
def scanItem (c : Context) : Nat → List Nat → Item → Measure Unit
  | 0, _, _ => flaw .lookbehindTooComplicated
  | fuel + 1, within, i => do
    match i with
    | .repeated i _ => scanItem c fuel within i
    | .group (.look l) branches =>
      if l.behind then lookbehind c fuel within l branches else scanBranches c fuel within branches
    | .group _ branches => scanBranches c fuel within branches
    | _ => return

end

/-- More than the deepest recursion: between two branches that are looked at, groups may nest
without being looked at. -/
def fuel : Nat := 10 * mostVisits * mostVisits

end Width

/-- The widths of all lookbehinds. -/
def Syntax.widths (x : Syntax) (utf : Bool) : Except Fault Widths :=
  match (Width.scanBranches (Width.Context.of utf x) Width.fuel [] x.branches).run {} with
  | .ok (_, s) => .ok s.lookbehinds
  | .error f => .error ⟨f.cause, f.offset.getD 0⟩

end PatternScan.Pattern
