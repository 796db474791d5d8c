import PatternScan.Pattern.Lowering

/-!
# Where matches may start

What a program tells about the places at which it can match at all, so that a search need not try
the others. Four things live here:

* `isAnchored` and `isStartLine`, whether each match starts where the search does, or at the
  start of a line;
* `asserted?`, the unit that a lookahead demands first, and `startUnits`, the set of units that a
  match may start with;
* `shortest`, a length that no match falls below;
* `Lowered.start`, which puts these together.
-/

namespace PatternScan.Pattern

namespace Start

/-! ## Anchors -/

/-- What decides about a leading `.*`. -/
structure DotStar where
  /-- Whether it anchors at all. -/
  isAllowed : Bool
  /-- The groups that are referred to. -/
  referred : List Nat
  /-- The open groups that capture. -/
  captures : List Nat := []
  inAtomic : Bool := false
  inLook : Bool := false

/-- Whether a leading `.*` anchors here. -/
def DotStar.anchors (d : DotStar) : Bool :=
  d.isAllowed && !d.inAtomic && !d.inLook && !d.captures.any (· ∈ d.referred)

/-- Whether a node says nothing about the start. -/
def isSkipped (skipLooks : Bool) : Node → Bool
  | .group (.look behind negated _) _ _ _ => skipLooks && (behind || negated)
  | .group (.conditional (.constant false)) _ [_] _ => true
  | .anchor (.wordBoundary _) => skipLooks
  | .never _ => true
  | .mark _ => true
  | .skipTo _ => true
  | .commit isNamed => isNamed
  | .prune isNamed => isNamed
  | .andThen isNamed _ => isNamed
  | _ => false

mutual

/-- Whether a node matches only where the search starts. -/
def anchored (d : DotStar) : Node → Bool
  | .group b _ branches _ =>
    match b with
    | .plain => anchoredBranches d branches
    | .capture n => anchoredBranches { d with captures := n :: d.captures } branches
    | .atomic => anchoredBranches { d with inAtomic := true } branches
    | .look behind negated _ =>
      !behind && !negated && anchoredBranches { d with inLook := true } branches
    | .conditional _ => 1 < branches.length && anchoredBranches d branches
    | .scriptRun => false
  | .many .any q => q.least = 0 && q.most = none && d.anchors
  | .anchor a => a = .subjectStart || a = .searchStart || a = .circumflex
  | _ => false

/-- Whether a branch matches only where the search starts. -/
def anchoredNodes (d : DotStar) : List Node → Bool
  | [] => false
  | n :: rest => if isSkipped false n then anchoredNodes d rest else anchored d n

/-- Whether all of some branches match only where the search starts. -/
def anchoredBranches (d : DotStar) : List (List Node) → Bool
  | [] => true
  | b :: rest => anchoredNodes d b && anchoredBranches d rest

end

mutual

/-- Whether a node matches only at the start of a line. -/
def lineStart (d : DotStar) : Node → Bool
  | .group b _ branches _ =>
    match b with
    | .plain => lineStartBranches d branches
    | .capture n => lineStartBranches { d with captures := n :: d.captures } branches
    | .atomic => lineStartBranches { d with inAtomic := true } branches
    | .look behind negated _ =>
      !behind && !negated && lineStartBranches { d with inLook := true } branches
    | .conditional .lookaround => lineStartCondition d branches
    | .conditional _ => false
    | .scriptRun => false
  | .many .notNewline q => q.least = 0 && q.most = none && d.anchors
  | .anchor a => a = .lineStart || a = .circumflex
  | _ => false

/-- Whether a branch matches only at the start of a line. -/
def lineStartNodes (d : DotStar) : List Node → Bool
  | [] => false
  | n :: rest => if isSkipped false n then lineStartNodes d rest else lineStart d n

/-- Whether all of some branches match only at the start of a line. -/
def lineStartBranches (d : DotStar) : List (List Node) → Bool
  | [] => true
  | b :: rest => lineStartNodes d b && lineStartBranches d rest

/-- Whether a condition and what follows it in the first branch match only at the start of a
line. -/
def lineStartCondition (d : DotStar) : List (List Node) → Bool
  | [] => false
  | b :: _ => lineStartTest d b

/-- Whether the lookaround and the rest of the branch that it starts match only at the start of a
line. -/
def lineStartTest (d : DotStar) : List Node → Bool
  | .group _ _ branches _ :: rest =>
    lineStartBranches { d with inLook := true } branches && lineStartNodes d rest
  | _ => false

end

/-! ## Units -/

/-- The first unit of a character. -/
def headUnit (utf : Bool) (c : Char) : UInt8 :=
  (Lower.bytesOf utf c).headD 0

/-- A unit that is demanded, and whether case matters; the flag in front says that it stands for a
character, not for a group. -/
abbrev Asserted := Option (Bool × UInt8 × Bool)

/-- The unit that two branches both demand; of a character, case does not count. -/
def agree (a b : Asserted) : Asserted :=
  match a, b with
  | some (_, u, caseless), some (isChar, u', caseless') =>
    if u = u' && (isChar || caseless = caseless') then some (false, u, caseless) else none
  | _, _ => none

mutual

/-- The unit that a node demands first, inside a lookahead. -/
def asserted (utf inLook : Bool) : Node → Asserted
  | .group b _ branches _ =>
    match b with
    | .look behind negated _ =>
      if behind || negated then none else assertedBranches utf true branches
    | .conditional _ => none
    | _ => assertedBranches utf inLook branches
  | .one s => assertedSingle utf inLook s
  | .many s q => if q.least = 0 then none else assertedSingle utf inLook s
  | _ => none
where
  /-- The unit that a character demands. -/
  assertedSingle (utf inLook : Bool) : Single → Asserted
    | .char c => if inLook then some (true, headUnit utf c, false) else none
    | .caseless c _ =>
      if inLook && headUnit utf c < 0x80 then some (true, headUnit utf c, true) else none
    | _ => none

/-- The unit that a branch demands first. -/
def assertedNodes (utf inLook : Bool) : List Node → Asserted
  | [] => none
  | n :: rest => if isSkipped true n then assertedNodes utf inLook rest else asserted utf inLook n

/-- The unit that all of some branches demand first. -/
def assertedBranches (utf inLook : Bool) : List (List Node) → Asserted
  | [] => none
  | b :: rest =>
    assertedRest utf inLook ((assertedNodes utf inLook b).map fun (_, u) => (false, u)) rest

/-- The unit that some branches demand first too. -/
def assertedRest (utf inLook : Bool) (a : Asserted) : List (List Node) → Asserted
  | [] => a
  | b :: rest => assertedRest utf inLook (agree a (assertedNodes utf inLook b)) rest

end

/-- A set of units, as a number of 256 bits. -/
abbrev Units := Nat

/-- The set of one unit. -/
def Units.of (u : UInt8) : Units :=
  1 <<< u.toNat

/-- Whether a set has a unit. -/
def Units.has (s : Units) (u : UInt8) : Bool :=
  s.testBit u.toNat

/-- The units that the characters of a range start with. -/
def unitsOfRange (utf : Bool) (low high : Nat) : Units :=
  let span (a b : Nat) : Units := (2 <<< b) - (1 <<< a)
  if utf then
    if low > high then 0
    else
      let head (n : Nat) : Nat := ((Utf8.encode n).headD 0).toNat
      span (head low) (head (min high 0x10ffff))
  else if low > 255 then 0 else span low (min high 255)

/-- The units that the characters of a set start with. Leads of continued characters lie apart
from ASCII, so a range that crosses over is cut there. -/
def unitsOfSet (utf : Bool) (s : CharSet) : Units :=
  s.ranges.foldl (fun units (low, high) =>
    units ||| (if utf && low < 128 && 128 ≤ high then
      unitsOfRange utf low 127 ||| unitsOfRange utf 128 high
    else unitsOfRange utf low high)) 0

/-- The units that something may start with, none if they are not looked at; `optional` says that
it need not occur. -/
def unitsOfSingle (utf optional : Bool) : Single → Option Units
  | .char c => some (.of (headUnit utf c))
  | .caseless c d => some (.of (headUnit utf c) ||| .of (headUnit utf d))
  | .set .kind s => some (unitsOfSet utf s)
  | .set .bracket s => some (unitsOfSet utf s)
  | .set .letters s => if optional then none else some (unitsOfSet utf s)
  | .newline => some (unitsOfSet utf Kind.vertical.set)
  | _ => none

mutual

/-- The units that a node may start with, added to some; and whether it consumes a unit in any
case. None if nothing can be said. -/
def startUnits (utf : Bool) (units : Units) : Node → Option (Units × Bool)
  | .one s => (unitsOfSingle utf false s).map fun more => (units ||| more, true)
  | .many s q => (unitsOfSingle utf (q.least = 0) s).map fun more => (units ||| more, 0 < q.least)
  | .anchor (.wordBoundary _) => some (units, false)
  | .anchor .circumflex => some (units, false)
  | .group (.look behind negated _) _ branches _ =>
    if behind || negated then some (units, false) else startBranches utf units branches
  | .group (.conditional _) _ _ _ => none
  | .group _ _ branches _ => startBranches utf units branches
  | .maybe _ n => startOptional utf units n
  | .never _ => some (units, false)
  | _ => none

/-- The units that a group may start with that need not occur. -/
def startOptional (utf : Bool) (units : Units) : Node → Option (Units × Bool)
  | .group (.conditional .lookaround) _ branches _ =>
    (startBranches utf units branches).map fun (units, _) => (units, false)
  | .group (.conditional _) _ _ _ => none
  | .group _ _ branches _ =>
    (startBranches utf units branches).map fun (units, _) => (units, false)
  | _ => none

/-- The units that a branch may start with. -/
def startNodes (utf : Bool) (units : Units) : List Node → Option (Units × Bool)
  | [] => some (units, false)
  | n :: rest =>
    match startUnits utf units n with
    | none => none
    | some (units, true) => some (units, true)
    | some (units, false) => startNodes utf units rest

/-- The units that any of some branches may start with. -/
def startBranches (utf : Bool) (units : Units) : List (List Node) → Option (Units × Bool)
  | [] => some (units, true)
  | b :: rest =>
    match startNodes utf units b with
    | none => none
    | some (units, consumes) =>
      (startBranches utf units rest).map fun (units, all) => (units, consumes && all)

end

/-! ## Lengths -/

/-- A length, and whether a call that goes round in circles was left out of it. -/
abbrev Length := StateT Nat Option (Nat × Bool)

/-- The most groups that are looked at. -/
def mostGroups : Nat := 1000

/-- The largest length. -/
def largestLength : Nat := 65535

/-- The shorter of the lengths of two branches; one with a call left out does not count. -/
def shorter (best : Option Nat) (branch : Nat × Bool) : Option Nat :=
  match best with
  | none => some branch.1
  | some n => if branch.2 then some n else some (min n branch.1)

mutual

/-- The least length of some branches; `within` are the groups that are open or called. -/
def branchesLength (all : List (List Node)) : Nat → List Nat → List (List Node) → Length
  | 0, _, _ => failure
  | fuel + 1, within, branches => do
    let visits ← get
    if visits > mostGroups then failure
    set (visits + 1)
    let mut best : Option Nat := none
    for b in branches do
      if best ≠ some 0 then
        let mut sum := 0
        let mut circular := false
        for n in b do
          let (length, isCircular) ← nodeLength all fuel within n
          sum := min (sum + length) largestLength
          circular := circular || isCircular
        best := shorter best (sum, circular)
    return (best.getD 0, false)

/-- The least length of a group that is called or referred to. -/
def calledLength (all : List (List Node)) : Nat → List Nat → Nat → Length
  | 0, _, _ => failure
  | fuel + 1, within, n => do
    if n = 0 || n ∈ within then return (0, true)
    match Node.numberedInBranches? n all with
    | none => failure
    | some (branches, _) => branchesLength all fuel (n :: within) branches

/-- The least length of a node. -/
def nodeLength (all : List (List Node)) : Nat → List Nat → Node → Length
  | 0, _, _ => failure
  | fuel + 1, within, node => do
    match node with
    | .one .byte => failure
    | .one _ => return (1, false)
    | .many _ q => return (q.least, false)
    | .reference groups _ q =>
      let mut best : Option Nat := none
      let mut circular := false
      for n in groups do
        let (length, isCircular) ← calledLength all fuel within n
        best := some (min length (best.getD length))
        circular := circular || isCircular
      let least := (q.map (·.least)).getD 1
      return (min (best.getD 0 * least) largestLength, circular)
    | .call n => calledLength all fuel within n
    | .group (.look ..) _ _ _ => return (0, false)
    | .group (.conditional _) _ [_] _ => return (0, false)
    | .group (.capture n) _ branches _ => branchesLength all fuel (n :: within) branches
    | .group _ _ branches _ => branchesLength all fuel within branches
    | _ => return (0, false)

end

/-- A length that no match falls below; zero if too much would have to be looked at. -/
def shortest (all : List (List Node)) : Nat :=
  match (branchesLength all (4 * mostGroups + 4) [] all).run 0 with
  | some ((n, _), _) => n
  | none => 0

end Start

/-! ## Putting it together -/

/-- What is known about the places where a program can match. -/
structure Start where
  /-- Matches only where the search starts. -/
  isAnchored : Bool
  /-- The unit that each match starts with, in both cases if case does not matter. -/
  first : Option (UInt8 × UInt8) := none
  /-- Matches only at the start of a line. -/
  isStartLine : Bool := false
  /-- The units that a match may start with. -/
  units : Option Start.Units := none
  /-- A unit that each match holds, in both cases if case does not matter. -/
  required : Option (UInt8 × UInt8) := none
  /-- No match is shorter. -/
  leastLength : Nat := 0

namespace Start

/-- The other case of a unit. -/
def otherUnit (setup : Setup) (u : UInt8) : UInt8 :=
  if u < 128 then UInt8.ofNat (Case.otherAscii (Char.ofNat u.toNat)).toNat
  else if setup.ucp && !setup.utf then UInt8.ofNat (Case.other (Char.ofNat u.toNat)).toNat
  else u

/-- A unit in both cases, or twice if case matters. -/
def pair (setup : Setup) (u : UInt8) (caseless : Bool) : UInt8 × UInt8 :=
  (u, if caseless then otherUnit setup u else u)

/-- All units of a set. -/
def Units.toList (s : Units) : List UInt8 :=
  ((List.range 256).map UInt8.ofNat).filter s.has

/-- The one unit of a set, or the two cases of one, if no two units have the same top five
bits. -/
def collapse? (setup : Setup) (s : Units) : Option (UInt8 × UInt8) :=
  match Units.toList s with
  | [a] => if setup.utf && a > 127 then none else some (a, a)
  | [a, b] =>
    let isLetter := !((setup.utf || setup.ucp) && (Case.set? (Char.ofNat b.toNat)).isSome)
    if a / 8 ≠ b / 8 && !(setup.utf && b > 127) && isLetter && otherUnit setup b = a then
      some (a, b)
    else none
  | _ => none

end Start

/-- Where a program can match; `anchored` says that the caller wants it at the start only. -/
def Lowered.start (l : Lowered) (setup : Setup) (anchored : Bool) : Start :=
  let dotStar : Start.DotStar :=
    { isAllowed := !setup.noDotStarAnchor && !l.facts.hasPruneOrSkip, referred := l.facts.referred }
  let isAnchored := anchored || Start.anchoredBranches dotStar l.branches
  if setup.noStartFacts then { isAnchored }
  else
    let first : Option (UInt8 × Bool) :=
      match l.first with
      | .unit u caseless => some (u, caseless)
      | _ => (Start.assertedBranches setup.utf false l.branches).map fun (_, u) => u
    let isStartLine := first.isNone && !isAnchored && Start.lineStartBranches dotStar l.branches
    let required := if l.facts.hasAccept then none else l.required
    let required' := required.filter fun r => !isAnchored || r.varies
    let countsTwice : Bool :=
      match first, required with
      | some (u, _), some r => !setup.utf || u < 0x80 || r.unit < 0x80
      | _, r => r.isSome
    let units :=
      if first.isSome || isStartLine then none
      else
        match Start.startBranches setup.utf 0 l.branches with
        | some (units, true) => some units
        | _ => none
    let collapsed :=
      (units.bind (Start.collapse? setup)).filter fun (a, b) =>
        !required'.any fun r => r.unit = a || r.unit = b
    let implied := (if first.isSome then 1 else 0) + (if countsTwice then 1 else 0)
    let implied := if units.isSome && collapsed.isNone then max implied 1 else implied
    let least :=
      if l.nonEmpty && !l.facts.hasAccept then Start.shortest l.branches else 0
    { isAnchored
      first := (first.map fun (u, caseless) => Start.pair setup u caseless).or collapsed
      isStartLine
      units := if collapsed.isSome then none else units
      required := required'.map fun r => Start.pair setup r.unit r.caseless
      leastLength := max least implied }

end PatternScan.Pattern
