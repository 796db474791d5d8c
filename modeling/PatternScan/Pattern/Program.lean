import PatternScan.Pattern.Syntax

/-!
# Programs

What a pattern is lowered to before it is matched: a tree in which every quantifier that stands
for several copies of a group is written out, every class is a set, and every reference is a
number. The nodes say what to do; how they are tried is the machine's business.
-/

namespace PatternScan.Pattern

/-- What a set of characters was written as. -/
inductive Origin
  /-- A type with an escape. -/
  | kind
  /-- A class in brackets. -/
  | bracket
  /-- The characters that equal one but for case, if there are more than two. -/
  | letters
  /-- All characters but one, or but those of a list. -/
  | excluded
  | property
deriving DecidableEq, Repr

/-- What matches one character, or a sequence that counts as one. -/
inductive Single
  | char (c : Char)
  /-- Either of two cases of a character. -/
  | caseless (c d : Char)
  | set (o : Origin) (s : CharSet)
  | any
  | notNewline
  | byte
  | newline
  | cluster
deriving DecidableEq, Repr

/-- What happens at the end of a group. -/
inductive Ending
  /-- The rest of the pattern follows. -/
  | once
  /-- The group is tried again first. -/
  | greedy
  /-- The group is tried again last. -/
  | lazy
  /-- The group is repeated as long as it matches, and its choices are final; it may not match at
  all if `mayMiss` is set. -/
  | possessive (mayMiss : Bool)
deriving DecidableEq, Repr

/-- What decides between the branches of a conditional group. -/
inductive Test
  /-- One of these groups is set. -/
  | isSet (groups : List Nat)
  /-- One of these groups is being called. -/
  | isCalled (groups : List Nat)
  /-- Any group is being called. -/
  | anyCall
  | constant (b : Bool)
  /-- The lookaround holds with which the first branch starts. -/
  | lookaround
deriving DecidableEq, Repr

/-- What a group does beside its branches. -/
inductive Block
  | plain
  | capture (n : Nat)
  | atomic
  | scriptRun
  | look (behind negated atomic : Bool)
  | conditional (t : Test)
deriving DecidableEq, Repr

/-- One step of a program. -/
inductive Node
  | one (s : Single)
  | many (s : Single) (q : Quantifier)
  /-- The text of the first of some groups that is set, once or repeated. -/
  | reference (groups : List Nat) (caseless : Bool) (q : Option Quantifier)
  | anchor (a : Anchor)
  | matchStart
  /-- A group; `stops` are the places where its branches end, if places matter. -/
  | group (b : Block) (e : Ending) (branches : List (List Node)) (stops : List Nat)
  /-- A group or nothing; nothing first if `lazy` is set. -/
  | maybe (lazy : Bool) (n : Node)
  /-- A group that is there only to be called. -/
  | never (n : Node)
  | call (n : Nat)
  | mark (s : Name)
  | fail
  | commit (isNamed : Bool)
  | prune (isNamed : Bool)
  | skip
  | skipTo (s : Name)
  /-- Goes on with the next branch around its place. -/
  | andThen (isNamed : Bool) (place : Nat)
  /-- Ends the match, or the lookaround; the groups that are open end too. -/
  | accept (closes : List Nat) (inLook : Bool)
  /-- Goes back some characters. -/
  | back (n : Nat)

namespace Node

/-- A group of one branch that does nothing else. -/
def plain (nodes : List Node) : Node :=
  .group .plain .once [nodes] []

/-- A group of one branch whose choices are final. -/
def sealed (nodes : List Node) : Node :=
  .group .atomic .once [nodes] []

mutual

/-- The node with places for branches from `n` on, and the first place not used. -/
def placed (n : Nat) : Node → Node × Nat
  | .group b e branches _ =>
    let (branches, stops, n) := placedBranches n branches
    (.group b e branches stops, n + 1)
  | .maybe lazy node =>
    let (node, n) := placed n node
    (.maybe lazy node, n)
  | .never node =>
    let (node, n) := placed n node
    (.never node, n)
  | .andThen isNamed _ => (.andThen isNamed n, n + 1)
  | node => (node, n)

/-- The nodes of a branch with places. -/
def placedNodes (n : Nat) : List Node → List Node × Nat
  | [] => ([], n)
  | node :: rest =>
    let (node, n) := placed n node
    let (rest, n) := placedNodes n rest
    (node :: rest, n)

/-- Branches with places, and the places where they end. -/
def placedBranches (n : Nat) : List (List Node) → List (List Node) × List Nat × Nat
  | [] => ([], [], n)
  | b :: rest =>
    let (b, n) := placedNodes n b
    let (rest, stops, m) := placedBranches (n + 1) rest
    (b :: rest, n :: stops, m)

end

mutual

/-- The branches of the first group of some number in a node. -/
def numbered? (n : Nat) : Node → Option (List (List Node) × List Nat)
  | .group (.capture m) _ branches stops =>
    if m = n then some (branches, stops) else numberedInBranches? n branches
  | .group _ _ branches _ => numberedInBranches? n branches
  | .maybe _ node => numbered? n node
  | .never node => numbered? n node
  | _ => none

/-- The branches of the first group of some number in some nodes. -/
def numberedInNodes? (n : Nat) : List Node → Option (List (List Node) × List Nat)
  | [] => none
  | node :: rest =>
    match numbered? n node with
    | some found => some found
    | none => numberedInNodes? n rest

/-- The branches of the first group of some number in some branches. -/
def numberedInBranches? (n : Nat) :
    List (List Node) → Option (List (List Node) × List Nat)
  | [] => none
  | b :: rest =>
    match numberedInNodes? n b with
    | some found => some found
    | none => numberedInBranches? n rest

end

end Node

/-! ## Programs -/

/-- Branches, and the places where they end, if places matter. -/
abbrev Branches := List (List Node) × List Nat

/-- A whole program. -/
structure Program where
  main : Branches
  /-- The number of groups that capture. -/
  groups : Nat
  /-- What the groups do when they are called, by number; the whole pattern is number zero. -/
  called : Array Branches

/-- The program of some branches; `hasThen` says whether places matter. -/
def Program.ofBranches (branches : List (List Node)) (groups : Nat) (hasThen : Bool) : Program :=
  let main : Branches :=
    if hasThen then
      let (branches, stops, _) := Node.placedBranches 0 branches
      (branches, stops)
    else (branches, [])
  { main, groups
    called := Array.ofFn fun n : Fin (groups + 1) =>
      if n.val = 0 then main else (Node.numberedInBranches? n.val main.1).getD ([], []) }

end PatternScan.Pattern
