import PatternScan.Pattern.Setup
import PatternScan.Pattern.Subject

/-!
# States of the machine

A run of a program goes forward node by node and, where it fails, back to the last choice that
was left open. Four things live here:

* `Regs`, what a run knows at a place: where it is, where the match starts, what the groups hold;
* `Rest`, what is left to do when the nodes at hand are done;
* `Signal`, what a failure asks for, and `Choice`, what it comes back to;
* `State`, the choices that are open, and `State.push`, which counts them against the limits.
-/

namespace PatternScan.Pattern.Machine

/-- The texts that groups hold, from one place to another, by number. -/
abbrev Captures := Array (Option (Nat × Nat))

/-- What a run knows at a place. -/
structure Regs where
  pos : Nat
  /-- Where the match starts. -/
  start : Nat
  captures : Captures
  /-- The group that is being called. -/
  called : Option Nat

/-- What is left to do. -/
inductive Rest
  /-- The pattern has matched. -/
  | done
  | nodes (ns : List Node) (after : Rest)
  /-- A group ends that was entered at a place, with some number of choices open. -/
  | close (b : Block) (e : Ending) (node : Node) (entry depth : Nat) (after : Rest)
  /-- A turn of a possessive group ends. -/
  | turn (b : Block) (node : Node) (entry depth : Nat) (after : Rest)
  /-- The lookaround of a conditional group ends. -/
  | test (holds : Bool) (yes no : List Node) (entry : Regs) (depth : Nat) (after : Rest)
  /-- A called group ends. -/
  | call (n : Nat) (caller : Regs) (depth : Nat) (after : Rest)

namespace Rest

/-- Some nodes before what is left. -/
def before (ns : List Node) (after : Rest) : Rest :=
  if ns.isEmpty then after else .nodes ns after

/-- Where the innermost open group of a number was entered. -/
def entered? (n : Nat) : Rest → Option Nat
  | done => none
  | nodes _ after => after.entered? n
  | close b _ _ entry _ after => if isCapture b then some entry else after.entered? n
  | turn b _ entry _ after => if isCapture b then some entry else after.entered? n
  | test _ _ _ _ _ after => after.entered? n
  | call _ _ _ after => after.entered? n
where
  /-- Whether a block captures under the number. -/
  isCapture : Block → Bool
    | .capture m => m = n
    | _ => false

/-- Where the innermost open call of a group was made. -/
def calledAt? (n : Nat) : Rest → Option Nat
  | done => none
  | nodes _ after => after.calledAt? n
  | close _ _ _ _ _ after => after.calledAt? n
  | turn _ _ _ _ after => after.calledAt? n
  | test _ _ _ _ _ after => after.calledAt? n
  | call m caller _ after => if m = n then some caller.pos else after.calledAt? n

/-- The innermost open call: who called, with how many choices open, and what is left then. -/
def caller? : Rest → Option (Regs × Nat × Rest)
  | done => none
  | nodes _ after => after.caller?
  | close _ _ _ _ _ after => after.caller?
  | turn _ _ _ _ after => after.caller?
  | test _ _ _ _ _ after => after.caller?
  | call _ caller depth after => some (caller, depth, after)

end Rest

/-- What a failure asks for. -/
inductive Signal
  /-- The next choice. -/
  | noMatch
  /-- No further choice, and no further start. -/
  | commit
  /-- The next start. -/
  | prune
  /-- A start at a place. -/
  | skip (start : Nat)
  /-- A start at the mark of that name. -/
  | skipTo (s : Name)
  /-- The next branch around a place in the pattern. -/
  | andThen (place : Nat)
  /-- The end of the lookaround, which has matched with these captures. -/
  | accept (captures : Captures)

/-- Whether a signal comes from a verb that fails. -/
def Signal.isVerb : Signal → Bool
  | .noMatch => false
  | .accept _ => false
  | _ => true

/-- What some branches belong to, which decides what signals mean for them. -/
inductive Role
  | group
  | call (n : Nat)
  /-- A lookaround, and what is left if it accepts. -/
  | look (after : Rest)
  /-- A negated lookaround, and what is left if all branches fail. -/
  | lookNot (after : Rest)
  /-- The lookaround of a conditional group. -/
  | test (holds : Bool) (yes no : List Node) (after : Rest)
  /-- A possessive group; `proceeds` says whether it may end before this turn. -/
  | possessive (proceeds : Bool) (after : Rest)

/-- Branches of which one is being tried. -/
structure Alternatives where
  role : Role
  /-- The branches not yet tried. -/
  others : List (List Node)
  /-- Where the branch at hand ends. -/
  stop : Nat
  /-- Where the others end. -/
  stops : List Nat
  /-- Whether there was more than one branch to begin with. -/
  several : Bool
  /-- What the run knew in front of the branches. -/
  regs : Regs
  /-- What is left behind a branch. -/
  rest : Rest

namespace Alternatives

/-- The first of some branches, with what is left of them. -/
def ofBranches (role : Role) (branches : Branches) (regs : Regs) (rest : Rest) :
    List Node × Alternatives :=
  (branches.1.headD [],
    { role, others := branches.1.tail, stop := branches.2.headD 0, stops := branches.2.tail
      several := 1 < branches.1.length, regs, rest })

/-- The next branch, with what is left of them. -/
def next? (a : Alternatives) : Option (List Node × Alternatives) :=
  match a.others with
  | [] => none
  | b :: others => some (b, { a with others, stop := a.stops.headD 0, stops := a.stops.tail })

/-- The branches as they are once one of them has matched for good. -/
def settled (a : Alternatives) : Alternatives :=
  { a with others := [], stop := a.stops.getLastD a.stop, stops := [] }

/-- Whether a place lies before the end of the branch at hand, and there are others around it. -/
def surrounds (a : Alternatives) (place : Nat) : Bool :=
  a.several && place < a.stop

end Alternatives

/-- What a failure comes back to. -/
inductive Choice
  /-- What is left, from there. -/
  | resume (rest : Rest) (r : Regs)
  /-- What is left, from one place after the other. -/
  | retry (places : List Nat) (rest : Rest) (r : Regs)
  /-- One more piece, up to some number, and then what is left. -/
  | extend (p : Subject.Piece) (more : Option Nat) (rest : Rest) (r : Regs)
  | branches (a : Alternatives)
  /-- A verb that was passed while that group was called. -/
  | raise (g : Signal) (called : Option Nat)
  /-- A mark that was passed at a place. -/
  | mark (s : Name) (pos : Nat)

/-- Why a run is given up. -/
inductive Refusal
  | tooManyChoices
  | tooDeep
  | tooMuchMemory
  /-- A group calls itself without moving. -/
  | endlessCall
  /-- The pattern accepts in a lookaround that is not open. -/
  | strayAccept
  /-- The pattern ends a group that is not open. -/
  | strayClose
deriving DecidableEq, Repr

/-- The code of a refusal. -/
def Refusal.code : Refusal → Int
  | tooManyChoices => -47
  | tooDeep => -53
  | tooMuchMemory => -63
  | endlessCall => -52
  | strayAccept => -999
  | strayClose => -44

/-- How a run ends. -/
inductive Verdict
  | matched (r : Regs)
  | unmatched (g : Signal)
  | refused (x : Refusal)

/-- What a run has left open, and what it has counted. -/
structure State where
  choices : List Choice
  /-- The number of choices. -/
  depth : Nat
  /-- How many choices were made so far. -/
  made : Nat
  /-- How many verbs were passed that skip to a name. -/
  skips : Nat

/-- What does not change during a run. -/
structure Context where
  program : Program
  setup : Setup
  subject : Subject
  /-- How many verbs that skip to a name have no effect. -/
  skipsIgnored : Nat

/-- A run between two steps. -/
inductive Step
  /-- Nodes are at hand. -/
  | run (ns : List Node) (rest : Rest) (r : Regs) (s : State)
  /-- A signal is raised that was recorded while a group was called. -/
  | back (g : Signal) (called : Option Nat) (s : State)
  | stop (v : Verdict) (s : State)

namespace State

/-- The state with no choice open. -/
def initial : State := ⟨[], 0, 0, 0⟩

/-- The bytes that an open choice takes with some number of groups. -/
def bytesPerChoice (groups : Nat) : Nat :=
  128 + 16 * groups

/-- Why no further choice may be made. -/
def refusal? (c : Context) (s : State) : Option Refusal :=
  let limits := c.setup.limits
  if (s.depth + 1) * bytesPerChoice c.program.groups > limits.memory * 1024 then
    some .tooMuchMemory
  else if s.made ≥ limits.choices then some .tooManyChoices
  else if s.depth ≥ limits.depth then some .tooDeep
  else none

/-- Leaves a choice open and goes on with some nodes. -/
def push (c : Context) (s : State) (x : Choice) (ns : List Node) (rest : Rest) (r : Regs) :
    Step :=
  match s.refusal? c with
  | some refusal => .stop (.refused refusal) s
  | none =>
    .run ns rest r
      { s with choices := x :: s.choices, depth := s.depth + 1, made := s.made + 1 }

/-- Closes all choices but some number of them, those made first. -/
def cut (s : State) (depth : Nat) : State :=
  { s with choices := s.choices.drop (s.depth - depth), depth := min depth s.depth }

/-- Closes all choices but some number of them, and settles the branches that were left open
last. -/
def settle (s : State) (depth : Nat) : State :=
  let s := s.cut (depth + 1)
  match s.choices with
  | .branches a :: more => { s with choices := .branches a.settled :: more }
  | _ => s

/-- A plain failure. -/
def fail (s : State) : Step :=
  .back .noMatch none s

end State

end PatternScan.Pattern.Machine
