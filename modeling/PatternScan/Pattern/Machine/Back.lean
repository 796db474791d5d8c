import PatternScan.Pattern.Machine.Forward

/-!
# Going back

What a signal does to the choices that are open, the last one first. A plain failure takes the
next alternative of the first choice that has one. The other signals pass over choices up to one
that knows what to do with them: `(*THEN)` goes on with the next branch of a group that surrounds
it, calls and lookarounds keep the verbs inside from acting outside.
-/

namespace PatternScan.Pattern.Machine

/-- Tries the next branch, or fails. -/
def tryNext (c : Context) (a : Alternatives) (s : State) (otherwise : Step) : Step :=
  match a.next? with
  | some (ns, a) => s.push c (.branches a) ns a.rest a.regs
  | none => otherwise

/-- Whether a signal asks for the next branch of these alternatives. -/
def asksForNext (a : Alternatives) : Signal → Bool
  | .noMatch => true
  | .andThen place => a.surrounds place
  | _ => false

/-- Whether a signal makes a branch of a lookaround fail. -/
def failsBranch : Signal → Bool
  | .noMatch => true
  | .andThen _ => true
  | _ => false

/-- Whether a signal makes a lookaround fail whatever branches are left. -/
def failsAll : Signal → Bool
  | .commit => true
  | .prune => true
  | .skip _ => true
  | _ => false

/-- Brings a signal to branches of which one was being tried. -/
def backToBranches (c : Context) (a : Alternatives) (g : Signal) (called : Option Nat)
    (s : State) : Step :=
  match a.role with
  | .group => if asksForNext a g then tryNext c a s s.fail else .back g called s
  | .call n =>
    if g.isVerb && called = some n then
      if asksForNext a g then tryNext c a s s.fail else s.fail
    else if g.isVerb then .back g called s
    else if asksForNext a g then tryNext c a s s.fail
    else .back g called s
  | .look after =>
    match g with
    | .accept captures => .run [] after { a.regs with captures } s
    | g => if failsBranch g then tryNext c a s s.fail else .back g called s
  | .lookNot after =>
    let holds : Step := .run [] after a.regs s
    match g with
    | .accept _ => s.fail
    | g =>
      if failsBranch g then tryNext c a s holds
      else if failsAll g then holds
      else .back g called s
  | .test holds yes no after =>
    let no' : Step := .run (if holds then no else yes) after a.regs s
    match g with
    | .accept captures => .run (if holds then yes else no) after { a.regs with captures } s
    | g =>
      if failsBranch g then tryNext c a s no'
      else if failsAll g then no'
      else .back g called s
  | .possessive proceeds after =>
    if asksForNext a g then
      tryNext c a s (if proceeds then .run [] after a.regs s else s.fail)
    else .back g called s

/-- Brings a signal to a choice. -/
def backTo (c : Context) (x : Choice) (g : Signal) (called : Option Nat) (s : State) : Step :=
  match x, g with
  | .branches a, g => backToBranches c a g called s
  | .resume rest r, .noMatch => .run [] rest r s
  | .retry (i :: places) rest r, .noMatch =>
    if places.isEmpty then .run [] rest { r with pos := i } s
    else s.push c (.retry places rest r) [] rest { r with pos := i }
  | .extend p more rest r, .noMatch =>
    match if more = some 0 then none else c.subject.piece? r.pos p with
    | none => s.fail
    | some i =>
      let r := { r with pos := i }
      s.push c (.extend p (more.map (· - 1)) rest r) [] rest r
  | .raise g called, .noMatch => .back g called s
  | .mark m pos, .skipTo m' =>
    if m = m' then .back (.skip pos) called s else .back g called s
  | _, g => .back g called s

/-- Raises a signal: it goes to the choice left open last, and ends the run if there is none. -/
def backward (c : Context) (g : Signal) (called : Option Nat) (s : State) : Step :=
  match s.choices with
  | x :: choices => backTo c x g called { s with choices, depth := s.depth - 1 }
  | [] =>
    match g with
    | .accept _ => .stop (.refused .strayAccept) s
    | g => .stop (.unmatched g) s

end PatternScan.Pattern.Machine
