import PatternScan.Pattern.Machine.State
import PatternScan.Pattern.ScriptRun

/-!
# Going forward

What a run does with the nodes at hand, and at the ends of groups. Three things live here:

* `enter`, which starts the branches of a group;
* `finish`, which goes on with what is left once all nodes at hand are done;
* `forward`, which takes the next node.
-/

namespace PatternScan.Pattern.Machine

/-- Tries branches one after the other, from the first on. -/
def tryBranches (c : Context) (role : Role) (branches : Branches) (rest : Rest) (r : Regs)
    (s : State) : Step :=
  let (ns, a) := Alternatives.ofBranches role branches r rest
  s.push c (.branches a) ns rest r

/-- Tries the branches of a group that nothing but other branches depends on; the last one leaves
no choice open. -/
def tryPlain (c : Context) (branches : Branches) (rest : Rest) (r : Regs) (s : State) : Step :=
  match branches.1 with
  | [ns] => .run ns rest r s
  | _ => tryBranches c .group branches rest r s

/-- Whether a test is met, and none if it takes a lookaround to say. -/
def isMet? (r : Regs) : Test → Option Bool
  | .isSet groups => some (groups.any fun n => (r.captures[n]?.join).isSome)
  | .isCalled groups => some (groups.any (some · = r.called))
  | .anyCall => some r.called.isSome
  | .constant b => some b
  | .lookaround => none

/-- Tries the branches of a conditional group. -/
def enterConditional (c : Context) (t : Test) (branches : List (List Node)) (rest : Rest) (r : Regs)
    (s : State) : Step :=
  let yes := branches.headD []
  let no := branches.tail.headD []
  match isMet? r t with
  | some b => .run (if b then yes else no) rest r s
  | none =>
    match yes with
    | .group (.look _ negated _) _ looks stops :: yes =>
      tryBranches c (.test (!negated) yes no rest) (looks, stops)
        (.test (!negated) yes no r s.depth rest) r s
    | _ => .run no rest r s

/-- Enters a group in front of what is left behind it. -/
def enterGroup (c : Context) (node : Node) (b : Block) (e : Ending) (branches : Branches)
    (after : Rest) (r : Regs) (s : State) : Step :=
  let close : Rest := .close b e node r.pos s.depth after
  match e, b with
  | .possessive mayMiss, _ =>
    tryBranches c (.possessive mayMiss after) branches (.turn b node r.pos s.depth after) r s
  | _, .plain => tryPlain c branches close r s
  | _, .capture _ => tryPlain c branches close r s
  | _, .atomic => tryBranches c .group branches close r s
  | _, .scriptRun => tryPlain c branches close r s
  | _, .look _ false _ => tryBranches c (.look after) branches close r s
  | _, .look _ true _ => tryBranches c (.lookNot after) branches close r s
  | _, .conditional t => enterConditional c t branches.1 close r s

/-- Enters a node that is a group in front of what is left behind it. -/
def enter (c : Context) (node : Node) (after : Rest) (r : Regs) (s : State) : Step :=
  match node with
  | .group b e branches stops => enterGroup c node b e (branches, stops) after r s
  | _ => .run [node] after r s

/-! ## Ends -/

/-- Notes that a group holds the text from a place to the current one. -/
def Regs.capture (r : Regs) (n entry : Nat) : Regs :=
  { r with captures := r.captures.setIfInBounds n (some (entry, r.pos)) }

/-- Ends the branch of a group: the knowledge and the choices behind it, none if the group does
not match. -/
def leave? (c : Context) (b : Block) (entry depth : Nat) (r : Regs) (s : State) :
    Option (Regs × State) :=
  match b with
  | .plain => some (r, s)
  | .conditional _ => some (r, s)
  | .capture n => some (r.capture n entry, s)
  | .atomic => some (r, s.settle depth)
  | .scriptRun =>
    if c.subject.isScriptRun entry r.pos then some (r, s) else none
  | .look _ false atomic =>
    some ({ r with pos := entry }, if atomic then s.settle depth else s)
  | .look _ true _ => none

/-- What happens at the end of a branch that fails, for a group that was entered with some number
of choices open. -/
def leaveFailed (b : Block) (depth : Nat) (s : State) : Step :=
  match b with
  | .look .. => (s.cut depth).fail
  | _ => s.fail

/-- Repeats a group, or goes on behind it; a turn that did not move is the last one. -/
def goRound (c : Context) (e : Ending) (node : Node) (entry : Nat) (after : Rest) (pos : Nat)
    (r : Regs) (s : State) : Step :=
  match e with
  | .greedy =>
    if pos = entry then .run [] after r s
    else
      match s.refusal? c with
      | some refusal => .stop (.refused refusal) s
      | none =>
        enter c node after r
          { s with choices := .resume after r :: s.choices
                   depth := s.depth + 1, made := s.made + 1 }
  | .lazy =>
    if pos = entry then .run [] after r s
    else s.push c (.resume (.nodes [node] after) r) [] after r
  | _ => .run [] after r s

/-- Whether the whole pattern may match as it does. -/
def counts (c : Context) (r : Regs) : Bool :=
  r.pos ≠ r.start || !(c.setup.notEmpty || (c.setup.notEmptyAtStart && r.start = 0))

/-- Ends the match. -/
def finishAll (c : Context) (r : Regs) (s : State) : Step :=
  if counts c r then .stop (.matched r) s else s.fail

/-- What the caller knows behind a call. -/
def Regs.returnTo (r caller : Regs) : Regs :=
  { caller with pos := r.pos, start := r.start }

/-- Goes on with what is left. -/
def finish (c : Context) (rest : Rest) (r : Regs) (s : State) : Step :=
  match rest with
  | .done => finishAll c r s
  | .nodes ns after => .run ns after r s
  | .close b e node entry depth after =>
    match leave? c b entry depth r s with
    | some (r', s) => goRound c e node entry after r.pos r' s
    | none => leaveFailed b depth s
  | .turn b node entry depth after =>
    match leave? c b entry depth r s with
    | none => s.fail
    | some (r, s) =>
      let s := s.cut depth
      match node with
      | .group _ _ branches stops =>
        if r.pos = entry then .run [] after r s
        else
          tryBranches c (.possessive true after) (branches, stops)
            (.turn b node r.pos s.depth after) r s
      | _ => .run [] after r s
  | .test holds yes no entry depth after =>
    .run (if holds then yes else no) after { entry with captures := r.captures } (s.cut depth)
  | .call n caller depth after =>
    .run [] after (r.returnTo caller) (if n = 0 then s.cut depth else s)

/-! ## Nodes -/

/-- Tries a repeated piece. -/
def repeatPiece (c : Context) (p : Subject.Piece) (q : Quantifier) (rest : Rest) (r : Regs)
    (s : State) : Step :=
  match c.subject.times? p q.least r.pos with
  | none => s.fail
  | some i =>
    let more := q.most.map (· - q.least)
    match q.mode with
    | .lazy =>
      if more = some 0 then .run [] rest { r with pos := i } s
      else s.push c (.extend p more rest { r with pos := i }) [] rest { r with pos := i }
    | mode =>
      match c.subject.upTo p (more.getD (c.subject.size + 1)) i [] with
      | [] => s.fail
      | [i] => .run [] rest { r with pos := i } s
      | i :: places =>
        if mode = .possessive then .run [] rest { r with pos := i } s
        else s.push c (.retry places rest r) [] rest { r with pos := i }

/-- The text of the first of some groups that is set. -/
def captured? (r : Regs) (groups : List Nat) : Option (Nat × Nat) :=
  groups.findSome? fun n => r.captures[n]?.join

/-- Tries a reference; one that is repeated and empty always matches, as does one that may be left
out and is not set. -/
def refer (c : Context) (groups : List Nat) (caseless : Bool) (q : Option Quantifier)
    (rest : Rest) (r : Regs) (s : State) : Step :=
  match captured? r groups, q with
  | none, none => s.fail
  | none, some q => if q.least = 0 then .run [] rest r s else s.fail
  | some (low, high), none =>
    match c.subject.again? caseless low high r.pos with
    | some i => .run [] rest { r with pos := i } s
    | none => s.fail
  | some (low, high), some q =>
    if low = high then .run [] rest r s
    else repeatPiece c (.again caseless low high) q rest r s

/-- Calls a group. -/
def call (c : Context) (n : Nat) (rest : Rest) (r : Regs) (s : State) : Step :=
  if r.called.isSome && rest.calledAt? n = some r.pos then .stop (.refused .endlessCall) s
  else
    tryBranches c (.call n) (c.program.called.getD n ([], []))
      (.call n r s.depth rest) { r with called := some n } s

/-- Ends groups that are open. -/
def closeAll? (rest : Rest) : List Nat → Regs → Option Regs
  | [], r => some r
  | n :: more, r => (rest.entered? n).bind fun entry => closeAll? rest more (r.capture n entry)

/-- Ends the match, or the innermost call, or the lookaround. -/
def accept (c : Context) (closes : List Nat) (inLook : Bool) (rest : Rest) (r : Regs) (s : State) :
    Step :=
  match if r.called.isSome then some r else closeAll? rest closes r with
  | none => .stop (.refused .strayClose) s
  | some r =>
    if inLook then .back (.accept r.captures) none s
    else
      match rest.caller? with
      | some (caller, depth, after) => .run [] after (r.returnTo caller) (s.cut depth)
      | none => finishAll c r s

/-- Takes a node in front of others and of what is left. -/
def forward (c : Context) (node : Node) (ns : List Node) (rest : Rest) (r : Regs) (s : State) :
    Step :=
  match node with
  | .one x =>
    match c.subject.single? r.pos x with
    | some i => .run ns rest { r with pos := i } s
    | none => s.fail
  | .anchor a => if c.subject.holds r.pos a then .run ns rest r s else s.fail
  | .back n =>
    match c.subject.backBy? n r.pos with
    | some i => .run ns rest { r with pos := i } s
    | none => s.fail
  | .matchStart => .run ns rest { r with start := r.pos } s
  | .never _ => .run ns rest r s
  | .fail => s.fail
  | .many x q => repeatPiece c (.single x) q (.before ns rest) r s
  | .reference groups caseless q => refer c groups caseless q (.before ns rest) r s
  | .group b e branches stops => enterGroup c node b e (branches, stops) (.before ns rest) r s
  | .maybe false n => s.push c (.resume (.before ns rest) r) [n] (.before ns rest) r
  | .maybe true n => s.push c (.resume (.before (n :: ns) rest) r) ns rest r
  | .call n => call c n (.before ns rest) r s
  | .mark m => s.push c (.mark m r.pos) ns rest r
  | .commit _ => s.push c (.raise .commit r.called) ns rest r
  | .prune _ => s.push c (.raise .prune r.called) ns rest r
  | .skip => s.push c (.raise (.skip r.pos) r.called) ns rest r
  | .skipTo m =>
    let s := { s with skips := s.skips + 1 }
    if s.skips ≤ c.skipsIgnored then .run ns rest r s
    else s.push c (.raise (.skipTo m) r.called) ns rest r
  | .andThen _ place => s.push c (.raise (.andThen place) r.called) ns rest r
  | .accept closes inLook => accept c closes inLook (.before ns rest) r s

end PatternScan.Pattern.Machine
