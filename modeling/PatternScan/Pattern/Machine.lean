import PatternScan.Pattern.Machine.Back

/-!
# The machine

Runs a program from one start. `step` takes one step of a run, `steps` takes some number of them,
and `run` takes as many as the limits allow.
-/

namespace PatternScan.Pattern.Machine

/-- One step of a run; a run that has stopped stays as it is. -/
def step (c : Context) : Step → Step
  | .run (node :: ns) rest r s => forward c node ns rest r s
  | .run [] rest r s => finish c rest r s
  | .back g called s => backward c g called s
  | .stop v s => .stop v s

/-- Takes some number of steps; a run that has not stopped then made too many choices. -/
def steps (c : Context) : Nat → Step → Verdict × State
  | _, .stop v s => (v, s)
  | 0, .run _ _ _ s => (.refused .tooManyChoices, s)
  | 0, .back _ _ s => (.refused .tooManyChoices, s)
  | n + 1, t => steps c n (step c t)

/-- More steps than a run takes between two choices. -/
def stepsPerChoice : Nat := 0x100000000

/-- Runs the program from a start; the run itself counts as a choice. -/
def run (c : Context) (start : Nat) : Verdict × State :=
  let s := State.initial
  let r : Regs := ⟨start, start, Array.replicate (c.program.groups + 1) none, none⟩
  match s.refusal? c with
  | some refusal => (.refused refusal, s)
  | none =>
    steps c ((c.setup.limits.choices + 1) * stepsPerChoice)
      (tryBranches c .group c.program.main .done r { s with made := 1 })

end PatternScan.Pattern.Machine
