import PatternScan.Session
import Mathlib.Tactic.Common

/-!
# What a command can do to a state

`Effect` says for each command which part of the state it can change, and how; `step_effect` says
that no command does anything else. What a run keeps follows from what each effect keeps
(`run_preserves`).

The commands are sorted by what they are about: those that open a scan, those that carry out a step
of it, those that ask about it, those that overwrite what it reads, and those that make an owner
give up its handle.
-/

namespace PatternScan

/-- A pattern that is compiled has as many groups as the engine says. -/
lemma Engine.compiled_eq_ok {E : Engine} {pattern : Bytes} {mask : UInt32} {p : Compiled E}
    (h : E.compiled pattern mask = .ok p) : ∃ code, p = .ofCode code := by
  unfold Engine.compiled at h
  split at h
  · cases h
  · split at h
    · cases h
    · cases h
      exact ⟨_, rfl⟩

/-- A list of results, with that of an outcome behind them if it has one. -/
def Scan.Outcome.addTo {α : Type} (kept : List α) : Scan.Outcome α → List α
  | .found a => kept ++ [a]
  | .nothing => kept
  | .failed _ => kept

namespace Session

variable {E : Engine}

/-! ## What commands are about -/

namespace Command

/-- Whether the command opens a scan under a name, in place of the one that had it. -/
def opens (scan : Name) : Command → Bool
  | .openWhole name _ _ => name == scan
  | .openGroup name _ _ => name == scan
  | _ => false

/-- Whether the command carries out a step of the scan of a name. -/
def steps (scan : Name) : Command → Bool
  | .next name => name == scan
  | .nextText name => name == scan
  | _ => false

/-- Whether the command carries out a step of the scan of a name or asks what it told so far. -/
def concerns (scan : Name) : Command → Bool
  | .next name => name == scan
  | .nextText name => name == scan
  | .position name => name == scan
  | .reread name => name == scan
  | _ => false

/-- Whether the command steps a scan, asks about one, or overwrites a buffer. -/
def isScanWork : Command → Bool
  | .overwrite _ _ _ => true
  | .next _ => true
  | .nextText _ => true
  | .position _ => true
  | .reread _ => true
  | _ => false

/-- Whether the command writes into the buffer that an input, if there is one, stands for. -/
def overwrites (input : Option Input) : Command → Bool
  | .overwrite buffer _ _ => input == some (.buffer buffer)
  | _ => false

/-- Whether the command makes the owner of a name give up its handle for good: the owner is dropped,
is dropped to be made anew, or has another pattern compiled. -/
def GivesUp (E : Engine) (owner : Name) : Command → Prop
  | .compile name pattern options => name = owner ∧ ∃ p, E.compiled pattern options.mask = .ok p
  | .drop name => name = owner
  | .takeOver source target => target = owner ∧ source ≠ target
  | _ => False

/-- Whether a result of the step is remembered. -/
def keeps : Command → Bool
  | .nextText _ => false
  | _ => true

lemma not_givesUp_of_opens {scan : Name} {c : Command} (h : c.opens scan = true) (owner : Name) :
    ¬c.GivesUp E owner := by
  cases c <;> first | exact id | exact absurd h Bool.false_ne_true

lemma not_givesUp_of_steps {scan : Name} {c : Command} (h : c.steps scan = true) (owner : Name) :
    ¬c.GivesUp E owner := by
  cases c <;> first | exact id | exact absurd h Bool.false_ne_true

lemma concerns_of_steps {scan : Name} {c : Command} (h : c.steps scan = true) :
    c.concerns scan = true := by
  cases c <;> first | exact h | exact absurd h Bool.false_ne_true

lemma isScanWork_of_concerns {scan : Name} {c : Command} (h : c.concerns scan = true) :
    c.isScanWork = true := by
  cases c <;> first | rfl | cases h

lemma opens_of_isScanWork {c : Command} (h : c.isScanWork = true) (scan : Name) :
    c.opens scan = false := by
  cases c <;> first | rfl | cases h

end Command

/-! ## Steps of open scans -/

namespace OpenScan

/-- The input that the scan reads at each step; one for whole matches has a text of its own. -/
def input? : OpenScan E → Option Input
  | .whole _ _ _ => none
  | .group _ _ input _ => some input

/-- One step of the scan while its input reads `bytes`, with what is told of its result; the result
of a scan for whole matches is remembered if `keep` says so. -/
def next (keep : Bool) (bytes : Bytes) :
    OpenScan E → Except Breach (Scan.Step (OpenScan E) Finding)
  | .whole h scan kept => do
    let step ← scan.next
    let tell := fun span =>
      if keep then Finding.span (step.scan.read span) else .text (step.scan.read span).text
    return ⟨step.outcome.map tell,
      .whole h step.scan (if keep then step.outcome.addTo kept else kept), step.messages⟩
  | .group h scan input kept => do
    let step ← scan.next bytes
    return ⟨step.outcome.map fun r => .record (Record.read r bytes),
      .group h step.scan input (step.outcome.addTo kept), step.messages⟩

/-- A step keeps the handle and the input. -/
lemma next_scan {keep : Bool} {bytes : Bytes} {scan : OpenScan E}
    {step : Scan.Step (OpenScan E) Finding} (h : scan.next keep bytes = .ok step) :
    step.scan.handle = scan.handle ∧ step.scan.input? = scan.input? := by
  cases scan with
  | whole handle scan kept =>
    rw [next] at h
    rcases hnext : scan.next with b | step'
    · rw [hnext] at h
      cases h
    · rw [hnext] at h
      cases h
      exact ⟨rfl, rfl⟩
  | group handle scan input kept =>
    rw [next] at h
    rcases hnext : scan.next bytes with b | step'
    · rw [hnext] at h
      cases h
    · rw [hnext] at h
      cases h
      exact ⟨rfl, rfl⟩

end OpenScan

/-- The answer that tells of a step of a scan. -/
def Answer.ofStep (step : Scan.Step (OpenScan E) Finding) : Answer :=
  .stepped step.outcome step.scan.position step.scan.isExhausted

/-! ## Effects -/

namespace State

/-- What a command can do to a state. -/
inductive Effect (s : State E) : Command → State E → Prop
  | none {c : Command} (keeps : ∀ owner, ¬c.GivesUp E owner) : Effect s c s
  | level (level : Log.Level) : Effect s (.setLevel level) { s with level := level }
  | compiled {owner : Name} {pattern : Bytes} {options : Options} {code : E.Code}
      (accepted : E.compiled pattern options.mask = .ok (.ofCode code)) :
      Effect s (.compile owner pattern options)
        { s with registry := s.registry.issue owner (.ofCode code) }
  | dropped (owner : Name) : Effect s (.drop owner) { s with registry := s.registry.drop owner }
  | tookOver {source target : Name} (ne : source ≠ target) :
      Effect s (.takeOver source target)
        { s with registry := s.registry.takeOver source target }
  | exchanged (source target : Name) :
      Effect s (.exchange source target)
        { s with registry := s.registry.exchange source target }
  | stored {c : Command} (keeps : ∀ owner, ¬c.GivesUp E owner) (store : MatchStore Input) :
      Effect s c { s with stored := store }
  | created {buffer : Name} {text : Bytes} (absent : s.buffers.get? buffer = Option.none) :
      Effect s (.createBuffer buffer text) { s with buffers := s.buffers.put buffer text }
  | overwritten {buffer : Name} {offset : UInt64} {text old : Bytes}
      (found : s.buffers.get? buffer = some old)
      (inside : offset.toNat + text.length ≤ old.length) :
      Effect s (.overwrite buffer offset text)
        { s with buffers := s.buffers.put buffer (old.overwrite offset.toNat text) }
  | opened {c : Command} {name : Name} (opens : c.opens name = true) (scan : OpenScan E) :
      Effect s c (s.setScan name scan)
  | advanced {c : Command} {name : Name} (steps : c.steps name = true) (scan : OpenScan E) :
      Effect s c (s.setScan name scan)

variable {s : State E}

/-- A buffer is handed over as it is. -/
lemma view?_buffer {buffer : Name} {text : Bytes} (h : s.buffers.get? buffer = some text) :
    s.view? (.buffer buffer) = some text :=
  congrArg (Option.map View.bytes) h

@[simp]
lemma read?_buffer (s : State E) (buffer : Name) :
    s.read? (.buffer buffer) = s.buffers.get? buffer := by
  show ((s.buffers.get? buffer).map View.bytes).map View.text = _
  rw [Option.map_map]
  exact congrFun Option.map_id _

lemma read?_of_view? {input : Input} {subject : View} (h : s.view? input = some subject) :
    s.read? input = some subject.text :=
  congrArg (Option.map View.text) h

/-- A command that needs a pattern and an input is refused or goes on with both. -/
lemma withPattern_cases (s : State E) (owner : Name) (input : Input)
    (go : Handle → Compiled E → View → Step E) :
    (∃ r, s.withPattern owner input go = s.refuse r) ∨
      ∃ h p subject, s.registry.pattern? owner = some (h, p) ∧ s.view? input = some subject ∧
        s.withPattern owner input go = go h p subject := by
  unfold withPattern
  rcases hp : s.registry.pattern? owner with _ | ⟨h, p⟩
  · exact .inl ⟨_, rfl⟩
  · rcases hi : s.view? input with _ | subject
    · exact .inl ⟨_, rfl⟩
    · exact .inr ⟨h, p, subject, rfl, rfl, rfl⟩

lemma test_state (s : State E) (input : Input) (p : Compiled E) (subject : View) :
    ∃ store, (s.test input p subject).state = { s with stored := store } := by
  unfold test
  rcases p.search 1 subject with f | m
  · exact ⟨_, rfl⟩
  · exact ⟨_, rfl⟩

lemma showCell_state (s : State E) (name : Name) : (s.showCell name).state = s := by
  unfold showCell
  rcases s.recordOf name with b | m <;> rfl

lemma find_state (s : State E) (input : Input) (into : Option Name) (p : Compiled E)
    (subject : View) :
    ∃ store, (s.find input into p subject).state = { s with stored := store } := by
  unfold find
  rcases p.find subject with f | m
  · exact ⟨_, rfl⟩
  · cases into with
    | some name => exact ⟨_, showCell_state _ name⟩
    | none =>
      -- the match is given back whether or not it could be shown
      dsimp only
      rcases State.record _ _ with b | record <;> exact ⟨_, rfl⟩

lemma showCells_state (s : State E) (source target : Name) :
    (s.showCells source target).state = s := by
  unfold showCells
  rcases s.recordOf source with b | m
  · rfl
  · rcases s.recordOf target with b | m'
    · rfl
    · rfl

/-- The bytes that a scan reads of its input at this moment. -/
def bytesOf (s : State E) (scan : OpenScan E) : Bytes :=
  (scan.input?.bind s.read?).getD []

/-- The step of a scan is decided by the scan and by the bytes of its input. -/
lemma advance_eq (s : State E) (name : Name) (keep : Bool) (scan : OpenScan E) :
    s.advance name keep scan = (scan.next keep (s.bytesOf scan)).map fun step =>
      ⟨s.setScan name step.scan, .ofStep step, step.messages⟩ := by
  cases scan with
  | whole handle scan kept =>
    show (scan.next >>= _) = (scan.next >>= _).map _
    rcases scan.next with b | ⟨outcome, scan', messages⟩
    · rfl
    · cases outcome <;> cases keep <;> rfl
  | group handle scan input kept =>
    show (scan.next ((s.read? input).getD []) >>= _)
      = (scan.next ((s.read? input).getD []) >>= _).map _
    rcases scan.next ((s.read? input).getD []) with b | ⟨outcome, scan', messages⟩
    · rfl
    · cases outcome <;> rfl

lemma step_compile_of_error (s : State E) {owner : Name} {pattern : Bytes} {options : Options}
    {rejection : Rejection} (h : E.compiled pattern options.mask = .error rejection) :
    s.step (.compile owner pattern options)
      = ⟨s, .owner (s.registry.owner owner) (some rejection), []⟩ := by
  rw [step, Registry.compile, h]

lemma step_compile_of_ok (s : State E) {owner : Name} {pattern : Bytes} {options : Options}
    {p : Compiled E} (h : E.compiled pattern options.mask = .ok p) :
    s.step (.compile owner pattern options)
      = ⟨{ s with registry := s.registry.issue owner p },
          .owner ((s.registry.issue owner p).owner owner) none,
          [Registry.compiledMessage pattern p.groups]⟩ := by
  rw [step, Registry.compile, h]

lemma step_compile_state (s : State E) {owner : Name} {pattern : Bytes} {options : Options}
    {p : Compiled E} (h : E.compiled pattern options.mask = .ok p) :
    (s.step (.compile owner pattern options)).state
      = { s with registry := s.registry.issue owner p } := by
  rw [step_compile_of_ok s h]

lemma step_takeOver_state (s : State E) {source target : Name} (h : source ≠ target) :
    (s.step (.takeOver source target)).state
      = { s with registry := s.registry.takeOver source target } := by
  rw [step, if_neg h]

variable {c : Command} {name : Name}

lemma step_eq_advanceNamed (hc : c.steps name = true) (s : State E) :
    s.step c = s.advanceNamed name c.keeps := by
  cases c <;> simp only [Command.steps, beq_iff_eq, Bool.false_eq_true] at hc
  all_goals subst hc; rfl

/-- A step of a scan with a live handle. -/
lemma step_eq_settle (hc : c.steps name = true) {scan : OpenScan E}
    (hscan : s.scans.get? name = some scan) (hlive : s.registry.isLive scan.handle = true) :
    s.step c = s.settle ((scan.next c.keeps (s.bytesOf scan)).map fun step =>
      ⟨s.setScan name step.scan, .ofStep step, step.messages⟩) := by
  rw [step_eq_advanceNamed hc, advanceNamed, hscan]
  dsimp only
  rw [if_pos hlive, advance_eq]

/-- A step of a scan is refused or goes on with a live handle. -/
lemma steps_cases (hc : c.steps name = true) (s : State E) :
    (∃ r, s.step c = s.refuse r) ∨
      ∃ scan, s.scans.get? name = some scan ∧
        s.step c = s.settle ((scan.next c.keeps (s.bytesOf scan)).map fun step =>
          ⟨s.setScan name step.scan, .ofStep step, step.messages⟩) := by
  rcases hscan : s.scans.get? name with _ | scan
  · refine .inl ⟨.unknownScan, ?_⟩
    rw [step_eq_advanceNamed hc, advanceNamed, hscan]
  · by_cases hlive : s.registry.isLive scan.handle = true
    · exact .inr ⟨scan, rfl, step_eq_settle hc hscan hlive⟩
    · refine .inl ⟨.danglingPattern, ?_⟩
      rw [step_eq_advanceNamed hc, advanceNamed, hscan]
      exact if_neg hlive

lemma advanced_effect (hc : c.steps name = true) (s : State E) :
    Effect s c (s.step c).state := by
  have hkeeps : ∀ owner, ¬c.GivesUp E owner := Command.not_givesUp_of_steps hc
  rcases steps_cases hc s with ⟨r, hrefused⟩ | ⟨scan, -, hsettled⟩
  · rw [hrefused]
    exact .none hkeeps
  · rw [hsettled]
    rcases scan.next c.keeps (s.bytesOf scan) with b | step
    · exact .none hkeeps
    · exact .advanced hc step.scan

/-- No command does anything else. -/
theorem step_effect (s : State E) (c : Command) : Effect s c (s.step c).state := by
  cases c with
  | setLevel level => exact .level level
  | checkLevel level => exact .none fun _ h => h
  | log level domain text => exact .none fun _ h => h
  | logFormatted level domain text => exact .none fun _ h => h
  | compile owner pattern options =>
    rcases hp : E.compiled pattern options.mask with rejection | p
    · -- the owner keeps its handle if the pattern is rejected
      rw [step_compile_of_error s hp]
      refine .none fun name h => ?_
      obtain ⟨p, hp'⟩ := h.2
      rw [hp] at hp'
      cases hp'
    · obtain ⟨code, rfl⟩ := Engine.compiled_eq_ok hp
      rw [step_compile_state s hp]
      exact .compiled hp
  | inspect owner => exact .none fun _ h => h
  | drop owner => exact .dropped owner
  | takeOver source target =>
    by_cases hne : source = target
    · have hstate : (s.step (.takeOver source target)).state = s := by
        rw [step, if_pos hne]
        rfl
      rw [hstate]
      exact .none fun _ h => h.2 hne
    · rw [step_takeOver_state s hne]
      exact .tookOver hne
  | exchange source target => exact .exchanged source target
  | test owner input =>
    rcases withPattern_cases s owner input fun _ p subject => s.test input p subject with
      ⟨r, hr⟩ | ⟨_, p, subject, -, -, hgo⟩
    · rw [step, hr]
      exact .none fun _ h => h
    · obtain ⟨store, hstore⟩ := test_state s input p subject
      rw [step, hgo, hstore]
      refine .stored (fun _ h => ?_) store
      exact h
  | find owner input into =>
    rcases withPattern_cases s owner input fun _ p subject => s.find input into p subject with
      ⟨r, hr⟩ | ⟨_, p, subject, -, -, hgo⟩
    · rw [step, hr]
      exact .none fun _ h => h
    · obtain ⟨store, hstore⟩ := find_state s input into p subject
      rw [step, hgo, hstore]
      refine .stored (fun _ h => ?_) store
      exact h
  | showMatch cell =>
    rw [step, showCell_state]
    exact .none fun _ h => h
  | takeOverMatch source target =>
    by_cases hne : source = target
    · have hstate : (s.step (.takeOverMatch source target)).state = s := by
        rw [step, if_pos hne]
        rfl
      rw [hstate]
      exact .none fun _ h => h
    · rw [step, if_neg hne, showCells_state]
      refine .stored (fun _ h => ?_) _
      exact h
  | exchangeMatch source target =>
    rw [step, showCells_state]
    refine .stored (fun _ h => ?_) _
    exact h
  | createBuffer buffer text =>
    rcases hbuffer : s.buffers.get? buffer with _ | old
    · rw [step, hbuffer]
      exact .created hbuffer
    · rw [step, hbuffer]
      exact .none fun _ h => h
  | overwrite buffer offset text =>
    rcases hbuffer : s.buffers.get? buffer with _ | old
    · rw [step, hbuffer]
      exact .none fun _ h => h
    · rw [step, hbuffer]
      dsimp only
      by_cases hinside : offset.toNat + text.length ≤ old.length
      · rw [if_pos hinside]
        exact .overwritten hbuffer hinside
      · rw [if_neg hinside]
        exact .none fun _ h => h
  | openWhole scan owner input =>
    rcases withPattern_cases s owner input fun h p subject =>
      s.openScan scan (.whole h (.ofText p subject) []) with ⟨r, hr⟩ | ⟨h, p, subject, -, -, hgo⟩
    · rw [step, hr]
      exact .none fun _ h => h
    · rw [step, hgo]
      exact .opened (by simp [Command.opens]) _
  | openGroup scan owner input =>
    rcases withPattern_cases s owner input fun h p subject =>
      s.openScan scan (.group h (.ofBuffer p subject) input []) with
      ⟨r, hr⟩ | ⟨h, p, subject, -, -, hgo⟩
    · rw [step, hr]
      exact .none fun _ h => h
    · rw [step, hgo]
      exact .opened (by simp [Command.opens]) _
  | next scan =>
    have hsteps : (Command.next scan).steps scan = true := beq_self_eq_true scan
    exact advanced_effect hsteps s
  | nextText scan =>
    have hsteps : (Command.nextText scan).steps scan = true := beq_self_eq_true scan
    exact advanced_effect hsteps s
  | position scan =>
    have hstate : (s.step (.position scan)).state = s := by
      rw [step]
      rcases s.scans.get? scan with _ | scan <;> rfl
    rw [hstate]
    exact .none fun _ h => h
  | reread scan =>
    have hstate : (s.step (.reread scan)).state = s := by
      rw [step]
      rcases s.scans.get? scan with _ | scan <;> rfl
    rw [hstate]
    exact .none fun _ h => h

/-! ## Runs -/

lemma run_cons (s : State E) (c : Command) (cs : List Command) :
    s.run (c :: cs) = ((s.step c).answer :: ((s.step c).state.run cs).1,
      ((s.step c).state.run cs).2) := rfl

/-- What each of its commands keeps, a run keeps. -/
lemma run_preserves {P : State E → Prop} {cs : List Command} (hs : P s)
    (hstep : ∀ s, P s → ∀ c ∈ cs, P (s.step c).state) : P (s.run cs).2 := by
  induction cs generalizing s with
  | nil => exact hs
  | cons c cs ih =>
    have hnext : P (s.step c).state := hstep s hs c List.mem_cons_self
    exact ih hnext fun s hs d hd => hstep s hs d (List.mem_cons_of_mem c hd)

end State

end Session

end PatternScan
