import PatternScan.Proofs.Compilation

/-!
# The level decides what is written and nothing else

Two sessions are given the same commands but set other levels, at other moments. Then no answer
tells them apart, unless it was asked for a level. And if the one is never above the other, its log
is what the other's would have been with the lines left out that are above the level. Three things
live here:

* `State.step_atLevel`, by which a command does the same at any level;
* `State.offers`, `State.levels` and `State.entries`: the messages that commands leave, the levels
  these fall under, and those that are written;
* `State.level_decides_log_only`, which compares two runs by the run in which no level is set.
-/

namespace PatternScan

variable {E : Engine}

/-! ## Messages under a level -/

namespace Log

/-- The messages that are written at a level. -/
def admitted (level : Level) (ms : List Message) : List Message :=
  ms.filter fun m => admits level m.level

/-- What is written at a level is written at any level above it. -/
lemma admitted_admitted {level level' : Level} (h : level ≤ level') (ms : List Message) :
    admitted level (admitted level' ms) = admitted level ms := by
  unfold admitted admits
  rw [List.filter_filter]
  apply List.filter_congr
  intro m _
  by_cases hm : m.level ≤ level
  · simp [hm, UInt32.le_trans hm h]
  · simp [hm]

lemma zipWith_admitted {levels levels' : List Level} (h : List.Forall₂ (· ≤ ·) levels levels')
    (offers : List (List Message)) :
    List.zipWith admitted levels (List.zipWith admitted levels' offers)
      = List.zipWith admitted levels offers := by
  induction h generalizing offers with
  | nil => rfl
  | cons hle _ ih =>
    cases offers with
    | nil => rfl
    | cons ms offers =>
      rw [List.zipWith_cons_cons, List.zipWith_cons_cons, List.zipWith_cons_cons,
        admitted_admitted hle, ih]

/-- The lines of the messages that are written at one level after the other. -/
lemma flatMap_zipWith_admitted (levels : List Level) (entries : List (List Message)) :
    (List.zipWith admitted levels entries).flatten.flatMap Message.line
      = (List.zipWith written levels entries).flatten := by
  induction levels generalizing entries with
  | nil => rfl
  | cons level levels ih =>
    cases entries with
    | nil => rfl
    | cons ms entries =>
      rw [List.zipWith_cons_cons, List.zipWith_cons_cons, List.flatten_cons, List.flatten_cons,
        List.flatMap_append, ih]
      rfl

end Log

namespace Session

namespace Command

/-- Whether the command sets the level. -/
def setsLevel : Command → Bool
  | .setLevel _ => true
  | _ => false

/-- Whether the command sets the level or asks for it. -/
def isAboutLevel : Command → Bool
  | .setLevel _ => true
  | .checkLevel _ => true
  | _ => false

end Command

namespace State

/-! ## States at another level -/

/-- The state with another level in force. -/
def atLevel (s : State E) (level : Log.Level) : State E :=
  { s with level := level }

end State

/-- The step to the state with another level in force. -/
def Step.atLevel (step : Step E) (level : Log.Level) : Step E :=
  { step with state := step.state.atLevel level }

namespace State

variable {s : State E} {c : Command} {level : Log.Level}

lemma withPattern_atLevel {owner : Name} {input : Input}
    {go go' : Handle → Compiled E → View → Step E}
    (hgo : ∀ h p subject, go' h p subject = (go h p subject).atLevel level) :
    (s.atLevel level).withPattern owner input go'
      = (s.withPattern owner input go).atLevel level := by
  have hpattern : (s.atLevel level).registry.pattern? owner = s.registry.pattern? owner := rfl
  have hview : (s.atLevel level).view? input = s.view? input := by
    cases input <;> rfl
  unfold withPattern
  rw [hpattern, hview]
  rcases s.registry.pattern? owner with _ | ⟨h, p⟩
  · rfl
  · dsimp only
    rcases s.view? input with _ | subject
    · rfl
    · exact hgo h p subject

lemma test_atLevel (s : State E) (level : Log.Level) (input : Input) (p : Compiled E)
    (subject : View) :
    (s.atLevel level).test input p subject = (s.test input p subject).atLevel level := by
  unfold test
  rcases p.search 1 subject with failure | m <;> rfl

lemma showCell_atLevel (s : State E) (level : Log.Level) (name : Name) :
    (s.atLevel level).showCell name = (s.showCell name).atLevel level := by
  unfold showCell
  show (s.atLevel level).settle (s.recordOf name >>= fun m => _) = _
  rcases s.recordOf name with b | m <;> rfl

lemma find_atLevel (s : State E) (level : Log.Level) (input : Input) (into : Option Name)
    (p : Compiled E) (subject : View) :
    (s.atLevel level).find input into p subject
      = (s.find input into p subject).atLevel level := by
  unfold find
  rcases p.find subject with failure | m
  · rfl
  · have hsearched : (s.atLevel level).stored.searched input (.ok m)
        = s.stored.searched input (.ok m) := rfl
    dsimp only
    rw [hsearched]
    rcases s.stored.searched input (.ok m) with ⟨store, c⟩
    cases into with
    | some name => exact showCell_atLevel { s with stored := store.keep name c } level name
    | none =>
      -- what is shown of the match is the same at any level
      have hrecord : State.record { s.atLevel level with stored := store } c
          = State.record { s with stored := store } c := rfl
      dsimp only
      rw [hrecord]
      rcases State.record { s with stored := store } c with b | record <;> rfl

lemma showCells_atLevel (s : State E) (level : Log.Level) (source target : Name) :
    (s.atLevel level).showCells source target = (s.showCells source target).atLevel level := by
  unfold showCells
  show (s.atLevel level).settle (s.recordOf source >>= fun m => _) = _
  rcases s.recordOf source with b | m
  · rfl
  · show (s.atLevel level).settle (s.recordOf target >>= fun m' => _) = _
    rcases s.recordOf target with b | m' <;> rfl

lemma advanced_atLevel {name : Name} (hc : c.steps name = true) (s : State E)
    (level : Log.Level) : (s.atLevel level).step c = (s.step c).atLevel level := by
  rcases hscan : s.scans.get? name with _ | scan
  · have hscan' : (s.atLevel level).scans.get? name = none := hscan
    rw [step_eq_advanceNamed hc, step_eq_advanceNamed hc, advanceNamed, advanceNamed, hscan, hscan']
    rfl
  · have hscan' : (s.atLevel level).scans.get? name = some scan := hscan
    by_cases hlive : s.registry.isLive scan.handle = true
    · have hlive' : (s.atLevel level).registry.isLive scan.handle = true := hlive
      rw [step_eq_settle hc hscan hlive, step_eq_settle hc hscan' hlive']
      -- the bytes of the input are those at any level
      show (s.atLevel level).settle ((scan.next c.keeps (s.bytesOf scan)).map _) = _
      rcases scan.next c.keeps (s.bytesOf scan) with b | step <;> rfl
    · have hlive' : ¬(s.atLevel level).registry.isLive scan.handle = true := hlive
      rw [step_eq_advanceNamed hc, step_eq_advanceNamed hc, advanceNamed, advanceNamed, hscan,
        hscan']
      dsimp only
      rw [if_neg hlive, if_neg hlive']
      rfl

/-- A command that is not about the level does the same at any. -/
theorem step_atLevel (s : State E) (level : Log.Level) (hc : c.isAboutLevel = false) :
    (s.atLevel level).step c = (s.step c).atLevel level := by
  cases c with
  | setLevel | checkLevel => cases hc
  | log | logFormatted | compile | inspect | drop | exchange => rfl
  | takeOver source target =>
    rw [step, step]
    split_ifs <;> rfl
  | test owner input =>
    exact withPattern_atLevel fun _ p subject => s.test_atLevel level input p subject
  | find owner input into =>
    exact withPattern_atLevel fun _ p subject => s.find_atLevel level input into p subject
  | openWhole name owner input => exact withPattern_atLevel fun _ _ _ => rfl
  | openGroup name owner input => exact withPattern_atLevel fun _ _ _ => rfl
  | showMatch name => exact s.showCell_atLevel level name
  | takeOverMatch source target =>
    rw [step, step]
    split_ifs
    · rfl
    · exact showCells_atLevel { s with stored := s.stored.takeOver source target } level _ _
  | exchangeMatch source target =>
    exact showCells_atLevel { s with stored := s.stored.exchange source target } level _ _
  | createBuffer name text =>
    have hbuffer : (s.atLevel level).buffers.get? name = s.buffers.get? name := rfl
    rw [step, step, hbuffer]
    rcases s.buffers.get? name with _ | old <;> rfl
  | overwrite name offset text =>
    have hbuffer : (s.atLevel level).buffers.get? name = s.buffers.get? name := rfl
    rw [step, step, hbuffer]
    rcases s.buffers.get? name with _ | old
    · rfl
    · dsimp only
      split_ifs <;> rfl
  | next name =>
    have hsteps : (Command.next name).steps name = true := beq_self_eq_true name
    exact advanced_atLevel hsteps s level
  | nextText name =>
    have hsteps : (Command.nextText name).steps name = true := beq_self_eq_true name
    exact advanced_atLevel hsteps s level
  | position name =>
    have hscan : (s.atLevel level).scans.get? name = s.scans.get? name := rfl
    rw [step, step, hscan]
    rcases s.scans.get? name with _ | scan <;> rfl
  | reread name =>
    have hscan : (s.atLevel level).scans.get? name = s.scans.get? name := rfl
    rw [step, step, hscan]
    rcases s.scans.get? name with _ | scan <;> rfl

lemma step_atLevel_state (s : State E) (level : Log.Level) (hc : c.setsLevel = false) :
    ((s.atLevel level).step c).state = (s.step c).state.atLevel level := by
  by_cases habout : c.isAboutLevel = false
  · rw [step_atLevel s level habout]
    rfl
  · -- to ask for the level changes nothing
    cases c <;> first | rfl | exact absurd rfl habout | cases hc

lemma step_atLevel_messages (s : State E) (level : Log.Level) (hc : c.setsLevel = false) :
    ((s.atLevel level).step c).messages = (s.step c).messages := by
  by_cases habout : c.isAboutLevel = false
  · rw [step_atLevel s level habout]
    rfl
  · cases c <;> first | rfl | exact absurd rfl habout

/-! ## Runs and what is seen of them -/

section
variable {α β γ : Type}

/-- What is seen of a run at each command that sets no level. -/
def track (look : State E → Command → α) (s : State E) : List Command → List α
  | [] => []
  | c :: cs =>
    if c.setsLevel then (s.step c).state.track look cs
    else look s c :: (s.step c).state.track look cs

/-- The level in force at each of these commands. -/
def levels (s : State E) (cs : List Command) : List Log.Level :=
  s.track (fun s _ => s.level) cs

/-- The messages that each of them leaves, whether they are written or not. -/
def offers (s : State E) (cs : List Command) : List (List Log.Message) :=
  s.track (fun s c => (s.step c).messages) cs

/-- The messages of each of them that are written. -/
def entries (s : State E) (cs : List Command) : List (List Log.Message) :=
  s.track (fun s c => Log.admitted s.level (s.step c).messages) cs

lemma track_cons_of_pos {look : State E → Command → α} {cs : List Command}
    (hc : c.setsLevel = true) : s.track look (c :: cs) = (s.step c).state.track look cs :=
  if_pos hc

lemma track_cons_of_neg {look : State E → Command → α} {cs : List Command}
    (hc : c.setsLevel = false) :
    s.track look (c :: cs) = look s c :: (s.step c).state.track look cs :=
  if_neg (by rw [hc]; exact Bool.false_ne_true)

/-- A sight that is put together from two. -/
lemma track_zipWith (f : α → β → γ) (look : State E → Command → α) (look' : State E → Command → β)
    (s : State E) (cs : List Command) :
    s.track (fun s c => f (look s c) (look' s c)) cs
      = List.zipWith f (s.track look cs) (s.track look' cs) := by
  induction cs generalizing s with
  | nil => rfl
  | cons c cs ih =>
    by_cases hc : c.setsLevel = true
    · rw [track_cons_of_pos hc, track_cons_of_pos hc, track_cons_of_pos hc, ih]
    · have hnot : c.setsLevel = false := eq_false_of_ne_true hc
      rw [track_cons_of_neg hnot, track_cons_of_neg hnot, track_cons_of_neg hnot, ih,
        List.zipWith_cons_cons]

/-- What is the same at any level is seen as if no level were set. -/
lemma track_atLevel {look : State E → Command → α}
    (hlook : ∀ s level c, c.setsLevel = false → look (State.atLevel s level) c = look s c)
    (s : State E) (level : Log.Level) (cs : List Command) :
    (s.atLevel level).track look cs = s.track look (cs.filter (!·.setsLevel)) := by
  induction cs generalizing s level with
  | nil => rfl
  | cons c cs ih =>
    by_cases hc : c.setsLevel = true
    · rw [List.filter_cons_of_neg (by simp [hc]), track_cons_of_pos hc]
      cases c with
      | setLevel other => exact ih s other
      | _ => cases hc
    · have hnot : c.setsLevel = false := eq_false_of_ne_true hc
      rw [List.filter_cons_of_pos (by simp [hnot]), track_cons_of_neg hnot, track_cons_of_neg hnot,
        hlook s level c hnot, step_atLevel_state s level hnot, ih]

end

/-- The log is the lines of the entries: to set a level leaves no message. -/
lemma runLogged_eq_entries (s : State E) (cs : List Command) :
    s.runLogged cs = (s.entries cs).flatten.flatMap Log.Message.line := by
  induction cs generalizing s with
  | nil => rfl
  | cons c cs ih =>
    rw [runLogged, ih]
    by_cases hc : c.setsLevel = true
    · rw [entries, entries, track_cons_of_pos hc]
      cases c with
      | setLevel other => rfl
      | _ => cases hc
    · rw [entries, entries, track_cons_of_neg (eq_false_of_ne_true hc), List.flatten_cons,
        List.flatMap_append]
      rfl

/-- The answers that are not about the level and the state at last are as if no level were set. -/
lemma run_atLevel (s : State E) (level : Log.Level) (cs : List Command) :
    (s.atLevel level).answersTo (!·.isAboutLevel) cs
        = s.answersTo (!·.isAboutLevel) (cs.filter (!·.setsLevel)) ∧
      ∀ last, ((s.atLevel level).run cs).2.atLevel last
        = (s.run (cs.filter (!·.setsLevel))).2.atLevel last := by
  induction cs generalizing s level with
  | nil => exact ⟨rfl, fun _ => rfl⟩
  | cons c cs ih =>
    by_cases hc : c.setsLevel = true
    · rw [List.filter_cons_of_neg (by simp [hc]), run_cons]
      cases c with
      | setLevel other =>
        rw [answersTo_cons_of_neg rfl]
        exact ih s other
      | _ => cases hc
    · have hnot : c.setsLevel = false := eq_false_of_ne_true hc
      obtain ⟨hanswers, hstate⟩ := ih (s.step c).state level
      rw [List.filter_cons_of_pos (by simp [hnot]), run_cons, run_cons]
      dsimp only
      rw [step_atLevel_state s level hnot]
      refine ⟨?_, hstate⟩
      by_cases habout : c.isAboutLevel = true
      · rw [answersTo_cons_of_neg (by simp [habout]), answersTo_cons_of_neg (by simp [habout]),
          step_atLevel_state s level hnot, hanswers]
      · have hfree : c.isAboutLevel = false := eq_false_of_ne_true habout
        rw [answersTo_cons_of_pos (by simp [hfree]), answersTo_cons_of_pos (by simp [hfree]),
          step_atLevel s level hfree]
        show (s.step c).answer :: ((s.step c).state.atLevel level).answersTo _ cs = _
        rw [hanswers]

/-- The entries are what the levels let through of the messages. -/
lemma entries_eq_zipWith (s : State E) (cs : List Command) :
    s.entries cs = List.zipWith Log.admitted (s.levels cs) (s.offers cs) :=
  track_zipWith Log.admitted (fun s _ => s.level) (fun s c => (s.step c).messages) s cs

/-- Two runs from one state with the same commands, but for those that set the level. Every answer
is the same, unless the level was asked for, and so is the state at last, but for the level. The log
of each is the lines of its entries; and if the level of the one is never above that of the other,
its entries are those of the other that its own level lets through at that moment, so that its log
is the lines of these, one after the other. -/
theorem level_decides_log_only (s : State E) {cs ds : List Command}
    (hsame : cs.filter (!·.setsLevel) = ds.filter (!·.setsLevel)) :
    s.answersTo (!·.isAboutLevel) cs = s.answersTo (!·.isAboutLevel) ds ∧
    ({ (s.run cs).2 with level := (s.run ds).2.level } : State E) = (s.run ds).2 ∧
    s.runLogged ds = (s.entries ds).flatten.flatMap Log.Message.line ∧
    (List.Forall₂ (· ≤ ·) (s.levels cs) (s.levels ds) →
      s.entries cs = List.zipWith Log.admitted (s.levels cs) (s.entries ds) ∧
      s.runLogged cs = (List.zipWith Log.written (s.levels cs) (s.entries ds)).flatten) := by
  -- both runs are compared with the one in which no level is set
  obtain ⟨hanswers, hstate⟩ := s.run_atLevel s.level cs
  obtain ⟨hanswers', hstate'⟩ := s.run_atLevel s.level ds
  have hoffers : s.offers cs = s.offers ds :=
    calc s.offers cs
        = s.offers (cs.filter (!·.setsLevel)) :=
          track_atLevel (fun s level c hc => step_atLevel_messages s level hc) s s.level cs
      _ = s.offers (ds.filter (!·.setsLevel)) := by rw [hsame]
      _ = s.offers ds :=
          (track_atLevel (fun s level c hc => step_atLevel_messages s level hc) s s.level ds).symm
  refine ⟨?_, ?_, s.runLogged_eq_entries ds, fun hle => ?_⟩
  · calc s.answersTo (!·.isAboutLevel) cs
        = s.answersTo (!·.isAboutLevel) (cs.filter (!·.setsLevel)) := hanswers
      _ = s.answersTo (!·.isAboutLevel) (ds.filter (!·.setsLevel)) := by rw [hsame]
      _ = s.answersTo (!·.isAboutLevel) ds := hanswers'.symm
  · calc (s.run cs).2.atLevel (s.run ds).2.level
        = (s.run (cs.filter (!·.setsLevel))).2.atLevel (s.run ds).2.level := hstate _
      _ = (s.run (ds.filter (!·.setsLevel))).2.atLevel (s.run ds).2.level := by rw [hsame]
      _ = (s.run ds).2.atLevel (s.run ds).2.level := (hstate' _).symm
  · have hentries : s.entries cs = List.zipWith Log.admitted (s.levels cs) (s.entries ds) := by
      rw [s.entries_eq_zipWith cs, s.entries_eq_zipWith ds, Log.zipWith_admitted hle, hoffers]
    refine ⟨hentries, ?_⟩
    rw [runLogged_eq_entries, hentries, Log.flatMap_zipWith_admitted]

/-- An empty match and two lines of the user are logged at level 6 at most in the one run, and at
levels 4, 6 and 2 in the other, which leaves out two of the four lines. -/
theorem level_decides_log_only_at_two_levels :
    let cs : List Command := [.setLevel 4, .compile [1] (Bytes.ascii "(x)*") {}, .setLevel 6,
      .openGroup [7] [1] (.text (Bytes.ascii "a")), .next [7], .setLevel 2,
      .log 2 (Bytes.ascii "d") (Bytes.ascii "m"), .log 3 [] (Bytes.ascii "n"), .checkLevel 3]
    let ds : List Command := [.setLevel 6, .compile [1] (Bytes.ascii "(x)*") {},
      .openGroup [7] [1] (.text (Bytes.ascii "a")), .next [7],
      .log 2 (Bytes.ascii "d") (Bytes.ascii "m"), .log 3 [] (Bytes.ascii "n"), .checkLevel 3]
    let s : State sample := {}
    cs.filter (!·.setsLevel) = ds.filter (!·.setsLevel) ∧
    s.answersTo (!·.isAboutLevel) cs
      = [.owner ⟨some 0, 1⟩ none, .position 0 false, .stepped .nothing 1 true, .done, .done] ∧
    s.answersTo Command.isAboutLevel ds = [.done, .flag true] ∧
    s.answersTo Command.isAboutLevel cs = [.done, .done, .done, .flag false] ∧
    s.runLogged ds = (s.entries ds).flatten.flatMap Log.Message.line ∧
    (s.levels cs = [4, 6, 6, 2, 2, 2] ∧ s.levels ds = [6, 6, 6, 6, 6, 6] ∧
      List.Forall₂ (· ≤ ·) (s.levels cs) (s.levels ds)) ∧
    s.runLogged cs = Bytes.ascii "[pcre/group_stream] empty match at offset 0\n[d] m\n" := by
  intro cs ds s
  have hsame : cs.filter (!·.setsLevel) = ds.filter (!·.setsLevel) := rfl
  have hlevels : s.levels cs = [4, 6, 6, 2, 2, 2] := rfl
  have hlevels' : s.levels ds = [6, 6, 6, 6, 6, 6] := rfl
  have hle : List.Forall₂ (· ≤ ·) (s.levels cs) (s.levels ds) := by
    rw [hlevels, hlevels']
    decide
  obtain ⟨hanswers, -, hlogged, hentries⟩ := s.level_decides_log_only hsame
  refine ⟨hsame, ?_, rfl, rfl, hlogged, ⟨hlevels, hlevels', hle⟩, ?_⟩
  · rw [hanswers]
    rfl
  · rw [(hentries hle).2]
    decide

end State

end Session

end PatternScan
