import PatternScan.Proofs.Ownership

/-!
# Scans do not disturb each other

What a step of a scan does depends on the scan and on the bytes of its input, and no command about
anything else touches these. So the answers to the steps of one scan are the same in whatever other
commands they are embedded, as long as nobody frees the scan's pattern, overwrites the buffer it
reads, or opens another scan under its name. Three things live here:

* `State.answersTo`, the answers of a run to some of its commands;
* `State.Spared`, what the other commands must not do, and until when;
* `State.answersTo_eq_run`, which compares a run with the run of these commands alone.
-/

namespace PatternScan

variable {E : Engine}

namespace Registry

lemma isLive_iff {r : Registry E} {h : Handle} : r.isLive h = true ↔ h ∉ r.freed := by
  simp [isLive]

end Registry

namespace Session

namespace State

variable {s t : State E} {c : Command} {name : Name} {scan : OpenScan E} {h : Handle}

/-! ## What other commands leave alone -/

namespace Effect

variable {s' : State E}

lemma isLive_of_isLive (heffect : Effect s c s') (hlive : s'.registry.isLive h = true) :
    s.registry.isLive h = true := by
  rw [Registry.isLive_iff] at hlive ⊢
  exact fun hmem => hlive (heffect.mem_freed_iff.mpr (.inr hmem))

lemma registry_eq (heffect : Effect s c s') (hc : c.isScanWork = true) :
    s'.registry = s.registry := by
  cases heffect with
  | none | level | stored | created | overwritten | opened | advanced => rfl
  | compiled | dropped | tookOver | exchanged => cases hc

lemma scan_eq (heffect : Effect s c s') (hopens : c.opens name = false)
    (hsteps : c.steps name = false) : s'.scans.get? name = s.scans.get? name := by
  cases heffect with
  | @opened c other opens scan =>
    refine Shelf.get?_put_of_ne _ (fun hother => ?_) scan
    rw [hother, opens] at hopens
    cases hopens
  | @advanced c other steps scan =>
    refine Shelf.get?_put_of_ne _ (fun hother => ?_) scan
    rw [hother, steps] at hsteps
    cases hsteps
  | none | level | compiled | dropped | tookOver | exchanged | stored | created | overwritten =>
    rfl

lemma buffer_eq (heffect : Effect s c s') {buffer : Name} {text : Bytes}
    (htext : s.buffers.get? buffer = some text)
    (hkept : c.overwrites (some (.buffer buffer)) = false) :
    s'.buffers.get? buffer = some text := by
  cases heffect with
  | @created other created absent =>
    have hne : buffer ≠ other := by
      rintro rfl
      rw [absent] at htext
      cases htext
    rw [← htext]
    exact Shelf.get?_put_of_ne _ hne created
  | @overwritten other offset text old found inside =>
    have hne : buffer ≠ other := by
      rintro rfl
      simp [Command.overwrites] at hkept
    rw [← htext]
    exact Shelf.get?_put_of_ne _ hne _
  | none | level | compiled | dropped | tookOver | exchanged | stored | opened | advanced =>
    exact htext

lemma read?_eq (heffect : Effect s c s') {input : Input} {bytes : Bytes}
    (hread : s.read? input = some bytes) (hkept : c.overwrites (some input) = false) :
    s'.read? input = some bytes := by
  cases input with
  | text view => exact hread
  | buffer buffer =>
    rw [State.read?_buffer] at hread ⊢
    exact heffect.buffer_eq hread hkept

end Effect

lemma isLive_of_run {cs : List Command} (hlive : (s.run cs).2.registry.isLive h = true) :
    s.registry.isLive h = true := by
  induction cs generalizing s with
  | nil => exact hlive
  | cons c cs ih => exact (step_effect s c).isLive_of_isLive (ih hlive)

/-! ## States that a scan cannot tell apart -/

/-- Two states in which a scan is open that reads the same input. -/
structure Alike (name : Name) (scan : OpenScan E) (s t : State E) : Prop where
  left : s.scans.get? name = some scan
  right : t.scans.get? name = some scan
  reads : ∀ input, scan.input? = some input →
    ∃ bytes, s.read? input = some bytes ∧ t.read? input = some bytes

namespace Alike

lemma bytesOf_eq (h : Alike name scan s t) : s.bytesOf scan = t.bytesOf scan := by
  unfold bytesOf
  rcases hinput : scan.input? with _ | input
  · rfl
  · obtain ⟨bytes, hs, ht⟩ := h.reads input hinput
    simp only [Option.bind_some, hs, ht]

lemma reread_eq (h : Alike name scan s t) : s.reread scan = t.reread scan := by
  cases scan with
  | whole handle scan kept => rfl
  | group handle scan input kept =>
    obtain ⟨bytes, hs, ht⟩ := h.reads input rfl
    unfold reread
    dsimp only
    rw [hs, ht]

/-- A command about other things makes no difference. -/
lemma step_left (h : Alike name scan s t) (hopens : c.opens name = false)
    (hsteps : c.steps name = false) (hkept : c.overwrites scan.input? = false) :
    Alike name scan (s.step c).state t where
  left := by rw [(step_effect s c).scan_eq hopens hsteps, h.left]
  right := h.right
  reads := by
    intro input hinput
    obtain ⟨bytes, hs, ht⟩ := h.reads input hinput
    exact ⟨bytes, (step_effect s c).read?_eq hs (by rw [← hinput]; exact hkept), ht⟩

/-- A command about the scan is answered alike and leaves it alike. -/
lemma step_both (halike : Alike name scan s t) (hc : c.concerns name = true)
    (hs : s.registry.isLive scan.handle = true) (ht : t.registry.isLive scan.handle = true) :
    (s.step c).answer = (t.step c).answer ∧
      ∃ scan', Alike name scan' (s.step c).state (t.step c).state ∧
        scan'.handle = scan.handle ∧ scan'.input? = scan.input? := by
  by_cases hsteps : c.steps name = true
  · rw [step_eq_settle hsteps halike.left hs, step_eq_settle hsteps halike.right ht,
      halike.bytesOf_eq]
    rcases hnext : scan.next c.keeps (t.bytesOf scan) with b | step
    · exact ⟨rfl, scan, halike, rfl, rfl⟩
    · obtain ⟨hhandle, hinput⟩ := OpenScan.next_scan hnext
      refine ⟨rfl, step.scan, ⟨Shelf.get?_put_self _ _ _, Shelf.get?_put_self _ _ _, ?_⟩,
        hhandle, hinput⟩
      rw [hinput]
      exact halike.reads
  · -- what is left only looks at the scan
    cases c with
    | position other =>
      have hother : other = name := by simpa [Command.concerns] using hc
      subst hother
      rw [step, step, halike.left, halike.right]
      exact ⟨rfl, scan, halike, rfl, rfl⟩
    | reread other =>
      have hother : other = name := by simpa [Command.concerns] using hc
      subst hother
      rw [step, step, halike.left, halike.right]
      refine ⟨?_, scan, halike, rfl, rfl⟩
      show Answer.reread _ = Answer.reread _
      rw [halike.reread_eq]
    | next other => exact absurd hc hsteps
    | nextText other => exact absurd hc hsteps
    | _ => cases hc

end Alike

/-! ## A run and some of its commands -/

/-- The answers that a run gives to some of its commands. -/
def answersTo (s : State E) (asks : Command → Bool) (cs : List Command) : List Answer :=
  ((cs.zip (s.run cs).1).filter (asks ·.1)).map (·.2)

/-- Until the last of the commands that are asked about, a handle is not freed, no other scan is
opened under a name, and an input, if there is one, is not overwritten. -/
def Spared (s : State E) (asks : Command → Bool) (name : Name) (h : Handle)
    (input : Option Input) (cs : List Command) : Prop :=
  ∀ i, (hi : i < cs.length) → asks cs[i] = true →
    (s.run (cs.take i)).2.registry.isLive h = true ∧
      ∀ d ∈ cs.take i, d.opens name = false ∧ d.overwrites input = false

section
variable {asks : Command → Bool} {cs : List Command} {input : Option Input}

lemma answersTo_cons_of_pos (hc : asks c = true) :
    s.answersTo asks (c :: cs) = (s.step c).answer :: (s.step c).state.answersTo asks cs := by
  simp [answersTo, run_cons, hc]

lemma answersTo_cons_of_neg (hc : asks c = false) :
    s.answersTo asks (c :: cs) = (s.step c).state.answersTo asks cs := by
  simp [answersTo, run_cons, hc]

lemma answersTo_eq_run_of_none (hnone : ¬∃ c ∈ cs, asks c = true) :
    s.answersTo asks cs = (t.run (cs.filter asks)).1 := by
  induction cs generalizing s with
  | nil => rfl
  | cons c cs ih =>
    have hc : ¬asks c = true := fun h => hnone ⟨c, List.mem_cons_self, h⟩
    have hcs : ¬∃ d ∈ cs, asks d = true := fun ⟨d, hd, h⟩ =>
      hnone ⟨d, List.mem_cons_of_mem c hd, h⟩
    rw [answersTo_cons_of_neg (eq_false_of_ne_true hc), List.filter_cons_of_neg hc, ih hcs]

lemma Spared.tail (hs : Spared s asks name h input (c :: cs)) :
    Spared (s.step c).state asks name h input cs := by
  intro i hi hasks
  obtain ⟨hlive, hothers⟩ := hs (i + 1) (Nat.succ_lt_succ hi) hasks
  exact ⟨hlive, fun d hd => hothers d (List.mem_cons_of_mem c hd)⟩

/-- The first command must not do it if any is asked about later. -/
lemma Spared.head (hs : Spared s asks name h input (c :: cs)) {d : Command} (hd : d ∈ cs)
    (hasks : asks d = true) : c.opens name = false ∧ c.overwrites input = false := by
  obtain ⟨i, hi, rfl⟩ := List.mem_iff_getElem.mp hd
  exact (hs (i + 1) (Nat.succ_lt_succ hi) hasks).2 c List.mem_cons_self

lemma Spared.isLive (hs : Spared s asks name h input cs) (hd : c ∈ cs) (hasks : asks c = true) :
    s.registry.isLive h = true := by
  obtain ⟨i, hi, rfl⟩ := List.mem_iff_getElem.mp hd
  exact isLive_of_run (hs i hi hasks).1

instance : Decidable (Spared s asks name h input cs) :=
  inferInstanceAs (Decidable (∀ i, (hi : i < cs.length) → _))

/-- The commands that are asked about are answered as if they were all, if they include all steps
of a scan and nothing but commands about it. -/
theorem answersTo_eq_run (hsteps : ∀ c, c.steps name = true → asks c = true)
    (hconcerns : ∀ c, asks c = true → c.concerns name = true) (halike : Alike name scan s t)
    (hlive : t.registry.isLive scan.handle = true)
    (hspared : Spared s asks name scan.handle scan.input? cs) :
    s.answersTo asks cs = (t.run (cs.filter asks)).1 := by
  -- the induction is on the commands; `t` lags behind at the last one that was asked about
  induction cs generalizing s t scan with
  | nil => rfl
  | cons c cs ih =>
    by_cases hc : asks c = true
    · have hs := hspared.isLive List.mem_cons_self hc
      obtain ⟨hanswer, scan', halike', hhandle, hinput⟩ :=
        halike.step_both (hconcerns c hc) hs hlive
      have hwork : c.isScanWork = true := Command.isScanWork_of_concerns (hconcerns c hc)
      have hlive' : (t.step c).state.registry.isLive scan'.handle = true := by
        rw [(step_effect t c).registry_eq hwork, hhandle]
        exact hlive
      have hrest := ih halike' hlive' (by rw [hhandle, hinput]; exact hspared.tail)
      rw [answersTo_cons_of_pos hc, List.filter_cons_of_pos hc, run_cons, hanswer, hrest]
    · -- only the one run takes this command, and it may do anything if nothing is asked later
      have hc' : asks c = false := eq_false_of_ne_true hc
      rw [answersTo_cons_of_neg hc', List.filter_cons_of_neg hc]
      by_cases hlater : ∃ d ∈ cs, asks d = true
      · obtain ⟨d, hd, hasks⟩ := hlater
        obtain ⟨hopens, hkept⟩ := hspared.head hd hasks
        have hnot : c.steps name = false := by
          rw [Bool.eq_false_iff]
          exact fun h => hc (hsteps c h)
        exact ih (halike.step_left hopens hnot hkept) hlive hspared.tail
      · exact answersTo_eq_run_of_none hlater

/-- A scan that is open is asked as if nothing else were done. -/
lemma answersTo_eq_run_self (hsteps : ∀ c, c.steps name = true → asks c = true)
    (hconcerns : ∀ c, asks c = true → c.concerns name = true)
    (hscan : s.scans.get? name = some scan)
    (hreads : ∀ input, scan.input? = some input → ∃ bytes, s.read? input = some bytes)
    (hspared : Spared s asks name scan.handle scan.input? cs) :
    s.answersTo asks cs = (s.run (cs.filter asks)).1 := by
  have halike : Alike name scan s s := ⟨hscan, hscan, fun input hinput => by
    obtain ⟨bytes, hbytes⟩ := hreads input hinput
    exact ⟨bytes, hbytes, hbytes⟩⟩
  by_cases hasked : ∃ c ∈ cs, asks c = true
  · obtain ⟨c, hc, hasks⟩ := hasked
    exact answersTo_eq_run hsteps hconcerns halike (hspared.isLive hc hasks) hspared
  · exact answersTo_eq_run_of_none hasked

end

/-! ## Scans among other commands -/

section
variable {owner : Name} {input : Input} {p : Compiled E} {view : View} {subject : Bytes}

lemma withPattern_eq (hp : s.registry.pattern? owner = some (h, p))
    (hview : s.view? input = some view) (go : Handle → Compiled E → View → Step E) :
    s.withPattern owner input go = go h p view := by
  rw [withPattern, hp]
  dsimp only
  rw [hview]

lemma step_openWhole (hp : s.registry.pattern? owner = some (h, p))
    (hview : s.view? input = some view) (name : Name) :
    s.step (.openWhole name owner input) = s.openScan name (.whole h (.ofText p view) []) :=
  withPattern_eq hp hview _

lemma step_openGroup (hp : s.registry.pattern? owner = some (h, p))
    (hview : s.view? input = some view) (name : Name) :
    s.step (.openGroup name owner input) = s.openScan name (.group h (.ofBuffer p view) input []) :=
  withPattern_eq hp hview _

/-- Whatever else is done to patterns, matches, buffers and other scans in between, the steps of a
scan are answered as if they were made alone, right after it was opened. Until the last of them, its
handle must not be freed, no other scan be opened under its name, and the buffer of a scan for
groups not be overwritten. -/
theorem answers_as_alone (name : Name) (hp : s.registry.pattern? owner = some (h, p))
    (hread : s.read? input = some subject) (cs : List Command) :
    (Spared (s.step (.openWhole name owner input)).state (Command.steps name) name h none cs →
      (s.step (.openWhole name owner input)).state.answersTo (Command.steps name) cs
        = ((s.step (.openWhole name owner input)).state.run
            (cs.filter (Command.steps name))).1) ∧
    (Spared (s.step (.openGroup name owner input)).state (Command.steps name) name h (some input)
        cs →
      (s.step (.openGroup name owner input)).state.answersTo (Command.steps name) cs
        = ((s.step (.openGroup name owner input)).state.run
            (cs.filter (Command.steps name))).1) := by
  obtain ⟨view, hview, -⟩ := Option.map_eq_some_iff.mp hread
  rw [step_openWhole hp hview, step_openGroup hp hview]
  refine ⟨fun hspared => ?_, fun hspared => ?_⟩
  · have hscan : (s.openScan name (.whole h (.ofText p view) [])).state.scans.get? name
        = some (.whole h (.ofText p view) []) := Shelf.get?_put_self _ _ _
    refine answersTo_eq_run_self (fun _ hc => hc) (fun _ => Command.concerns_of_steps) hscan ?_
      hspared
    intro input' hinput
    cases hinput
  · have hscan : (s.openScan name
        (.group h (.ofBuffer p view) input [])).state.scans.get? name
        = some (.group h (.ofBuffer p view) input []) := Shelf.get?_put_self _ _ _
    refine answersTo_eq_run_self (fun _ hc => hc) (fun _ => Command.concerns_of_steps) hscan ?_
      hspared
    intro input' hinput
    cases hinput
    exact ⟨subject, hread⟩

end

/-- Two scans of `xxa` take turns while their pattern changes hands and is freed at last. -/
theorem answers_as_alone_until_drop :
    let s := (({} : State sample).run
      [.compile [1] (Bytes.ascii "(x)*") {}, .createBuffer [5] (Bytes.ascii "xxa")]).2
    let cs := [.openGroup [8] [1] (.buffer [5]), .next [7], .exchange [1] [2],
      .compile [2] (Bytes.ascii "(x") {}, .next [8], .find [2] (.buffer [5]) (some [3]), .next [7],
      .exchangeMatch [3] [4], .takeOver [2] [1], .nextText [8], .next [7], .drop [1], .next [8]]
    s.registry.pattern? [1] = some (0, sampleStar) ∧
    s.read? (.buffer [5]) = some (Bytes.ascii "xxa") ∧
    Spared (s.step (.openWhole [7] [1] (.buffer [5]))).state (Command.steps [7]) [7] 0 none cs ∧
    Spared (s.step (.openGroup [7] [1] (.buffer [5]))).state (Command.steps [7]) [7] 0
      (some (.buffer [5])) cs ∧
    (s.step (.openWhole [7] [1] (.buffer [5]))).state.answersTo (Command.steps [7]) cs
      = [.stepped (.found (.span ⟨0, 2, some (Bytes.ascii "xx")⟩)) 1 false,
          .stepped (.found (.span ⟨1, 2, some (Bytes.ascii "x")⟩)) 2 false,
          .stepped (.found (.span ⟨2, 2, some []⟩)) 3 true] ∧
    (s.step (.openGroup [7] [1] (.buffer [5]))).state.answersTo (Command.steps [7]) cs
      = [.stepped (.found (.record [⟨0, 2, some (Bytes.ascii "xx")⟩,
            ⟨1, 2, some (Bytes.ascii "x")⟩])) 1 false,
          .stepped (.found (.record [⟨1, 2, some (Bytes.ascii "x")⟩,
            ⟨1, 2, some (Bytes.ascii "x")⟩])) 2 false,
          .stepped .nothing 3 true] := by
  intro s cs
  have hp : s.registry.pattern? [1] = some (0, sampleStar) := rfl
  have hread : s.read? (.buffer [5]) = some (Bytes.ascii "xxa") := rfl
  have hwhole : Spared (s.step (.openWhole [7] [1] (.buffer [5]))).state (Command.steps [7]) [7] 0
      none cs := by decide
  have hgroup : Spared (s.step (.openGroup [7] [1] (.buffer [5]))).state (Command.steps [7]) [7] 0
      (some (.buffer [5])) cs := by decide
  obtain ⟨halone, halone'⟩ := answers_as_alone [7] hp hread cs
  refine ⟨hp, hread, hwhole, hgroup, ?_, ?_⟩
  · rw [halone hwhole]
    decide
  · rw [halone' hgroup]
    decide

end State

end Session

end PatternScan
