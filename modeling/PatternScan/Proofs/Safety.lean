import PatternScan.Proofs.Overwriting

/-!
# No promise is ever broken

The operations check what they rely on, and none of the checks ever fails: a session over texts
shorter than `npos` bytes, with an engine that keeps its own promises, is never answered that
something is broken. One invariant carries this through all commands. Four things live here:

* `MatchStore.Legible`, for cells whose match lies in a text that is still there;
* `OpenScan.Placed`, for scans that stand at a position of what they go over;
* `State.Safe`, the invariant, and `State.Safe.step`, by which every command keeps it;
* `State.never_broken`, which reads off the invariant what no search and no offset ever does.
-/

namespace PatternScan

variable {S : Type}

/-- Everything that could be read can still be read, at the same length. -/
def KeepsLengths (reads reads' : S → Option Bytes) : Prop :=
  ∀ subject bytes, reads subject = some bytes →
    ∃ bytes', reads' subject = some bytes' ∧ bytes'.length = bytes.length

/-! ## Stored matches -/

namespace MatchStore

variable {reads reads' : S → Option Bytes} {s t : MatchStore S} {c : Cell S}

lemma cell_setCell (s : MatchStore S) (name other : Name) (c : Cell S) :
    (s.setCell name c).cell other = if other = name then c else s.cell other := by
  unfold cell setCell
  rw [Shelf.get?_put]
  split_ifs <;> rfl

lemma content?_of_not_isMatch (h : c.isMatch = false) : s.content? c = none := by
  simp [content?, h]

/-- New blocks do not change what a cell holds. -/
lemma content?_of_blocks {found : S × Match} (h : s.content? c = some found)
    (hblocks : s.blocks <+: t.blocks) : t.content? c = some found := by
  obtain ⟨new, hnew⟩ := hblocks
  unfold content? at h ⊢
  by_cases hmatch : c.isMatch = true
  · simp only [if_pos hmatch, Option.bind_eq_bind, Option.bind_eq_some_iff] at h ⊢
    obtain ⟨subject, hsubject, block, hblock, slots, hslots, hfound⟩ := h
    have hlt : block < s.blocks.length := (List.getElem?_eq_some_iff.mp hslots).1
    refine ⟨subject, hsubject, block, hblock, slots, ?_, hfound⟩
    rw [← hnew, List.getElem?_append_left hlt]
    exact hslots
  · rw [if_neg hmatch] at h
    cases h

/-- The cell holds no match, or one that is there, in a subject that can be read, with slots that
lie in it. -/
def Legible (s : MatchStore S) (reads : S → Option Bytes) (c : Cell S) : Prop :=
  c.isMatch = true → ∃ subject m bytes groups, s.content? c = some (subject, m) ∧
    reads subject = some bytes ∧ m.Fits groups bytes.length

namespace Legible

lemma of_not_isMatch (h : c.isMatch = false) : s.Legible reads c := by
  intro hmatch
  rw [h] at hmatch
  cases hmatch

lemma of_blocks (h : s.Legible reads c) (hblocks : s.blocks <+: t.blocks) :
    t.Legible reads c := by
  intro hmatch
  obtain ⟨subject, m, bytes, groups, hcontent, hreads, hfits⟩ := h hmatch
  exact ⟨subject, m, bytes, groups, content?_of_blocks hcontent hblocks, hreads, hfits⟩

lemma mono (h : s.Legible reads c) (hkeeps : KeepsLengths reads reads') : s.Legible reads' c := by
  intro hmatch
  obtain ⟨subject, m, bytes, groups, hcontent, hreads, hfits⟩ := h hmatch
  obtain ⟨bytes', hreads', hlength⟩ := hkeeps subject bytes hreads
  rw [← hlength] at hfits
  exact ⟨subject, m, bytes', groups, hcontent, hreads', hfits⟩

/-- What a legible cell holds fits. -/
lemma exists_fits (h : s.Legible reads c) {subject : S} {m : Match}
    (hcontent : s.content? c = some (subject, m)) :
    ∃ bytes groups, reads subject = some bytes ∧ m.Fits groups bytes.length := by
  have hmatch : c.isMatch = true := by
    by_contra hnot
    rw [content?_of_not_isMatch (eq_false_of_ne_true hnot)] at hcontent
    cases hcontent
  obtain ⟨subject', m', bytes, groups, hcontent', hreads, hfits⟩ := h hmatch
  rw [hcontent] at hcontent'
  cases hcontent'
  exact ⟨bytes, groups, hreads, hfits⟩

end Legible

/-- All named cells are legible. -/
def AllLegible (s : MatchStore S) (reads : S → Option Bytes) : Prop :=
  ∀ name, s.Legible reads (s.cell name)

namespace AllLegible

lemma empty : ({} : MatchStore S).AllLegible reads :=
  fun _ => .of_not_isMatch rfl

lemma mono (h : s.AllLegible reads) (hkeeps : KeepsLengths reads reads') : s.AllLegible reads' :=
  fun name => (h name).mono hkeeps

lemma setCell (h : s.AllLegible reads) (hc : s.Legible reads c) (name : Name) :
    (s.setCell name c).AllLegible reads := by
  intro other
  rw [cell_setCell]
  split_ifs
  · exact hc
  · exact h other

/-- To give a block back changes no cell. -/
lemma release (h : s.AllLegible reads) (c : Cell S) : (s.release c).AllLegible reads := h

lemma keep (h : s.AllLegible reads) (hc : s.Legible reads c) (name : Name) :
    (s.keep name c).AllLegible reads :=
  (h.setCell hc name).release _

lemma exchange (h : s.AllLegible reads) (source target : Name) :
    (s.exchange source target).AllLegible reads :=
  (h.setCell (h target) source).setCell (h source) target

/-- The cell that is moved from has no block any more. -/
lemma takeOver (h : s.AllLegible reads) (source target : Name) :
    (s.takeOver source target).AllLegible reads := by
  have hvacated : (s.cell source).vacated.isMatch = false := rfl
  have htarget := (h.release (s.cell target)).setCell (h source) target
  exact htarget.setCell (.of_not_isMatch hvacated) source

/-- A search adds a block and leaves the others alone. -/
lemma searched (h : s.AllLegible reads) (subject : S) (result : Except Failure (Option Match)) :
    (s.searched subject result).1.AllLegible reads := by
  have hblocks : s.blocks <+: (s.searched subject result).1.blocks := by
    rcases result with failure | _ | m <;> exact List.prefix_append _ _
  have hcells : (s.searched subject result).1.cells = s.cells := by
    rcases result with failure | _ | m <;> rfl
  intro name
  rw [cell, hcells]
  exact (h name).of_blocks hblocks

end AllLegible

/-- The cell that a search fills is legible if its match fits. -/
lemma legible_searched (s : MatchStore S) {subject : S} {bytes : Bytes}
    {result : Except Failure (Option Match)} (hreads : reads subject = some bytes)
    (hfits : ∀ m, result = .ok (some m) → ∃ groups, m.Fits groups bytes.length) :
    (s.searched subject result).1.Legible reads (s.searched subject result).2 := by
  rcases result with failure | _ | m
  · exact .of_not_isMatch rfl
  · exact .of_not_isMatch rfl
  · intro hmatch
    obtain ⟨groups, hm⟩ := hfits m rfl
    refine ⟨subject, m, bytes, groups, ?_, hreads, hm⟩
    rw [content?, if_pos hmatch]
    -- the block is the one that was added
    show ((s.blocks ++ [m.slots])[s.blocks.length]?).bind _ = _
    rw [List.getElem?_concat_length]
    rfl

end MatchStore

/-! ## What comes in -/

variable {E : Engine} {code : E.Code}

/-- Whoever owns a handle has the pattern that the engine's code stands for. -/
lemma Registry.Accounted.exists_code {r : Registry E} (hr : r.Accounted) {owner : Name}
    {h : Handle} {p : Compiled E} (hp : r.pattern? owner = some (h, p)) :
    ∃ code, p = .ofCode code := by
  unfold pattern? at hp
  rcases hhandle : (r.owner owner).handle with _ | held
  · rw [hhandle] at hp
    cases hp
  · obtain ⟨code, hcode, hgroups⟩ := (hr.owns owner).exists_code hhandle
    rw [hhandle] at hp
    simp only [hcode, hgroups, bind, Option.bind, pure] at hp
    cases hp
    exact ⟨code, rfl⟩

namespace Session

/-- The text that an input brings along. -/
def Input.text? : Input → Option Bytes
  | .buffer _ => none
  | .text view => some view.text

/-- The text that a command brings into a session to be searched. -/
def Command.text? : Command → Option Bytes
  | .test _ input => input.text?
  | .find _ input _ => input.text?
  | .createBuffer _ text => some text
  | .openWhole _ _ input => input.text?
  | .openGroup _ _ input => input.text?
  | _ => none

namespace OpenScan

/-- The pattern that the scan searches for. -/
def pattern : OpenScan E → Compiled E
  | .whole _ scan _ => scan.pattern
  | .group _ scan _ _ => scan.pattern

/-- The cursor of the scan. -/
def cursor : OpenScan E → Cursor
  | .whole _ scan _ => scan.cursor
  | .group _ scan _ _ => scan.cursor

/-- What the scan goes over: a text of its own, or what its input reads. -/
def subject? (reads : Input → Option Bytes) : OpenScan E → Option Bytes
  | .whole _ scan _ => some scan.text
  | .group _ _ input _ => reads input

/-- The scan stands at position `k` of the bytes it goes over. -/
structure Placed (reads : Input → Option Bytes) (scan : OpenScan E) (code : E.Code)
    (bytes : Bytes) (k : ℕ) : Prop where
  subject?_eq : scan.subject? reads = some bytes
  pattern_eq : scan.pattern = .ofCode code
  cursor_eq : scan.cursor = .ofPosition k bytes.length
  short : bytes.length < npos.toNat
  le : k ≤ bytes.length

namespace Placed

variable {scan : OpenScan E} {bytes : Bytes} {k : ℕ}

/-- What the scan goes over may be overwritten as long as it keeps its length. -/
lemma mono {reads reads' : Input → Option Bytes} (h : scan.Placed reads code bytes k)
    (hkeeps : KeepsLengths reads reads') : ∃ bytes', scan.Placed reads' code bytes' k := by
  cases scan with
  | whole handle scan kept =>
    exact ⟨bytes, h.subject?_eq, h.pattern_eq, h.cursor_eq, h.short, h.le⟩
  | group handle scan input kept =>
    obtain ⟨bytes', hread, hlength⟩ := hkeeps input bytes h.subject?_eq
    have hcursor := h.cursor_eq
    have hshort := h.short
    have hle := h.le
    rw [← hlength] at hcursor hshort hle
    exact ⟨bytes', hread, h.pattern_eq, hcursor, hshort, hle⟩

/-- A step breaks no promise and leads to another position. -/
lemma next {s : State E} (h : scan.Placed s.read? code bytes k)
    (hE : E.Sound code (E.groups code + 1)) (keep : Bool) :
    ∃ step, scan.next keep (s.bytesOf scan) = .ok step ∧
      ∃ j, step.scan.Placed s.read? code bytes j := by
  cases scan with
  | whole handle scan kept =>
    obtain ⟨p, text, cursor⟩ := scan
    obtain rfl : text = bytes := Option.some.inj h.subject?_eq
    obtain rfl : p = .ofCode code := h.pattern_eq
    obtain rfl : cursor = .ofPosition k text.length := h.cursor_eq
    obtain ⟨step, hstep, hmoves⟩ := (WholeScan.course hE h.short).moves k h.le .next trivial
    obtain ⟨j, hj, hscan⟩ := hmoves.exists_place
    have hnext : WholeScan.next ⟨.ofCode code, text, .ofPosition k text.length⟩ = .ok step := hstep
    rw [OpenScan.next, hnext]
    refine ⟨_, rfl, j, ?_⟩
    show Placed s.read? (.whole handle step.scan _) code text j
    rw [hscan]
    exact ⟨rfl, rfl, rfl, h.short, hj⟩
  | group handle scan input kept =>
    obtain ⟨p, cursor⟩ := scan
    have hread : s.read? input = some bytes := h.subject?_eq
    obtain rfl : p = .ofCode code := h.pattern_eq
    obtain rfl : cursor = .ofPosition k bytes.length := h.cursor_eq
    obtain ⟨step, hstep, hmoves⟩ := (GroupScan.course hE h.short).moves k h.le bytes rfl
    obtain ⟨j, hj, hscan⟩ := hmoves.exists_place
    have hnext : GroupScan.next ⟨.ofCode code, .ofPosition k bytes.length⟩ bytes = .ok step := hstep
    have hbytes : s.bytesOf (.group handle ⟨.ofCode code, .ofPosition k bytes.length⟩ input kept)
        = bytes := by
      show (s.read? input).getD [] = bytes
      rw [hread]
      rfl
    rw [OpenScan.next, hbytes, hnext]
    refine ⟨_, rfl, j, ?_⟩
    show Placed s.read? (.group handle step.scan input _) code bytes j
    rw [hscan]
    exact ⟨hread, rfl, rfl, h.short, hj⟩

end Placed

end OpenScan

/-- A match that is legible can be shown. -/
lemma State.record_eq_ok {s : State E} {c : Cell Input}
    (hc : s.stored.Legible s.read? c) : ∃ record, s.record c = .ok record := by
  unfold State.record
  rcases hcontent : s.stored.content? c with _ | ⟨input, m⟩
  · exact ⟨none, rfl⟩
  · obtain ⟨bytes, groups, -, hfits⟩ := hc.exists_fits hcontent
    dsimp only
    rw [hfits.record_eq]
    exact ⟨_, rfl⟩

/-- A buffer that is there stays there, at its length. -/
lemma State.Effect.keepsLengths {s s' : State E} {c : Command} (heffect : Effect s c s') :
    KeepsLengths s.read? s'.read? := by
  intro input bytes hread
  cases input with
  | buffer buffer =>
    rw [State.read?_buffer] at hread ⊢
    exact heffect.exists_buffer hread
  | text view => exact ⟨bytes, hread, rfl⟩

/-! ## The invariant -/

/-- A state from which nothing leads to a broken promise. -/
structure State.Safe (s : State E) : Prop where
  accounted : s.registry.Accounted
  short : ∀ buffer text, s.buffers.get? buffer = some text → text.length < npos.toNat
  legible : s.stored.AllLegible s.read?
  placed : ∀ name scan, s.scans.get? name = some scan →
    ∃ code bytes k, scan.Placed s.read? code bytes k

/-- Whether the answer tells of a broken promise. -/
def Answer.isBroken : Answer → Bool
  | .broken _ => true
  | _ => false

/-- A step to such a state, with an answer that tells of no broken promise. -/
structure Step.Safe (step : Step E) : Prop where
  state : step.state.Safe
  unbroken : step.answer.isBroken = false

namespace State.Safe

variable {s : State E}

lemma empty : ({} : State E).Safe where
  accounted := .empty
  short _ _ h := by cases h
  legible := .empty
  placed _ _ h := by cases h

/-- What is searched is short. -/
lemma read_short (hs : s.Safe) {input : Input}
    (hinput : ∀ text ∈ input.text?, text.length < npos.toNat) {bytes : Bytes}
    (hread : s.read? input = some bytes) : bytes.length < npos.toNat := by
  cases input with
  | buffer buffer =>
    rw [State.read?_buffer] at hread
    exact hs.short buffer bytes hread
  | text view => exact hinput bytes hread

/-! ### States with one part changed -/

lemma withLevel (hs : s.Safe) (level : Log.Level) : ({ s with level := level } : State E).Safe :=
  ⟨hs.accounted, hs.short, hs.legible, hs.placed⟩

lemma withRegistry (hs : s.Safe) {registry : Registry E} (hregistry : registry.Accounted) :
    ({ s with registry := registry } : State E).Safe :=
  ⟨hregistry, hs.short, hs.legible, hs.placed⟩

lemma withStored (hs : s.Safe) {store : MatchStore Input} (hstore : store.AllLegible s.read?) :
    ({ s with stored := store } : State E).Safe :=
  ⟨hs.accounted, hs.short, hstore, hs.placed⟩

/-- A buffer that is made or overwritten. -/
lemma putBuffer (hs : s.Safe) {buffer : Name} {text : Bytes} (htext : text.length < npos.toNat)
    (hkeeps : KeepsLengths s.read?
      ({ s with buffers := s.buffers.put buffer text } : State E).read?) :
    ({ s with buffers := s.buffers.put buffer text } : State E).Safe where
  accounted := hs.accounted
  short other text' := by
    intro h
    rw [Shelf.get?_put] at h
    split_ifs at h
    · cases h
      exact htext
    · exact hs.short other text' h
  legible := hs.legible.mono hkeeps
  placed name scan := by
    intro h
    -- a scan of this very buffer goes over other bytes now, but over as many
    obtain ⟨code, bytes, k, hplaced⟩ := hs.placed name scan h
    obtain ⟨bytes', hplaced'⟩ := hplaced.mono hkeeps
    exact ⟨code, bytes', k, hplaced'⟩

lemma setScan (hs : s.Safe) {scan : OpenScan E}
    (hscan : ∃ code bytes k, scan.Placed s.read? code bytes k) (name : Name) :
    (s.setScan name scan).Safe where
  accounted := hs.accounted
  short := hs.short
  legible := hs.legible
  placed other scan' := by
    intro h
    rw [State.setScan, Shelf.get?_put] at h
    -- where a scan stands is not up to which scans are open
    split_ifs at h
    · cases h
      exact hscan
    · exact hs.placed other scan' h

/-! ### Steps -/

lemma refuse (hs : s.Safe) (r : Refusal) : (s.refuse r).Safe :=
  ⟨hs, rfl⟩

/-- A command that needs a pattern and an input gets a pattern of the engine and a short subject. -/
lemma withPattern (hs : s.Safe) (owner : Name) {input : Input}
    (hinput : ∀ text ∈ input.text?, text.length < npos.toNat)
    {go : Handle → Compiled E → View → Step E}
    (hgo : ∀ h code subject, s.read? input = some subject.text →
      subject.text.length < npos.toNat → (go h (.ofCode code) subject).Safe) :
    (s.withPattern owner input go).Safe := by
  rcases withPattern_cases s owner input go with ⟨r, hr⟩ | ⟨h, p, subject, hp, hview, heq⟩
  · rw [hr]
    exact hs.refuse r
  · obtain ⟨code, rfl⟩ := hs.accounted.exists_code hp
    have hread := read?_of_view? hview
    rw [heq]
    exact hgo h code subject hread (hs.read_short hinput hread)

/-- No promise is needed for a test. -/
lemma test (hs : s.Safe) (input : Input) (p : Compiled E) (subject : View) :
    (s.test input p subject).Safe := by
  have hstored := (hs.legible.searched input (p.search 1 subject)).release
    (s.stored.searched input (p.search 1 subject)).2
  have hsafe := hs.withStored hstored
  unfold State.test
  -- whatever the answer is, the block has been given back
  rcases hresult : p.search 1 subject with f | m
  · rw [hresult] at hsafe
    exact ⟨hsafe, rfl⟩
  · rw [hresult] at hsafe
    exact ⟨hsafe, rfl⟩

/-- A cell can be shown. -/
lemma showCell (hs : s.Safe) (name : Name) : (s.showCell name).Safe := by
  obtain ⟨shown, hshown⟩ := State.record_eq_ok (hs.legible name)
  unfold State.showCell recordOf
  rw [hshown]
  exact ⟨hs, rfl⟩

/-- A match that is found fits, so it can be shown, whether it is kept or given back. -/
lemma find (hs : s.Safe) {code : E.Code} (hE : E.Sound code (E.groups code + 1)) {input : Input}
    {subject : View} (hread : s.read? input = some subject.text)
    (hn : subject.text.length < npos.toNat) (into : Option Name) :
    (s.find input into (.ofCode code) subject).Safe := by
  have hstored := hs.legible.searched input ((Compiled.ofCode code).find subject)
  have hfits : ∀ m, (Compiled.ofCode code).find subject = .ok (some m) →
      ∃ groups, m.Fits groups subject.text.length := fun m hm => ⟨_, Compiled.find_fits hE hn hm⟩
  have hcell := s.stored.legible_searched hread hfits
  unfold State.find
  -- from here on the store has one more block, and only the new cell reads it
  rcases hsearched : s.stored.searched input ((Compiled.ofCode code).find subject) with ⟨store, c⟩
  rw [hsearched] at hstored hcell
  simp only [hsearched]
  rcases (Compiled.ofCode code).find subject with f | m
  · exact ⟨hs.withStored hstored, rfl⟩
  · cases into with
    | some name => exact (hs.withStored (hstored.keep hcell name)).showCell name
    | none =>
      obtain ⟨record, hrecord⟩ := State.record_eq_ok (s := { s with stored := store }) hcell
      simp only [hrecord]
      exact ⟨hs.withStored (hstored.release c), rfl⟩

/-- Two cells can be shown. -/
lemma showCells (hs : s.Safe) (source target : Name) : (s.showCells source target).Safe := by
  obtain ⟨shown, hshown⟩ := State.record_eq_ok (hs.legible source)
  obtain ⟨shown', hshown'⟩ := State.record_eq_ok (hs.legible target)
  unfold State.showCells recordOf
  rw [hshown, hshown']
  exact ⟨hs, rfl⟩

/-- A scan that is opened stands at the front. -/
lemma openScan (hs : s.Safe) (name : Name) {scan : OpenScan E} {code : E.Code} {bytes : Bytes}
    (hscan : scan.Placed s.read? code bytes 0) : (s.openScan name scan).Safe :=
  ⟨hs.setScan ⟨code, bytes, 0, hscan⟩ name, rfl⟩

/-- A scan that is stepped breaks no promise, wherever it stands. -/
lemma advance (hs : s.Safe) (hE : ∀ code, E.Sound code (E.groups code + 1)) {c : Command}
    {name : Name} (hc : c.steps name = true) : (s.step c).Safe := by
  rcases steps_cases hc s with ⟨r, hrefused⟩ | ⟨scan, hscan, hsettled⟩
  · rw [hrefused]
    exact hs.refuse r
  · obtain ⟨code, bytes, k, hplaced⟩ := hs.placed name scan hscan
    obtain ⟨step, hnext, j, hplaced'⟩ := hplaced.next (hE code) c.keeps
    rw [hsettled, hnext]
    exact ⟨hs.setScan ⟨code, bytes, j, hplaced'⟩ name, rfl⟩

/-- Every command keeps the invariant and breaks no promise. -/
theorem step (hs : s.Safe) (hE : ∀ code, E.Sound code (E.groups code + 1)) {c : Command}
    (hc : ∀ text ∈ c.text?, text.length < npos.toNat) : (s.step c).Safe := by
  cases c with
  | setLevel level => exact ⟨hs.withLevel level, rfl⟩
  | checkLevel level => exact ⟨hs, rfl⟩
  | log level domain text => exact ⟨hs, rfl⟩
  | logFormatted level domain text => exact ⟨hs, rfl⟩
  | compile owner pattern options =>
    rcases hp : E.compiled pattern options.mask with rejection | p
    · rw [step_compile_of_error s hp]
      exact ⟨hs, rfl⟩
    · obtain ⟨code, rfl⟩ := Engine.compiled_eq_ok hp
      rw [step_compile_of_ok s hp]
      exact ⟨hs.withRegistry (hs.accounted.issue owner code), rfl⟩
  | inspect owner => exact ⟨hs, rfl⟩
  | drop owner => exact ⟨hs.withRegistry (hs.accounted.drop owner), rfl⟩
  | takeOver source target =>
    by_cases hne : source = target
    · rw [State.step, if_pos hne]
      exact hs.refuse _
    · rw [State.step, if_neg hne]
      exact ⟨hs.withRegistry (hs.accounted.takeOver hne), rfl⟩
  | exchange source target =>
    exact ⟨hs.withRegistry (hs.accounted.exchange source target), rfl⟩
  | test owner input =>
    exact hs.withPattern owner hc fun _ code subject _ _ => hs.test input (.ofCode code) subject
  | find owner input into =>
    exact hs.withPattern owner hc fun _ code subject hread hn => hs.find (hE code) hread hn into
  | showMatch cell => exact hs.showCell cell
  | takeOverMatch source target =>
    by_cases hne : source = target
    · rw [State.step, if_pos hne]
      exact hs.refuse _
    · rw [State.step, if_neg hne]
      exact (hs.withStored (hs.legible.takeOver source target)).showCells source target
  | exchangeMatch source target =>
    exact (hs.withStored (hs.legible.exchange source target)).showCells source target
  | createBuffer buffer text =>
    rcases hbuffer : s.buffers.get? buffer with _ | old
    · rw [State.step, hbuffer]
      exact ⟨hs.putBuffer (hc text rfl) (Effect.created hbuffer).keepsLengths, rfl⟩
    · rw [State.step, hbuffer]
      exact hs.refuse _
  | overwrite buffer offset text =>
    rcases hbuffer : s.buffers.get? buffer with _ | old
    · rw [State.step, hbuffer]
      exact hs.refuse _
    · rw [State.step, hbuffer]
      dsimp only
      by_cases hinside : offset.toNat + text.length ≤ old.length
      · have hlength := Bytes.overwrite_length hinside
        have hshort := hs.short buffer old hbuffer
        rw [if_pos hinside]
        refine ⟨hs.putBuffer ?_ (Effect.overwritten hbuffer hinside).keepsLengths, rfl⟩
        rw [hlength]
        exact hshort
      · rw [if_neg hinside]
        exact hs.refuse _
  | openWhole scan owner input =>
    exact hs.withPattern owner hc fun _ code subject _ hn =>
      hs.openScan scan ⟨rfl, rfl, rfl, hn, Nat.zero_le _⟩
  | openGroup scan owner input =>
    exact hs.withPattern owner hc fun _ code subject hread hn =>
      hs.openScan scan ⟨hread, rfl, rfl, hn, Nat.zero_le _⟩
  | next scan => exact hs.advance hE (beq_self_eq_true scan)
  | nextText scan => exact hs.advance hE (beq_self_eq_true scan)
  | position scan =>
    rw [State.step]
    rcases s.scans.get? scan with _ | scan
    · exact hs.refuse _
    · exact ⟨hs, rfl⟩
  | reread scan =>
    rw [State.step]
    rcases s.scans.get? scan with _ | scan
    · exact hs.refuse _
    · exact ⟨hs, rfl⟩

/-- What each command keeps, a run keeps. -/
lemma run (hs : s.Safe) (hE : ∀ code, E.Sound code (E.groups code + 1)) {cs : List Command}
    (hcs : ∀ c ∈ cs, ∀ text ∈ c.text?, text.length < npos.toNat) :
    (s.run cs).2.Safe ∧ ∀ b, Answer.broken b ∉ (s.run cs).1 := by
  -- the induction is on the commands, each of which starts from a safe state
  induction cs generalizing s with
  | nil => exact ⟨hs, fun _ h => absurd h List.not_mem_nil⟩
  | cons c cs ih =>
    have hstep := hs.step hE (hcs c List.mem_cons_self)
    obtain ⟨hsafe, hunbroken⟩ := ih hstep.state fun d hd => hcs d (List.mem_cons_of_mem c hd)
    refine ⟨hsafe, fun b hb => ?_⟩
    rcases List.mem_cons.mp hb with hb | hb
    · have hnot := hstep.unbroken
      rw [← hb] at hnot
      cases hnot
    · exact hunbroken b hb

end State.Safe

end Session

/-! ## Offsets -/

/-- Of a set slot behind a position of `n` bytes, every sum and difference that a scan makes of its
offsets is a word again, and the slot ends in the buffer. -/
structure Slot.Exact (slot : Slot) (position : UInt64) (n : ℕ) : Prop where
  start_lt : position.toNat + slot.start.toNat < UInt64.size
  stop_lt : position.toNat + slot.stop.toNat < UInt64.size
  next_lt : position.toNat + slot.start.toNat + 1 < UInt64.size
  start_le_stop : slot.start ≤ slot.stop
  stop_le : position.toNat + slot.stop.toNat ≤ n

/-- A match has a slot for each group that is asked for, that of the whole match is set, and every
slot that is set is exact. -/
structure Match.Exact (m : Match) (groups : ℕ) (position : UInt64) (n : ℕ) : Prop where
  size_eq : m.size = groups + 1
  slots_length : m.slots.length = groups + 1
  whole_isSet : ∃ whole ∈ m.slots.head?, whole.isSet = true
  slots_exact : ∀ slot ∈ m.slots, slot.isSet = true → slot.Exact position n

section
variable {n k : ℕ}

lemma Slot.Within.exact {slot : Slot} (h : slot.Within (n - k)) (hset : slot.isSet = true)
    (hk : k ≤ n) (hn : n < npos.toNat) : slot.Exact (UInt64.ofNat k) n := by
  obtain ⟨hle, hstop⟩ := h.bounds hset
  have hposition : (UInt64.ofNat k).toNat = k := toNat_ofNat_of_lt_npos (by omega)
  have hsize : UInt64.size = npos.toNat + 1 := rfl
  refine ⟨?_, ?_, ?_, (h hset).1, ?_⟩
  all_goals
    rw [hposition]
    omega

lemma Match.Fits.exact {m : Match} {groups : ℕ} (hm : m.Fits groups (n - k)) (hk : k ≤ n)
    (hn : n < npos.toNat) : m.Exact groups (UInt64.ofNat k) n where
  size_eq := hm.size_eq
  slots_length := hm.slots_length
  whole_isSet := by
    obtain ⟨whole, rest, hslots, hset, -⟩ := hm.exists_slots
    rw [hslots]
    exact ⟨whole, rfl, hset⟩
  slots_exact slot hslot hset := (hm.within slot hslot).exact hset hk hn

end

namespace Session

/-- Where a scan stands, its next search stays in what it goes over. -/
lemma OpenScan.Placed.exact {reads : Input → Option Bytes} {scan : OpenScan E} {bytes : Bytes}
    {k : ℕ} (h : scan.Placed reads code bytes k) (hE : E.Sound code (E.groups code + 1)) :
    scan.cursor.length.toNat = bytes.length ∧ scan.position.toNat ≤ bytes.length ∧
      ∀ m, scan.pattern.find (bytes.drop scan.position.toNat) = .ok (some m) →
        m.Exact scan.pattern.groups scan.position bytes.length := by
  have hscan : scan.position = scan.cursor.position := by cases scan <;> rfl
  obtain ⟨hposition, hlength⟩ := Cursor.toNat_ofPosition h.le h.short
  rw [hscan, h.cursor_eq, h.pattern_eq, hposition]
  refine ⟨hlength, h.le, fun m hm => ?_⟩
  exact (Compiled.find_drop_fits hE h.short hm).exact h.le h.short

namespace State

/-- A session over texts shorter than `npos` bytes, with an engine that keeps its promises, never
answers that a promise is broken, whatever it is asked to do and whenever a buffer is overwritten.
At each moment, every open scan stands inside what it goes over, which is still as long as at the
start, and whatever match its next search finds there has a slot for each group, with offsets that
neither wrap nor leave the buffer; and every stored match lies in a text that is still there. -/
theorem never_broken (hE : ∀ code, E.Sound code (E.groups code + 1)) {cs : List Command}
    (hcs : ∀ c ∈ cs, ∀ text ∈ c.text?, text.length < npos.toNat) :
    let s := (({} : State E).run cs).2
    (∀ b, Answer.broken b ∉ (({} : State E).run cs).1) ∧
    (∀ name scan, s.scans.get? name = some scan → ∃ bytes, scan.subject? s.read? = some bytes ∧
      scan.cursor.length.toNat = bytes.length ∧ scan.position.toNat ≤ bytes.length ∧
      ∀ m, scan.pattern.find (bytes.drop scan.position.toNat) = .ok (some m) →
        m.Exact scan.pattern.groups scan.position bytes.length) ∧
    ∀ name input m, s.stored.content? (s.stored.cell name) = some (input, m) →
      m.size = m.slots.length ∧ ∃ bytes, s.read? input = some bytes ∧
        ∀ slot ∈ m.slots, slot.Within bytes.length := by
  intro s
  obtain ⟨hsafe, hunbroken⟩ := Safe.empty.run hE hcs
  refine ⟨hunbroken, fun name scan hscan => ?_, fun name input m hcontent => ?_⟩
  · obtain ⟨code, bytes, k, hplaced⟩ := hsafe.placed name scan hscan
    exact ⟨bytes, hplaced.subject?_eq, hplaced.exact (hE code)⟩
  · obtain ⟨bytes, groups, hread, hfits⟩ := (hsafe.legible name).exists_fits hcontent
    refine ⟨?_, bytes, hread, hfits.within⟩
    rw [hfits.size_eq, hfits.slots_length]

/-- A buffer is overwritten under a scan for `(x)*` and under a match that was found in it. -/
theorem never_broken_under_overwriting :
    let cs : List Command := [.compile [1] (Bytes.ascii "(x)*") {},
      .createBuffer [5] (Bytes.ascii "xxa"), .openGroup [7] [1] (.buffer [5]),
      .openWhole [8] [1] (.text (Bytes.ascii "xa")), .next [7],
      .find [1] (.buffer [5]) (some [3]), .overwrite [5] 0 (Bytes.ascii "axx"),
      .test [1] (.buffer [5]), .nextText [8], .exchangeMatch [3] [4], .showMatch [4]]
    let s := (({} : State sample).run cs).2
    let scan : OpenScan sample := .group 0 (.ofPosition sampleStar 3 1) (.buffer [5])
      [[⟨0, 2, some ⟨0, 2⟩⟩, ⟨1, 2, some ⟨1, 1⟩⟩]]
    let m : Match := ⟨[⟨0, 2⟩, ⟨1, 2⟩], 2⟩
    (∀ code, sample.Sound code (sample.groups code + 1)) ∧
    (∀ c ∈ cs, ∀ text ∈ c.text?, text.length < npos.toNat) ∧
    (∀ b, Answer.broken b ∉ (({} : State sample).run cs).1) ∧
    (s.scans.get? [7] = some scan ∧ scan.subject? s.read? = some (Bytes.ascii "axx") ∧
      scan.pattern.find (Bytes.ascii "xx") = .ok (some m) ∧ m.Exact 1 1 3) ∧
    s.stored.content? (s.stored.cell [4]) = some (.buffer [5], m) ∧
      ∀ slot ∈ m.slots, slot.Within 3 := by
  intro cs s scan m
  have hE : ∀ code, sample.Sound code (sample.groups code + 1) := fun code =>
    sample_sound code _
  have hcs : ∀ c ∈ cs, ∀ text ∈ c.text?, text.length < npos.toNat := by decide
  have hscan : s.scans.get? [7] = some scan := rfl
  have hsubject : scan.subject? s.read? = some (Bytes.ascii "axx") := rfl
  have hfind : scan.pattern.find (Bytes.ascii "xx") = .ok (some m) := rfl
  have hcontent : s.stored.content? (s.stored.cell [4]) = some (.buffer [5], m) := rfl
  obtain ⟨hunbroken, hscans, hcells⟩ := never_broken hE hcs
  obtain ⟨bytes, hbytes, -, -, hmatches⟩ := hscans [7] scan hscan
  obtain ⟨-, text, htext, hwithin⟩ := hcells [4] (.buffer [5]) m hcontent
  cases hbytes
  cases htext
  exact ⟨hE, hcs, hunbroken, ⟨hscan, hsubject, hfind, hmatches m hfind⟩, hcontent, hwithin⟩

/-- The checks do find out an engine that reports more than there is. -/
example :
    let liar : Engine := ⟨Unit, fun _ _ => .ok (), fun _ => 0, fun _ _ _ => ⟨1, [⟨0, 9⟩]⟩⟩
    (({} : State liar).run [.compile [1] (Bytes.ascii "x") {},
      .openWhole [7] [1] (.text (Bytes.ascii "x")), .next [7]]).1.getLast?
      = some (.broken .groupBeyondEnd) := by
  decide

end State

end Session

end PatternScan
