import PatternScan.Proofs.Overwriting

/-!
# Once a scan is over, it stays over

A scan is over when its cursor is at the end of the buffer. A search in vain, an empty match of a
scan for groups and a failure all put it there, and so does a match right in front of the end. From
then on calls do nothing at all. Three things live here:

* `Scan.Turn.Inert`, a call that does nothing, and `Scan.Final`, what a run is once it is over;
* `Scan.Course.final`, by which every run of calls is like that;
* `Session.State.Recalls`, by which what a scan told before is not touched.
-/

namespace PatternScan

open Session (Finding)

/-! ## Runs that are over -/

namespace Scan

variable {σ κ α : Type}

/-- Whether there is a result. -/
def Outcome.isFound : Outcome α → Bool
  | .found _ => true
  | _ => false

/-- Whether there is a failure. -/
def Outcome.isFailed : Outcome α → Bool
  | .failed _ => true
  | _ => false

/-- A turn of a call that yields nothing, leaves no message and no trace on the scan, and has the
engine search nothing. -/
structure Turn.Inert (K : Kind σ κ α) (t : Turn σ κ α) : Prop where
  step_eq : t.step = ⟨.nothing, t.scan, []⟩
  rest?_eq : K.rest? t.scan t.call = .ok none

/-- The turns of a run over `n` bytes that, once it is over, is over for good. -/
structure Final (K : Kind σ κ α) (n : ℕ) (turns : List (Turn σ κ α)) : Prop where
  /-- A call without a result leaves the scan at the end. -/
  stops : ∀ t ∈ turns, t.step.outcome.isFound = false →
    (K.position t.step.scan).toNat = n ∧ K.isExhausted t.step.scan = true
  /-- A call on a scan that has ended does nothing. -/
  inert : ∀ t ∈ turns, K.isExhausted t.scan = true → t.Inert K
  /-- Once a call has left the scan at the end, all later calls find it there as it was. -/
  lasts : turns.Pairwise fun t later => K.isExhausted t.step.scan = true →
    later.scan = t.step.scan ∧ later.Inert K
  failures_le : turns.countP (·.step.outcome.isFailed) ≤ 1

/-- An inert turn is no failure. -/
lemma Turn.Inert.isFailed_eq {K : Kind σ κ α} {t : Turn σ κ α} (h : t.Inert K) :
    t.step.outcome.isFailed = false := by
  rw [h.step_eq]
  rfl

/-- One more turn in front. -/
lemma Final.cons {K : Kind σ κ α} {n : ℕ} {t : Turn σ κ α} {turns : List (Turn σ κ α)}
    (h : Final K n turns)
    (hstops : t.step.outcome.isFound = false →
      (K.position t.step.scan).toNat = n ∧ K.isExhausted t.step.scan = true)
    (hinert : K.isExhausted t.scan = true → t.Inert K)
    (hlasts : K.isExhausted t.step.scan = true →
      ∀ later ∈ turns, later.scan = t.step.scan ∧ later.Inert K) : Final K n (t :: turns) where
  stops := by
    intro t' ht'
    rcases List.mem_cons.mp ht' with rfl | hmem
    · exact hstops
    · exact h.stops t' hmem
  inert := by
    intro t' ht'
    rcases List.mem_cons.mp ht' with rfl | hmem
    · exact hinert
    · exact h.inert t' hmem
  lasts := by
    refine List.pairwise_cons.mpr ⟨?_, h.lasts⟩
    intro later hlater hover
    exact hlasts hover later hlater
  failures_le := by
    rw [List.countP_cons]
    by_cases hfailed : t.step.outcome.isFailed = true
    · -- the failure leaves the scan at the end, and there nothing fails any more
      have hnot : t.step.outcome.isFound = false := by
        revert hfailed
        cases t.step.outcome <;> simp [Outcome.isFailed, Outcome.isFound]
      have hnone : turns.countP (·.step.outcome.isFailed) = 0 := by
        rw [List.countP_eq_zero]
        intro later hlater
        rw [(hlasts (hstops hnot).2 later hlater).2.isFailed_eq]
        exact Bool.false_ne_true
      have hone : turns.countP (·.step.outcome.isFailed)
          + (if t.step.outcome.isFailed = true then 1 else 0) = 1 := by rw [hnone, if_pos hfailed]
      exact Nat.le_of_eq hone
    · rw [if_neg hfailed]
      exact h.failures_le

namespace Course

variable {K : Kind σ κ α} {Shape : Span Extent → Prop} {place : ℕ → σ} {Allowed : κ → Prop}
  {n k : ℕ}

/-- The run of calls from the end on: every turn is the same. -/
lemma run_at_end (hend : ∀ c, Allowed c → K.next (place n) c = .ok ⟨.nothing, place n, []⟩)
    {calls : List κ} (hcalls : ∀ c ∈ calls, Allowed c) :
    Scan.run K.next (place n) calls
      = .ok (calls.map fun c => ⟨place n, c, ⟨.nothing, place n, []⟩⟩) := by
  induction calls with
  | nil => rfl
  | cons c calls ih =>
    have hrest := ih fun c' hc' => hcalls c' (List.mem_cons_of_mem c hc')
    rw [run_cons (hend c (hcalls c List.mem_cons_self)), hrest]
    rfl

/-- A step without a result leads to the end. -/
lemma stops_of_moves (h : Course K Shape place Allowed n) {step : Step σ α}
    (hmoves : Moves K Shape place n k step) (hnot : step.outcome.isFound = false) :
    (K.position step.scan).toNat = n ∧ K.isExhausted step.scan = true := by
  have hend : (K.position (place n)).toNat = n ∧ K.isExhausted (place n) = true :=
    ⟨h.position_eq n (Nat.le_refl n), h.isExhausted_at_end⟩
  cases hmoves with
  | yields => cases hnot
  | nothing => exact hend
  | failed => exact hend

/-- A run is over for good once a call has left the scan at the end. -/
lemma final (h : Course K Shape place Allowed n) {calls : List κ}
    (hcalls : ∀ c ∈ calls, Allowed c) (hk : k ≤ n) :
    ∃ turns, Scan.run K.next (place k) calls = .ok turns ∧ Final K n turns := by
  have hover : ∀ j ≤ n, K.isExhausted (place j) = true → j = n := by
    intro j hj hexhausted
    rw [h.isExhausted_eq j hj] at hexhausted
    exact of_decide_eq_true hexhausted
  -- the induction is on the calls; the first of them leads to a place, and the rest starts there
  induction calls generalizing k with
  | nil =>
    refine ⟨[], rfl, ⟨?_, ?_, List.Pairwise.nil, Nat.zero_le _⟩⟩
    · intro t ht
      exact absurd ht List.not_mem_nil
    · intro t ht
      exact absurd ht List.not_mem_nil
  | cons c calls ih =>
    have hc := hcalls c List.mem_cons_self
    have hcalls' : ∀ c ∈ calls, Allowed c := fun c' hc' => hcalls c' (List.mem_cons_of_mem c hc')
    obtain ⟨step, hstep, hmoves⟩ := h.moves k hk c hc
    obtain ⟨j, hj, hscan⟩ := hmoves.exists_place
    obtain ⟨turns, hrun, hfinal⟩ := ih hcalls' hj
    refine ⟨⟨place k, c, step⟩ :: turns, ?_, hfinal.cons (h.stops_of_moves hmoves) ?_ ?_⟩
    · rw [run_cons hstep, hscan, hrun]
      rfl
    · intro hexhausted
      obtain rfl := hover k hk hexhausted
      rw [h.next_at_end hc] at hstep
      cases hstep
      exact ⟨rfl, h.rest?_at_end c hc⟩
    · intro hexhausted later hlater
      rw [hscan] at hexhausted ⊢
      obtain rfl := hover j hj hexhausted
      rw [run_at_end (fun _ hc' => h.next_at_end hc') hcalls'] at hrun
      cases hrun
      obtain ⟨c', hc', rfl⟩ := List.mem_map.mp hlater
      exact ⟨rfl, rfl, h.rest?_at_end c' (hcalls' c' hc')⟩

end Course

end Scan

variable {E : Engine} {code : E.Code}

/-! ## What was told before -/

namespace Session

/-- The finding that an answer tells and that the scan remembers: a span or a record, but not a mere
text. -/
def Answer.remembered? : Answer → Option Finding
  | .stepped (.found (.span span)) _ _ => some (.span span)
  | .stepped (.found (.record r)) _ _ => some (.record r)
  | _ => none

namespace State

variable {s : State E} {c : Command} {cs : List Command} {name : Name} {input : Option Input}
  {told : List Finding}

/-- A step adds what it tells to what the scan has told. -/
lemma reread_next {keep : Bool} {scan : OpenScan E} {step : Scan.Step (OpenScan E) Finding}
    (h : scan.next keep (s.bytesOf scan) = .ok step) :
    s.reread step.scan = s.reread scan ++ (Answer.ofStep step).remembered?.toList := by
  cases scan with
  | whole handle scan kept =>
    rw [OpenScan.next] at h
    rcases hnext : scan.next with b | ⟨outcome, scan', messages⟩
    · rw [hnext] at h
      cases h
    · rw [hnext] at h
      cases h
      have hread : scan'.read = scan.read := by
        funext span
        rw [WholeScan.read, WholeScan.read, WholeScan.text_next hnext]
      show List.map (fun span => Finding.span (scan'.read span)) _ = _
      rw [hread]
      -- a step that tells the text only remembers no span
      cases outcome with
      | found span =>
        cases keep with
        | true => exact List.map_append
        | false => exact (List.append_nil _).symm
      | nothing => cases keep <;> exact (List.append_nil _).symm
      | failed failure => cases keep <;> exact (List.append_nil _).symm
  | group handle scan input kept =>
    rw [OpenScan.next] at h
    rcases hnext : scan.next (s.bytesOf (.group handle scan input kept)) with
      b | ⟨outcome, scan', messages⟩
    · rw [hnext] at h
      cases h
    · rw [hnext] at h
      cases h
      cases outcome with
      | found record => exact List.map_append
      | nothing => exact (List.append_nil _).symm
      | failed failure => exact (List.append_nil _).symm

/-- A scan that is open with what it told, as its input reads now. -/
structure Recalls (s : State E) (name : Name) (input : Option Input) (told : List Finding) :
    Prop where
  exists_scan : ∃ scan, s.scans.get? name = some scan ∧ scan.input? = input ∧
    s.reread scan = told
  reads : ∀ i, input = some i → ∃ bytes, s.read? i = some bytes

namespace Recalls

/-- A step of the scan, if it tells a span or a record, adds it. -/
lemma step (hs : Recalls s name input told) (hc : c.steps name = true) :
    Recalls (s.step c).state name input (told ++ (s.step c).answer.remembered?.toList) := by
  obtain ⟨⟨scan, hscan, hinput, rfl⟩, hreads⟩ := hs
  by_cases hlive : s.registry.isLive scan.handle = true
  · rw [step_eq_settle hc hscan hlive]
    rcases hnext : scan.next c.keeps (s.bytesOf scan) with b | step
    · exact ⟨⟨scan, hscan, hinput, (List.append_nil _).symm⟩, hreads⟩
    · refine ⟨⟨step.scan, Shelf.get?_put_self _ _ _, ?_, ?_⟩, hreads⟩
      · rw [(OpenScan.next_scan hnext).2, hinput]
      · have hreread : (s.setScan name step.scan).reread step.scan = s.reread step.scan := by
          cases step.scan <;> rfl
        exact hreread.trans (reread_next hnext)
  · -- the pattern is gone, so the step is refused
    have hstep : s.step c = s.refuse .danglingPattern := by
      rw [step_eq_advanceNamed hc, advanceNamed, hscan]
      exact if_neg hlive
    rw [hstep]
    exact ⟨⟨scan, hscan, hinput, (List.append_nil _).symm⟩, hreads⟩

/-- Other commands add nothing, unless they open another scan or overwrite what this one reads. -/
lemma other (hs : Recalls s name input told) (hsteps : c.steps name = false)
    (hopens : c.opens name = false) (hkept : c.overwrites input = false) :
    Recalls (s.step c).state name input told := by
  obtain ⟨⟨scan, hscan, rfl, rfl⟩, hreads⟩ := hs
  have hreads' : ∀ i, scan.input? = some i → ∃ bytes, s.read? i = some bytes ∧
      (s.step c).state.read? i = some bytes := by
    intro i hi
    obtain ⟨bytes, hbytes⟩ := hreads i hi
    exact ⟨bytes, hbytes, (step_effect s c).read?_eq hbytes (by rw [← hi]; exact hkept)⟩
  have halike : Alike name scan (s.step c).state s := {
    left := by rw [(step_effect s c).scan_eq hopens hsteps, hscan]
    right := hscan
    reads := fun i hi => by
      obtain ⟨bytes, hbytes, hbytes'⟩ := hreads' i hi
      exact ⟨bytes, hbytes', hbytes⟩ }
  refine ⟨⟨scan, halike.left, rfl, halike.reread_eq⟩, fun i hi => ?_⟩
  obtain ⟨bytes, -, hbytes⟩ := hreads' i hi
  exact ⟨bytes, hbytes⟩

lemma run (hs : Recalls s name input told)
    (hcs : ∀ c ∈ cs, c.opens name = false ∧ c.overwrites input = false) :
    Recalls (s.run cs).2 name input
      (told ++ (s.answersTo (Command.steps name) cs).filterMap Answer.remembered?) := by
  refine run_tells (P := fun s told => Recalls s name input told) hs ?_ ?_
  · intro s told hs c _ hsteps
    exact hs.step hsteps
  · intro s told hs c hc hsteps
    obtain ⟨hopens, hkept⟩ := hcs c hc
    exact hs.other hsteps hopens hkept

/-- What was told is what is reread. -/
lemma answer_reread (hs : Recalls s name input told) :
    (s.step (.reread name)).answer = .reread told := by
  obtain ⟨⟨scan, hscan, -, rfl⟩, -⟩ := hs
  rw [State.step, hscan]

end Recalls

end State

end Session

/-! ## Runs of both kinds of scans -/

namespace Scan

open Session

/-- Whatever the engine answers at each search, the first call that yields nothing or fails leaves
the scan at the end of its buffer, and every call on a scan at the end, also if a match has moved it
there, yields nothing, has the engine search nothing and leaves neither message nor change, for
ever; so a run fails at most once. What a scan told before it still tells, with the same offsets and
texts, whatever else a session does, as long as the buffer that a scan for groups reads is not
overwritten. -/
theorem exhaustion_is_final {n : ℕ} (hE : E.Sound code (E.groups code + 1))
    (hn : n < npos.toNat) :
    (∀ text : Bytes, text.length = n → ∀ calls, ∃ turns,
      run WholeScan.kind.next (WholeScan.ofText (.ofCode code) text) calls = .ok turns ∧
      run WholeScan.kind.call (WholeScan.ofText (.ofCode code) text) calls
        = .ok (turns.map (Turn.map WholeScan.kind.tell)) ∧
      Final WholeScan.kind n turns) ∧
    (∀ buffers : List Bytes, (∀ b ∈ buffers, b.length = n) → ∃ turns,
      run GroupScan.kind.next (GroupScan.ofLength (.ofCode code) n) buffers = .ok turns ∧
      run GroupScan.kind.call (GroupScan.ofLength (.ofCode code) n) buffers
        = .ok (turns.map (Turn.map GroupScan.kind.tell)) ∧
      Final GroupScan.kind n turns) ∧
    ∀ (s : State E) (name : Name) (scan : OpenScan E) (cs : List Command),
      s.scans.get? name = some scan →
      (∀ input, scan.input? = some input → ∃ bytes, s.read? input = some bytes) →
      (∀ c ∈ cs, c.opens name = false ∧ c.overwrites scan.input? = false) →
      ((s.run cs).2.step (.reread name)).answer = .reread (s.reread scan ++
        (s.answersTo (Command.steps name) cs).filterMap Answer.remembered?) := by
  refine ⟨?_, fun buffers hbuffers => ?_, ?_⟩
  · rintro text rfl calls
    have hcalls : ∀ c ∈ calls, True := fun _ _ => trivial
    obtain ⟨turns, hrun, hfinal⟩ := (WholeScan.course hE hn).final hcalls (Nat.zero_le _)
    exact ⟨turns, hrun, run_call_of_run hrun, hfinal⟩
  · obtain ⟨turns, hrun, hfinal⟩ := (GroupScan.course hE hn).final hbuffers (Nat.zero_le _)
    exact ⟨turns, hrun, run_call_of_run hrun, hfinal⟩
  · intro s name scan cs hscan hreads hcs
    have hopened : s.Recalls name scan.input? (s.reread scan) := ⟨⟨scan, hscan, rfl, rfl⟩, hreads⟩
    exact (hopened.run hcs).answer_reread

end Scan

/-! ## An engine that reads characters

It knows one pattern, `(*UTF)(?s).`, which matches one character in UTF-8, and fails on a subject
that starts in the middle of one.
-/

namespace OneCharacter

/-- The number of bytes of the character that a byte leads. -/
def size (lead : UInt8) : ℕ :=
  if lead < 0x80 then 1 else if lead < 0xe0 then 2 else if lead < 0xf0 then 3 else 4

/-- The slot of a group of a match of `size` bytes. -/
def slot (size : ℕ) : ℕ → Slot
  | 0 => ⟨0, UInt64.ofNat size⟩
  | _ => .unset

/-- The reply for a subject; -22 is the code of a byte that no lead stands before. -/
def search (subject : Bytes) (count : ℕ) : Reply :=
  match subject.head? with
  | none => Reply.without Reply.noMatchCode count
  | some lead =>
    if 0x80 ≤ lead ∧ lead < 0xc0 then Reply.without (-22) count
    else SamplePattern.reply 1 count (slot (min (size lead) subject.length))

lemma slot_within {size n : ℕ} (hsize : size ≤ n) (hn : n < npos.toNat) (i : ℕ) :
    (slot size i).Within n := by
  have hstop : (UInt64.ofNat size).toNat = size := toNat_ofNat_of_lt_npos (by omega)
  intro hset
  match i with
  | 0 =>
    simp only [slot, UInt64.le_iff_toNat_le, hstop]
    exact ⟨Nat.zero_le _, hsize⟩
  | i + 1 => simp [slot, Slot.isSet, Slot.unset] at hset

lemma search_sound {subject : Bytes} (hn : subject.length < npos.toNat) (count : ℕ) :
    (search subject count).Sound subject.length count := by
  unfold search
  cases subject.head? with
  | none => exact Reply.without_sound (by decide) _ _
  | some lead =>
    dsimp only
    split_ifs
    · exact Reply.without_sound (by decide) _ _
    · exact SamplePattern.reply_sound rfl (slot_within (Nat.min_le_right _ _) hn)

end OneCharacter

/-- The engine that reads characters. -/
def oneCharacter : Engine where
  Code := Unit
  compile pattern _ := if pattern = Bytes.ascii "(*UTF)(?s)." then .ok () else .error (186, 0)
  groups _ := 0
  search _ subject count := OneCharacter.search subject count

lemma oneCharacter_sound (count : ℕ) : oneCharacter.Sound () count :=
  fun _ hn => OneCharacter.search_sound hn count

namespace Scan

open Session

/-- In the two characters `C3 A9` and `61`, the second search starts in the middle of the first one
and fails. -/
theorem exhaustion_is_final_after_failure :
    let text : Bytes := [0xc3, 0xa9, 0x61]
    let s := (({} : State oneCharacter).run
      [.compile [1] (Bytes.ascii "(*UTF)(?s).") {}, .createBuffer [5] text,
        .openGroup [7] [1] (.buffer [5])]).2
    let scan : OpenScan oneCharacter := .group 0 (.ofLength (.ofCode ()) 3) (.buffer [5]) []
    let cs : List Command := [.next [7], .next [7], .drop [1], .next [7]]
    oneCharacter.Sound () (oneCharacter.groups () + 1) ∧ 3 < npos.toNat ∧ text.length = 3 ∧
    (∀ b ∈ [text, text, text], b.length = 3) ∧
    (∃ turns, run WholeScan.kind.next (WholeScan.ofText (.ofCode ()) text)
        [.next, .nextText, .next, .nextText] = .ok turns ∧
      turns.map (·.step.outcome)
        = [.found ⟨0, 2, some ⟨0, 2⟩⟩, .failed (.ofCode (-22)), .nothing, .nothing] ∧
      Final (WholeScan.kind (E := oneCharacter)) 3 turns) ∧
    (∃ turns, run GroupScan.kind.next (GroupScan.ofLength (.ofCode ()) 3) [text, text, text]
        = .ok turns ∧
      turns.map (·.step.outcome)
        = [.found [⟨0, 2, some ⟨0, 2⟩⟩], .failed (.ofCode (-22)), .nothing] ∧
      Final (GroupScan.kind (E := oneCharacter)) 3 turns) ∧
    s.scans.get? [7] = some scan ∧
    (∀ input, scan.input? = some input → ∃ bytes, s.read? input = some bytes) ∧
    (∀ c ∈ cs, c.opens [7] = false ∧ c.overwrites scan.input? = false) ∧
    ((s.run cs).2.step (.reread [7])).answer
      = .reread [.record [⟨0, 2, some [0xc3, 0xa9]⟩]] := by
  intro text s scan cs
  have hE := oneCharacter_sound (oneCharacter.groups () + 1)
  have hn : 3 < npos.toNat := by decide
  have hbuffers : ∀ b ∈ [text, text, text], b.length = 3 := by decide
  have hscan : s.scans.get? [7] = some scan := rfl
  have hreads : ∀ input, scan.input? = some input → ∃ bytes, s.read? input = some bytes := by
    intro input hinput
    cases hinput
    exact ⟨text, rfl⟩
  have hcs : ∀ c ∈ cs, c.opens [7] = false ∧ c.overwrites scan.input? = false := by decide
  obtain ⟨hwhole, hgroup, hrecall⟩ := exhaustion_is_final hE hn
  obtain ⟨turns, hrun, -, hfinal⟩ := hwhole text rfl [.next, .nextText, .next, .nextText]
  obtain ⟨turns', hrun', -, hfinal'⟩ := hgroup _ hbuffers
  refine ⟨hE, hn, rfl, hbuffers, ⟨turns, hrun, ?_, hfinal⟩, ⟨turns', hrun', ?_, hfinal'⟩, hscan,
    hreads, hcs, ?_⟩
  · cases hrun
    decide +kernel
  · cases hrun'
    decide +kernel
  · rw [hrecall s [7] scan cs hscan hreads hcs]
    decide

end Scan

end PatternScan
