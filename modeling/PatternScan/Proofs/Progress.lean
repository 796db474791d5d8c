import PatternScan.Proofs.Run

/-!
# Progress

Every call either yields a match that starts at or behind the position and moves one byte behind
that start, or leaves the scan at the end of the buffer. This is all that the two kinds of scans
have to show (`Scan.Course`); that a run keeps inside the buffer, that its matches start ever
further on, and that it yields and searches at most once for each byte follows by induction over
the calls (`Course.run`).
-/

namespace PatternScan

namespace Scan

variable {σ κ α : Type}

/-! ## What a run may do -/

namespace Kind

/-- Where the whole matches start that a run yields. -/
def starts (K : Kind σ κ α) (turns : List (Turn σ κ α)) : List ℕ :=
  turns.filterMap fun t =>
    match t.step.outcome with
    | .found a => some (K.whole a).start.toNat
    | _ => none

/-- A scan that stands inside a buffer of `n` bytes and has ended iff it stands at the end. -/
def Inside (K : Kind σ κ α) (n : ℕ) (s : σ) : Prop :=
  (K.position s).toNat ≤ n ∧ (K.isExhausted s = true ↔ (K.position s).toNat = n)

end Kind

/-- The turns of a run from position `k` of `n` bytes, each of which yields a whole match of a
certain shape and moves right behind its start, or yields none. -/
structure Progress (K : Kind σ κ α) (Shape : Span Extent → Prop) (n k : ℕ)
    (turns : List (Turn σ κ α)) : Prop where
  inside : ∀ t ∈ turns, K.Inside n t.scan ∧ K.Inside n t.step.scan
  settled : ∀ t ∈ turns, t.Settled K
  yields : ∀ t ∈ turns, ∀ a, t.step.outcome = .found a →
    (K.position t.scan).toNat ≤ (K.whole a).start.toNat ∧ (K.whole a).start.toNat ≤ n ∧
      (K.position t.step.scan).toNat = min ((K.whole a).start.toNat + 1) n ∧ Shape (K.whole a)
  starts_ge : ∀ start ∈ K.starts turns, k ≤ start
  starts_increasing : (K.starts turns).Pairwise (· < ·)
  starts_length : (K.starts turns).length ≤ n - k
  searches_length : (turns.filter K.searches).length ≤ n - k

/-! ## What a step has to do -/

/-- A step from position `k` of `n` bytes. -/
inductive Moves (K : Kind σ κ α) (Shape : Span Extent → Prop) (place : ℕ → σ) (n k : ℕ) :
    Step σ α → Prop
  | yields {a : α} {messages : List Log.Message} (lt : k < n)
      (ge : k ≤ (K.whole a).start.toNat) (le : (K.whole a).start.toNat ≤ n)
      (shape : Shape (K.whole a)) :
      Moves K Shape place n k
        ⟨.found a, place (min ((K.whole a).start.toNat + 1) n), messages⟩
  | nothing {messages : List Log.Message} : Moves K Shape place n k ⟨.nothing, place n, messages⟩
  | failed {failure : Failure} {messages : List Log.Message} :
      Moves K Shape place n k ⟨.failed failure, place n, messages⟩

/-- A step leads from place to place. -/
lemma Moves.exists_place {K : Kind σ κ α} {Shape : Span Extent → Prop} {place : ℕ → σ} {n k : ℕ}
    {step : Step σ α} (h : Moves K Shape place n k step) : ∃ j ≤ n, step.scan = place j := by
  cases h with
  | yields => exact ⟨_, Nat.min_le_right _ n, rfl⟩
  | nothing => exact ⟨n, Nat.le_refl n, rfl⟩
  | failed => exact ⟨n, Nat.le_refl n, rfl⟩

/-- A step that yields a match in the rest of the buffer. -/
lemma Moves.of_match {K : Kind σ κ α} {Shape : Span Extent → Prop} {place : ℕ → σ} {n k : ℕ}
    {a : α} {m : Match} {messages : List Log.Message} (hm : m.WholeFits (n - k)) (hlt : k < n)
    (hn : n < npos.toNat) (hwhole : K.whole a = m.whole.behind k)
    (hshape : Shape (m.whole.behind k)) :
    Moves K Shape place n k
      ⟨.found a, place (min (k + m.whole.start.toNat + 1) n), messages⟩ := by
  obtain ⟨hle, hstop⟩ := hm.within.bounds hm.isSet
  obtain ⟨hstarts, -⟩ := Slot.behind_bounds hm.isSet hm.within (Nat.le_of_lt hlt) hn
  rw [← hstarts, ← hwhole]
  rw [← hwhole] at hstarts hshape
  exact .yields hlt (by omega) (by omega) hshape

/-- A kind of scan with a place for every position of a buffer of `n` bytes, whose steps lead from
place to place as long as the calls are allowed. -/
structure Course (K : Kind σ κ α) (Shape : Span Extent → Prop) (place : ℕ → σ)
    (Allowed : κ → Prop) (n : ℕ) : Prop where
  position_eq : ∀ k ≤ n, (K.position (place k)).toNat = k
  isExhausted_eq : ∀ k ≤ n, K.isExhausted (place k) = decide (k = n)
  rest?_at_end : ∀ c, Allowed c → K.rest? (place n) c = .ok none
  moves : ∀ k ≤ n, ∀ c, Allowed c → ∃ step, K.next (place k) c = .ok step ∧
    Moves K Shape place n k step

namespace Course

variable {K : Kind σ κ α} {Shape : Span Extent → Prop} {place : ℕ → σ} {Allowed : κ → Prop}
  {n k : ℕ}

lemma inside (h : Course K Shape place Allowed n) (hk : k ≤ n) : K.Inside n (place k) := by
  unfold Kind.Inside
  rw [h.position_eq k hk, h.isExhausted_eq k hk, decide_eq_true_iff]
  exact ⟨hk, Iff.rfl⟩

lemma isExhausted_of_lt (h : Course K Shape place Allowed n) (hk : k < n) :
    K.isExhausted (place k) = false := by
  rw [h.isExhausted_eq k (Nat.le_of_lt hk)]
  exact decide_eq_false (Nat.ne_of_lt hk)

lemma isExhausted_at_end (h : Course K Shape place Allowed n) :
    K.isExhausted (place n) = true := by
  rw [h.isExhausted_eq n (Nat.le_refl n)]
  exact decide_eq_true rfl

/-- There is nothing to search at the end, so a step does nothing. -/
lemma next_at_end (h : Course K Shape place Allowed n) {c : κ} (hc : Allowed c) :
    K.next (place n) c = .ok ⟨.nothing, place n, []⟩ :=
  K.next_of_none (h.rest?_at_end c hc)

/-- A turn that yields a match, in front of the turns from behind its start. -/
lemma progress_yields (h : Course K Shape place Allowed n) {turns : List (Turn σ κ α)} {c : κ}
    {a : α} {messages : List Log.Message}
    (hstep : K.next (place k) c
      = .ok ⟨.found a, place (min ((K.whole a).start.toNat + 1) n), messages⟩)
    (hlt : k < n) (hge : k ≤ (K.whole a).start.toNat)
    (hle : (K.whole a).start.toNat ≤ n) (hshape : Shape (K.whole a))
    (hturns : Progress K Shape n (min ((K.whole a).start.toNat + 1) n) turns) :
    Progress K Shape n k
      (⟨place k, c, ⟨.found a, place (min ((K.whole a).start.toNat + 1) n), messages⟩⟩
        :: turns) := by
  set start := (K.whole a).start.toNat with hstart
  have hnext : min (start + 1) n ≤ n := Nat.min_le_right _ _
  have hfilter := List.length_filter_le K.searches turns
  have hstarts : K.starts (⟨place k, c, ⟨.found a, place (min (start + 1) n), messages⟩⟩ :: turns)
      = start :: K.starts turns := rfl
  refine ⟨?_, List.forall_mem_cons.mpr ⟨.of_next hstep, hturns.settled⟩, ?_, ?_, ?_, ?_, ?_⟩
  · intro t ht
    rcases List.mem_cons.mp ht with rfl | ht
    · exact ⟨h.inside (Nat.le_of_lt hlt), h.inside hnext⟩
    · exact hturns.inside t ht
  · intro t ht a' ha'
    rcases List.mem_cons.mp ht with rfl | ht
    · cases ha'
      rw [h.position_eq k (Nat.le_of_lt hlt), h.position_eq _ hnext]
      exact ⟨hge, hle, rfl, hshape⟩
    · exact hturns.yields t ht a' ha'
  · intro start' hmem
    rw [hstarts] at hmem
    rcases List.mem_cons.mp hmem with rfl | hmem
    · exact hge
    · have := hturns.starts_ge start' hmem
      omega
  · -- a match that starts at the end leaves no room for another one
    rw [hstarts, List.pairwise_cons]
    refine ⟨fun start' hmem => ?_, hturns.starts_increasing⟩
    have hge' := hturns.starts_ge start' hmem
    have hpos := List.length_pos_of_mem hmem
    have hlength := hturns.starts_length
    omega
  · rw [hstarts, List.length_cons]
    have := hturns.starts_length
    omega
  · have hle' := hturns.searches_length
    rw [List.filter_cons]
    split_ifs
    · rw [List.length_cons]
      omega
    · omega

/-- A turn that yields no match, in front of the turns at the end. -/
lemma progress_ends (h : Course K Shape place Allowed n) {turns : List (Turn σ κ α)} {c : κ}
    {outcome : Outcome α} {messages : List Log.Message}
    (hstep : K.next (place k) c = .ok ⟨outcome, place n, messages⟩) (hc : Allowed c) (hk : k ≤ n)
    (houtcome : ∀ a, outcome ≠ .found a) (hturns : Progress K Shape n n turns) :
    Progress K Shape n k (⟨place k, c, ⟨outcome, place n, messages⟩⟩ :: turns) := by
  have hstarts : K.starts (⟨place k, c, ⟨outcome, place n, messages⟩⟩ :: turns)
      = K.starts turns := by
    cases outcome with
    | found a => exact absurd rfl (houtcome a)
    | nothing => rfl
    | failed failure => rfl
  refine ⟨?_, List.forall_mem_cons.mpr ⟨.of_next hstep, hturns.settled⟩, ?_, ?_, ?_, ?_, ?_⟩
  · intro t ht
    rcases List.mem_cons.mp ht with rfl | ht
    · exact ⟨h.inside hk, h.inside (Nat.le_refl n)⟩
    · exact hturns.inside t ht
  · intro t ht a ha
    rcases List.mem_cons.mp ht with rfl | ht
    · exact absurd ha (houtcome a)
    · exact hturns.yields t ht a ha
  · intro start hmem
    rw [hstarts] at hmem
    have := hturns.starts_ge start hmem
    omega
  · rw [hstarts]
    exact hturns.starts_increasing
  · rw [hstarts]
    have := hturns.starts_length
    omega
  · have hle := hturns.searches_length
    rw [List.filter_cons]
    split_ifs with hsearches
    · -- only a turn from before the end asks the engine
      have hlt : k ≠ n := by
        rintro rfl
        rw [Kind.searches, h.rest?_at_end c hc] at hsearches
        exact absurd hsearches Bool.false_ne_true
      rw [List.length_cons]
      omega
    · omega

/-- A run makes progress. -/
lemma run (h : Course K Shape place Allowed n) {calls : List κ}
    (hcalls : ∀ c ∈ calls, Allowed c) (hk : k ≤ n) :
    ∃ turns, Scan.run K.next (place k) calls = .ok turns ∧ Progress K Shape n k turns := by
  -- the induction is on the calls; each of them leads from one position to the next
  induction calls generalizing k with
  | nil =>
    refine ⟨[], rfl, ⟨?_, ?_, ?_, ?_, ?_, ?_, ?_⟩⟩ <;> simp [Kind.starts]
  | cons c calls ih =>
    have hc := hcalls c List.mem_cons_self
    have hcalls' : ∀ c ∈ calls, Allowed c := fun c' hc' => hcalls c' (List.mem_cons_of_mem c hc')
    obtain ⟨step, hstep, hmoves⟩ := h.moves k hk c hc
    cases hmoves with
    | @yields a messages lt ge le shape =>
      obtain ⟨turns, hrun, hprogress⟩ := ih hcalls' (Nat.min_le_right _ n)
      refine ⟨⟨place k, c, ⟨.found a, _, messages⟩⟩ :: turns, ?_,
        h.progress_yields hstep lt ge le shape hprogress⟩
      rw [run_cons hstep, hrun]
      rfl
    | @nothing messages =>
      obtain ⟨turns, hrun, hprogress⟩ := ih hcalls' (Nat.le_refl n)
      refine ⟨⟨place k, c, ⟨.nothing, _, messages⟩⟩ :: turns, ?_,
        h.progress_ends hstep hc hk (by simp) hprogress⟩
      rw [run_cons hstep, hrun]
      rfl
    | @failed failure messages =>
      obtain ⟨turns, hrun, hprogress⟩ := ih hcalls' (Nat.le_refl n)
      refine ⟨⟨place k, c, ⟨.failed failure, _, messages⟩⟩ :: turns, ?_,
        h.progress_ends hstep hc hk (by simp) hprogress⟩
      rw [run_cons hstep, hrun]
      rfl

/-- A drain ends, with at most one result for each byte left. -/
lemma drain_ends (h : Course K Shape place Allowed n) {c : κ} (hc : Allowed c) {limit : ℕ}
    (hk : k ≤ n) (hlimit : n - k < limit) :
    ∃ d, drain (K.call · c) limit (place k) = .ok (some d) ∧ d.yields.length ≤ n - k := by
  -- each result moves the position on, so the limit is not used up before the bytes are
  induction limit generalizing k with
  | zero => omega
  | succ limit ih =>
    obtain ⟨step, hstep, hmoves⟩ := h.moves k hk c hc
    have hcall := K.call_of_next hstep
    cases hmoves with
    | @yields a messages lt ge le shape =>
      obtain ⟨d, hdrain, hlength⟩ :=
        ih (k := min ((K.whole a).start.toNat + 1) n) (Nat.min_le_right _ n) (by omega)
      refine ⟨_, drain_found hcall hdrain, ?_⟩
      rw [Drained.cons, List.length_cons]
      omega
    | nothing => exact ⟨_, drain_nothing hcall limit, Nat.zero_le _⟩
    | failed => exact ⟨_, drain_failed hcall limit, Nat.zero_le _⟩

end Course

end Scan

/-! ## The two kinds of scans -/

variable {E : Engine} {code : E.Code}

namespace WholeScan

/-- A match of a scan for whole matches may be empty. -/
lemma course {text : Bytes} (hE : E.Sound code (E.groups code + 1))
    (hn : text.length < npos.toNat) :
    Scan.Course kind (fun span => span.start ≤ span.stop ∧ span.stop.toNat ≤ text.length)
      (ofPosition (.ofCode code) text) (fun _ => True) text.length where
  position_eq _ hk := position_ofPosition (p := .ofCode code) hk hn
  isExhausted_eq _ hk := isExhausted_ofPosition (p := .ofCode code) hk hn
  rest?_at_end := by
    intro c _
    show rest? _ = _
    rw [rest?, ofPosition, Cursor.rest?_at_end _ hn]
  moves := by
    intro k hk c _
    rcases Nat.lt_or_eq_of_le hk with hlt | rfl
    · refine ⟨_, next_of_lt hE hlt hn, ?_⟩
      rcases hfind : (Compiled.ofCode code).find (text.drop k) with failure | _ | m
      · exact .failed
      · exact .nothing
      · have hm := (Compiled.find_drop_fits hE hn hfind).wholeFits
        obtain ⟨hle, hstop⟩ := hm.within.bounds hm.isSet
        obtain ⟨hstarts, hstops⟩ := Slot.behind_bounds hm.isSet hm.within hk hn
        refine .of_match hm hlt hn rfl ⟨?_, ?_⟩
        · rw [UInt64.le_iff_toNat_le, hstarts, hstops]
          omega
        · omega
    · exact ⟨_, next_at_end hn, .nothing⟩

end WholeScan

namespace GroupScan

/-- What the whole match of a record is. -/
lemma whole_map_behind (E : Engine) (m : Match) (k : ℕ) :
    (kind (E := E)).whole (m.slots.map (Slot.behind · k)) = m.whole.behind k := by
  rw [Match.whole]
  rcases m.slots with _ | ⟨w, rest⟩ <;> rfl

/-- A match of a scan for groups is not empty; the buffer may change between two calls, but not its
length. -/
lemma course {n : ℕ} (hE : E.Sound code (E.groups code + 1)) (hn : n < npos.toNat) :
    Scan.Course kind (fun span => span.start < span.stop ∧ span.stop.toNat ≤ n)
      (ofPosition (.ofCode code) n) (·.length = n) n where
  position_eq _ hk := position_ofPosition (p := .ofCode code) hk hn
  isExhausted_eq _ hk := isExhausted_ofPosition (p := .ofCode code) hk hn
  rest?_at_end := by
    intro buffer _
    show rest? _ buffer = _
    rw [rest?, ofPosition, Cursor.rest?_at_end _ hn]
  moves := by
    rintro k hk buffer rfl
    rcases Nat.lt_or_eq_of_le hk with hlt | rfl
    · refine ⟨_, next_of_lt hE hlt hn, ?_⟩
      rcases hfind : (Compiled.ofCode code).find (buffer.drop k) with failure | _ | m
      · exact .failed
      · exact .nothing
      · have hm := (Compiled.find_drop_fits hE hn hfind).wholeFits
        obtain ⟨hle, hstop⟩ := hm.within.bounds hm.isSet
        obtain ⟨hstarts, hstops⟩ := Slot.behind_bounds hm.isSet hm.within hk hn
        by_cases hempty : m.whole.start = m.whole.stop
        · rw [stepFrom, if_pos hempty]
          exact .nothing
        · have hne : m.whole.start.toNat ≠ m.whole.stop.toNat := fun h =>
            hempty (UInt64.toNat_inj.mp h)
          rw [stepFrom, if_neg hempty]
          refine .of_match hm hlt hn (whole_map_behind E m k) ⟨?_, ?_⟩
          · rw [UInt64.lt_iff_toNat_lt, hstarts, hstops]
            omega
          · omega
    · exact ⟨_, next_at_end buffer hn, .nothing⟩

end GroupScan

namespace Scan

/-- Every run of calls on a scan makes progress, and every drain ends: the position stays in the
buffer and the scan has ended iff it is at the end; a match starts between the position and the
end, and the position moves one byte behind that start, as far as the buffer goes; the matches
start ever further on; and for each byte, at most one match is yielded and one search is made. -/
theorem runs_progress {buffer : Bytes} (hE : E.Sound code (E.groups code + 1))
    (hn : buffer.length < npos.toNat) :
    (∀ calls : List WholeScan.Call, ∃ turns,
      run WholeScan.kind.next (WholeScan.ofText (.ofCode code) buffer) calls = .ok turns ∧
      run WholeScan.kind.call (WholeScan.ofText (.ofCode code) buffer) calls
        = .ok (turns.map (Turn.map WholeScan.kind.tell)) ∧
      Progress WholeScan.kind (fun span => span.start ≤ span.stop ∧
        span.stop.toNat ≤ buffer.length) buffer.length 0 turns) ∧
    (∀ buffers : List Bytes, (∀ b ∈ buffers, b.length = buffer.length) → ∃ turns,
      run GroupScan.kind.next (GroupScan.ofLength (.ofCode code) buffer.length) buffers
        = .ok turns ∧
      run GroupScan.kind.call (GroupScan.ofLength (.ofCode code) buffer.length) buffers
        = .ok (turns.map (Turn.map GroupScan.kind.tell)) ∧
      Progress GroupScan.kind (fun span => span.start < span.stop ∧
        span.stop.toNat ≤ buffer.length) buffer.length 0 turns) ∧
    ∀ limit, buffer.length < limit →
      (∀ call : WholeScan.Call, ∃ d,
        drain (WholeScan.kind.call · call) limit (WholeScan.ofText (.ofCode code) buffer)
          = .ok (some d) ∧ d.yields.length ≤ buffer.length) ∧
      ∃ d, drain (GroupScan.kind.call · buffer) limit
          (GroupScan.ofLength (.ofCode code) buffer.length) = .ok (some d) ∧
        d.yields.length ≤ buffer.length := by
  have hwhole := WholeScan.course hE hn
  have hgroup := GroupScan.course hE hn
  refine ⟨fun calls => ?_, fun buffers hbuffers => ?_, fun limit hlimit => ⟨fun call => ?_, ?_⟩⟩
  · obtain ⟨turns, hrun, hprogress⟩ := hwhole.run (fun c _ => trivial) (Nat.zero_le _)
    refine ⟨turns, hrun, ?_, hprogress⟩
    rw [Kind.run_call, WholeScan.ofText_eq, hrun]
    rfl
  · obtain ⟨turns, hrun, hprogress⟩ := hgroup.run hbuffers (Nat.zero_le _)
    refine ⟨turns, hrun, ?_, hprogress⟩
    rw [Kind.run_call, GroupScan.ofLength_eq, hrun]
    rfl
  · exact hwhole.drain_ends (c := call) trivial (Nat.zero_le _) hlimit
  · exact hgroup.drain_ends (c := buffer) rfl (Nat.zero_le _) hlimit

/-- In `xxa`, with calls of both sorts and with a buffer that changes under the scan for groups:
three matches for three bytes, and two records of which the second is of another buffer. -/
theorem runs_progress_on_xxa :
    sample.Sound (.star 120) (sample.groups (.star 120) + 1) ∧
      (Bytes.ascii "xxa").length < npos.toNat ∧
      (∀ b ∈ [Bytes.ascii "xxa", Bytes.ascii "axx"], b.length = (Bytes.ascii "xxa").length) ∧
      (Bytes.ascii "xxa").length < 4 ∧
      (∃ turns,
        run WholeScan.kind.next (WholeScan.ofText sampleStar (Bytes.ascii "xxa"))
          [.next, .nextText, .next, .next, .nextText] = .ok turns ∧
        Progress WholeScan.kind (fun span => span.start ≤ span.stop ∧ span.stop.toNat ≤ 3) 3 0
          turns ∧
        turns.map (fun t => (t.step.outcome, t.step.scan.position))
          = [(.found ⟨0, 2, some ⟨0, 2⟩⟩, 1), (.found ⟨1, 2, some ⟨1, 1⟩⟩, 2),
            (.found ⟨2, 2, some ⟨2, 0⟩⟩, 3), (.nothing, 3), (.nothing, 3)] ∧
        WholeScan.kind.starts turns = [0, 1, 2] ∧
        turns.map WholeScan.kind.searches = [true, true, true, false, false]) ∧
      (∃ turns,
        run GroupScan.kind.next (GroupScan.ofLength sampleStar 3)
          [Bytes.ascii "xxa", Bytes.ascii "axx"] = .ok turns ∧
        Progress GroupScan.kind (fun span => span.start < span.stop ∧ span.stop.toNat ≤ 3) 3 0
          turns ∧
        turns.map (fun t => (t.step.outcome.map (Record.read · t.call), t.step.scan.position))
          = [(.found [⟨0, 2, some (Bytes.ascii "xx")⟩, ⟨1, 2, some (Bytes.ascii "x")⟩], 1),
            (.found [⟨1, 3, some (Bytes.ascii "xx")⟩, ⟨2, 3, some (Bytes.ascii "x")⟩], 2)]) ∧
      ∃ d, drain (GroupScan.kind.call · (Bytes.ascii "xxa")) 4 (GroupScan.ofLength sampleStar 3)
          = .ok (some d) ∧
        d.yields.length ≤ 3 ∧ d.yields.length = 2 := by
  have hE := sample_sound (.star 120) (sample.groups (.star 120) + 1)
  have hn : (Bytes.ascii "xxa").length < npos.toNat := by decide
  have hbuffers : ∀ b ∈ [Bytes.ascii "xxa", Bytes.ascii "axx"],
      b.length = (Bytes.ascii "xxa").length := by decide
  have hlimit : (Bytes.ascii "xxa").length < 4 := by decide
  obtain ⟨hwhole, hgroup, hdrain⟩ := runs_progress hE hn
  obtain ⟨turns, hrun, -, hprogress⟩ := hwhole [.next, .nextText, .next, .next, .nextText]
  obtain ⟨turns', hrun', -, hprogress'⟩ := hgroup _ hbuffers
  obtain ⟨d, hd, hlength⟩ := (hdrain 4 hlimit).2
  refine ⟨hE, hn, hbuffers, hlimit, ⟨turns, hrun, hprogress, ?_⟩, ⟨turns', hrun', hprogress', ?_⟩,
    d, hd, hlength, ?_⟩
  · cases hrun
    decide
  · cases hrun'
    decide
  · cases hd
    rfl

end Scan

end PatternScan
