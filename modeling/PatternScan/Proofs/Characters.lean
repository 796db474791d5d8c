import PatternScan.Proofs.Exhaustion
import PatternScan.Proofs.Validity

/-!
# Byte by byte over characters

A scan goes on one byte behind the start of a match. Over text in UTF-8, with an engine that minds
it, that is right behind a character of one byte, but in the middle of any other; there the next
search fails, and the scan is over. Four things live here:

* `Engine.MindsUtf8`, what is documented of an engine for patterns in UTF-8, and how far this
  library's own is such an engine (`Pattern.engine_mindsUtf8`);
* `Scan.Stands`, where a scan may stand: at a boundary, or in the middle of the character that its
  last match started at;
* `Scan.ByCharacters` and `Scan.Drained.ByCharacters`, what runs and drains over characters are;
* `Scan.multibyte_start_ends_scan`, by which those of both kinds of scans are like that.
-/

namespace PatternScan

open Pattern.Utf8 (Valid Boundary Narrow Wide)

/-! ## Engines that mind UTF-8 -/

/-- What is documented of an engine for a pattern in UTF-8 that is searched for with `count` slots.
Some codes say that a subject is not valid: they are negative, and none says that there is no
match. They are the replies to subjects that are not valid, and no others; and a match in a valid
subject starts at a boundary. -/
structure Engine.MindsUtf8 (E : Engine) (code : E.Code) (count : ℕ) (flaws : Set Int) : Prop where
  flaws_negative : ∀ flaw ∈ flaws, flaw < 0 ∧ flaw ≠ Reply.noMatchCode
  invalid : ∀ subject : Bytes, subject.length < npos.toNat → ¬Valid subject →
    (E.search code subject count).code ∈ flaws
  valid : ∀ subject : Bytes, subject.length < npos.toNat → Valid subject →
    (E.search code subject count).code ∉ flaws
  start : ∀ subject : Bytes, subject.length < npos.toNat → Valid subject →
    0 ≤ (E.search code subject count).code →
    ∀ whole ∈ (E.search code subject count).slots.head?, Boundary subject whole.start.toNat

namespace Engine.MindsUtf8

variable {E : Engine} {code : E.Code} {flaws : Set Int} {subject : Bytes}

/-- A subject that is not valid fails with one of the codes. -/
lemma find_of_not_valid (hE : E.MindsUtf8 code (E.groups code + 1) flaws)
    (hn : subject.length < npos.toNat) (hsubject : ¬Valid subject) :
    ∃ failure, (Compiled.ofCode code).find subject = .error failure ∧ failure.code ∈ flaws := by
  have hmem := hE.invalid subject hn hsubject
  obtain ⟨hneg, hne⟩ := hE.flaws_negative _ hmem
  refine ⟨.ofCode (E.search code subject (E.groups code + 1)).code, ?_, hmem⟩
  show Match.settle _ _ (E.search code subject (E.groups code + 1)) = _
  rw [Match.settle, if_neg hne, if_pos hneg]

/-- A valid one fails with none of them. -/
lemma code_of_find_error (hE : E.MindsUtf8 code (E.groups code + 1) flaws)
    (hn : subject.length < npos.toNat) (hsubject : Valid subject) {failure : Failure}
    (h : (Compiled.ofCode code).find subject = .error failure) : failure.code ∉ flaws := by
  have hnot := hE.valid subject hn hsubject
  change Match.settle _ _ _ = _ at h
  unfold Match.settle at h
  split_ifs at h
  cases h
  exact hnot

/-- A match that is found in a valid one starts at a boundary. -/
lemma boundary_of_find (hE : E.MindsUtf8 code (E.groups code + 1) flaws)
    (hn : subject.length < npos.toNat) (hsubject : Valid subject) {m : Match} {groups n : ℕ}
    (hm : (Compiled.ofCode code).find subject = .ok (some m)) (hfits : m.Fits groups n) :
    Boundary subject m.whole.start.toNat := by
  obtain ⟨whole, rest, hslots, -⟩ := hfits.exists_slots
  obtain ⟨hcode, hreply⟩ := Match.settle_eq_some_iff.mp hm
  have hreplied : (E.search code subject (E.groups code + 1)).slots = whole :: rest := by
    rw [← hslots, hreply]
    rfl
  have hwhole : m.whole = whole := by
    rw [Match.whole, hslots]
    rfl
  rw [hwhole]
  apply hE.start subject hn hsubject hcode
  rw [hreplied]
  rfl

end Engine.MindsUtf8

/-- What this library's engine compiles behind `(*UTF)` is searched for so, if the matches start at
boundaries; by `\C`, which matches a byte, some need not. -/
lemma Pattern.engine_mindsUtf8 {pattern : Bytes} {mask : UInt32} {c : Pattern.Code}
    (hc : Pattern.engine.compile (Bytes.ascii "(*UTF)" ++ pattern) mask = .ok c)
    (hstart : ∀ subject, Valid subject → ∀ r, c.search subject = .found r →
      Boundary subject r.start) (count : ℕ) :
    Pattern.engine.MindsUtf8 c count Pattern.Utf8.flawCodes where
  flaws_negative _ := Pattern.Utf8.neg_of_mem_flawCodes
  invalid subject _ hsubject :=
    (Pattern.engine_flaw_iff (Pattern.setup_utf_of_engine_compile hc) subject count).mpr hsubject
  valid subject _ hsubject hmem :=
    (Pattern.engine_flaw_iff (Pattern.setup_utf_of_engine_compile hc) subject count).mp hmem
      hsubject
  start := by
    intro subject hn hsubject hcode
    obtain ⟨r, hfound⟩ :=
      Pattern.exists_found_of_code_nonneg (Pattern.setup_utf_of_engine_compile hc) hcode
    have hboundary := hstart subject hsubject r hfound
    show ∀ whole ∈ ((c.search subject).reply count).slots.head?, _
    rw [hfound]
    intro whole hwhole
    rcases count with _ | count
    · cases hwhole
    · rw [Pattern.Answer.reply, Pattern.Reply.ofRegs, List.range_succ_eq_map] at hwhole
      cases hwhole
      have hle := hboundary.le
      show Boundary subject (UInt64.ofNat r.start).toNat
      rw [toNat_ofNat_of_lt_npos (by omega)]
      exact hboundary

namespace Scan

variable {σ κ α : Type}

/-! ## Calls and characters -/

/-- Whether an outcome is a failure of a subject that is not valid. -/
def Outcome.IsFlaw (flaws : Set Int) (outcome : Outcome α) : Prop :=
  ∃ failure, outcome = .failed failure ∧ failure.code ∈ flaws

/-- Whether an outcome is a match that starts at the first of several bytes of a character. -/
def Kind.StartsWide (K : Kind σ κ α) (text : Bytes) (outcome : Outcome α) : Prop :=
  ∃ a, outcome = .found a ∧ Wide text (K.whole a).start.toNat

/-- The turns of a run over characters: a call fails for its subject iff the call before it yielded
a match that starts at the first of several bytes of a character, after which nothing is yielded;
and every match starts at a character of one byte, at one of several, or at the end. -/
structure ByCharacters (K : Kind σ κ α) (text : Bytes) (flaws : Set Int)
    (turns : List (Turn σ κ α)) : Prop where
  flaw_iff : ∀ front t rest, turns = front ++ t :: rest →
    (t.step.outcome.IsFlaw flaws ↔ ∃ before ∈ front.getLast?, K.StartsWide text before.step.outcome)
  lost : ∀ front t rest, turns = front ++ t :: rest → K.StartsWide text t.step.outcome →
    ∀ later ∈ rest, ∀ a, later.step.outcome ≠ .found a
  starts : ∀ t ∈ turns, ∀ a, t.step.outcome = .found a →
    (K.whole a).start.toNat = text.length ∨ Narrow text (K.whole a).start.toNat ∨
      Wide text (K.whole a).start.toNat

/-- A drain over characters: it ends on a failure for its subject iff a match was yielded that
starts at the first of several bytes of a character, so it is free of that iff each match starts at
a character of one byte or at the end; and a match of the first sort is the last one. -/
structure Drained.ByCharacters (K : Kind σ κ α) (text : Bytes) (flaws : Set Int)
    (d : Drained σ α) : Prop where
  flaw_iff : (∃ failure ∈ d.failure, failure.code ∈ flaws) ↔
    ∃ y ∈ d.yields, Wide text (K.whole y.1).start.toNat
  free_iff : (¬∃ failure ∈ d.failure, failure.code ∈ flaws) ↔
    ∀ y ∈ d.yields, (K.whole y.1).start.toNat = text.length ∨ Narrow text (K.whole y.1).start.toNat
  last : ∀ front y rest, d.yields = front ++ y :: rest → Wide text (K.whole y.1).start.toNat →
    rest = []

/-! ## Where a scan stands -/

/-- Position `k` of a text, as a scan comes to it: at a boundary, unless the scan is behind the
first of several bytes of a character. -/
def Stands (text : Bytes) (k : ℕ) (inside : Prop) : Prop :=
  (Boundary text k ∧ ¬inside) ∨ (k < text.length ∧ ¬Valid (text.drop k) ∧ inside)

namespace Stands

variable {text : Bytes} {p : ℕ} {inside : Prop}

/-- At the end of a text, a scan is not inside a character. -/
lemma of_end (htext : Valid text) (hnot : ¬inside) : Stands text text.length inside :=
  .inl ⟨htext.boundary_length, hnot⟩

lemma not_inside (h : Stands text text.length inside) : ¬inside := by
  rcases h with ⟨-, hnot⟩ | ⟨hlt, -⟩
  · exact hnot
  · exact absurd hlt (Nat.lt_irrefl _)

/-- One byte behind the start of a match is a boundary, unless the match starts at the first of
several bytes of a character. -/
lemma of_start (hp : Boundary text p) : Stands text (min (p + 1) text.length) (Wide text p) := by
  rcases hp.cases with rfl | hnarrow | hwide
  · -- a match at the end leaves the scan there
    rw [Nat.min_eq_right (Nat.le_succ _)]
    refine .inl ⟨?_, fun hwide => ?_⟩
    · exact hp
    · have := hwide.succ_lt
      omega
  · have hlt := hnarrow.lt
    rw [Nat.min_eq_left hlt]
    exact .inl ⟨hnarrow.boundary_succ, fun hwide =>
      hwide.not_valid_drop hnarrow.boundary_succ.valid_drop⟩
  · have hlt := hwide.succ_lt
    rw [Nat.min_eq_left (Nat.le_of_lt hlt)]
    exact .inr ⟨hlt, hwide.not_valid_drop, hwide⟩

end Stands

/-- A kind of scan whose steps mind where they start: inside a character they fail, and at a
boundary they do not and yield matches that start at one. -/
def MindsCharacters (K : Kind σ κ α) (place : ℕ → σ) (Allowed : κ → Prop) (text : Bytes)
    (flaws : Set Int) : Prop :=
  ∀ k inside, k ≤ text.length → Stands text k inside → ∀ c, Allowed c → ∀ step,
    K.next (place k) c = .ok step → (step.outcome.IsFlaw flaws ↔ inside) ∧
      ∀ a, step.outcome = .found a → Boundary text (K.whole a).start.toNat

/-! ## Runs and drains -/

section
variable {K : Kind σ κ α} {text : Bytes} {flaws : Set Int}

/-- The turns of a run whose first call is made at a boundary or, if `inside` says so, inside a
character, where it fails and nothing is yielded. -/
structure ByCharactersFrom (K : Kind σ κ α) (text : Bytes) (flaws : Set Int) (inside : Prop)
    (turns : List (Turn σ κ α)) : Prop where
  flaw_iff : ∀ front t rest, turns = front ++ t :: rest →
    (t.step.outcome.IsFlaw flaws ↔
      front.getLast?.elim inside fun before => K.StartsWide text before.step.outcome)
  lost : ∀ front t rest, turns = front ++ t :: rest → K.StartsWide text t.step.outcome →
    ∀ later ∈ rest, ∀ a, later.step.outcome ≠ .found a
  silent : inside → ∀ t ∈ turns, ∀ a, t.step.outcome ≠ .found a
  starts : ∀ t ∈ turns, ∀ a, t.step.outcome = .found a → Boundary text (K.whole a).start.toNat

namespace ByCharactersFrom

variable {inside : Prop} {turns : List (Turn σ κ α)}

lemma nil : ByCharactersFrom K text flaws inside [] where
  flaw_iff front _ _ h := absurd h.symm (by simp)
  lost front _ _ h := absurd h.symm (by simp)
  silent _ _ h := absurd h List.not_mem_nil
  starts _ h := absurd h List.not_mem_nil

/-- One more turn in front; once a call yields nothing, no later one yields anything. -/
lemma cons {t : Turn σ κ α}
    (h : ByCharactersFrom K text flaws (K.StartsWide text t.step.outcome) turns)
    (hflaw : t.step.outcome.IsFlaw flaws ↔ inside)
    (hstarts : ∀ a, t.step.outcome = .found a → Boundary text (K.whole a).start.toNat)
    (hover : (∀ a, t.step.outcome ≠ .found a) → ∀ u ∈ turns, ∀ a, u.step.outcome ≠ .found a) :
    ByCharactersFrom K text flaws inside (t :: turns) where
  flaw_iff := by
    intro front u rest heq
    rcases front with _ | ⟨first, front⟩
    · cases heq
      exact hflaw
    · cases heq
      rw [h.flaw_iff front u rest rfl, List.getLast?_cons]
      -- the turn before is the last one of the front, or this one if the front is empty
      rcases front.getLast? with _ | before <;> rfl
  lost := by
    intro front u rest heq hwide
    rcases front with _ | ⟨first, front⟩
    · cases heq
      exact h.silent hwide
    · cases heq
      exact h.lost front u rest rfl hwide
  silent := by
    intro hinside
    obtain ⟨failure, hfailed, -⟩ := hflaw.mpr hinside
    have hnone : ∀ a, t.step.outcome ≠ .found a := by
      intro a hfound
      rw [hfailed] at hfound
      cases hfound
    intro u hu
    rcases List.mem_cons.mp hu with rfl | hu
    · exact hnone
    · exact hover hnone u hu
  starts := by
    intro u hu
    rcases List.mem_cons.mp hu with rfl | hu
    · exact hstarts
    · exact h.starts u hu

/-- A run from a boundary on. -/
lemma byCharacters (h : ByCharactersFrom K text flaws inside turns) (hnot : ¬inside) :
    ByCharacters K text flaws turns where
  flaw_iff := by
    intro front t rest heq
    rw [h.flaw_iff front t rest heq]
    rcases front.getLast? with _ | before <;> simp [hnot]
  lost := h.lost
  starts t ht a ha := (h.starts t ht a ha).cases

end ByCharactersFrom

namespace Course

variable {Shape : Span Extent → Prop} {place : ℕ → σ} {Allowed : κ → Prop} {k : ℕ} {inside : Prop}

/-- A course is one for fewer calls, too. -/
lemma mono {Allowed' : κ → Prop} {n : ℕ} (h : Course K Shape place Allowed n)
    (hallowed : ∀ c, Allowed' c → Allowed c) : Course K Shape place Allowed' n where
  position_eq := h.position_eq
  isExhausted_eq := h.isExhausted_eq
  rest?_at_end c hc := h.rest?_at_end c (hallowed c hc)
  moves k hk c hc := h.moves k hk c (hallowed c hc)

/-- Where a step leads from where a scan may stand. -/
lemma exists_stands (htext : Valid text) {step : Step σ α}
    (hmoves : Moves K Shape place text.length k step)
    (hstarts : ∀ a, step.outcome = .found a → Boundary text (K.whole a).start.toNat) :
    ∃ j ≤ text.length, step.scan = place j ∧ Stands text j (K.StartsWide text step.outcome) ∧
      ((∀ a, step.outcome ≠ .found a) → j = text.length) := by
  have hnever : ∀ outcome : Outcome α, (∀ a, outcome ≠ .found a) →
      ¬K.StartsWide text outcome := fun outcome hnone ⟨a, ha, _⟩ => hnone a ha
  cases hmoves with
  | @yields a messages lt ge le shape =>
    have hwide : K.StartsWide text (.found a) ↔ Wide text (K.whole a).start.toNat := by
      constructor
      · rintro ⟨a', ha, h⟩
        cases ha
        exact h
      · exact fun h => ⟨a, rfl, h⟩
    refine ⟨_, Nat.min_le_right _ _, rfl, ?_, fun h => absurd rfl (h a)⟩
    rw [propext hwide]
    exact .of_start (hstarts a rfl)
  | nothing =>
    exact ⟨_, Nat.le_refl _, rfl, .of_end htext (hnever _ (by simp)), fun _ => rfl⟩
  | failed =>
    exact ⟨_, Nat.le_refl _, rfl, .of_end htext (hnever _ (by simp)), fun _ => rfl⟩

/-- A run over characters, from wherever a scan may stand. -/
lemma run_byCharacters (h : Course K Shape place Allowed text.length)
    (hminds : MindsCharacters K place Allowed text flaws) (htext : Valid text)
    {calls : List κ} (hcalls : ∀ c ∈ calls, Allowed c) (hk : k ≤ text.length)
    (hstands : Stands text k inside) :
    ∃ turns, Scan.run K.next (place k) calls = .ok turns ∧
      ByCharactersFrom K text flaws inside turns ∧
      (k = text.length → ∀ t ∈ turns, ∀ a, t.step.outcome ≠ .found a) := by
  -- the induction is on the calls; what the first one yields says where the next one is made
  induction calls generalizing k inside with
  | nil => exact ⟨[], rfl, .nil, fun _ t ht => absurd ht List.not_mem_nil⟩
  | cons c calls ih =>
    have hc := hcalls c List.mem_cons_self
    have hcalls' : ∀ c ∈ calls, Allowed c := fun c' hc' => hcalls c' (List.mem_cons_of_mem c hc')
    obtain ⟨step, hstep, hmoves⟩ := h.moves k hk c hc
    obtain ⟨hflaw, hstarts⟩ := hminds k inside hk hstands c hc step hstep
    obtain ⟨j, hj, hscan, hstands', hend⟩ := exists_stands htext hmoves hstarts
    obtain ⟨turns, hrun, hturns, hover⟩ := ih hcalls' hj hstands'
    refine ⟨⟨place k, c, step⟩ :: turns, ?_,
      hturns.cons hflaw hstarts fun hnone => hover (hend hnone), ?_⟩
    · rw [run_cons hstep, hscan, hrun]
      rfl
    · rintro rfl t ht
      have hnone : ∀ a, step.outcome ≠ .found a := by
        intro a ha
        cases hmoves with
        | yields lt => exact Nat.lt_irrefl _ lt
        | nothing => cases ha
        | failed => cases ha
      rcases List.mem_cons.mp ht with rfl | ht
      · exact hnone
      · exact hover (hend hnone) t ht

end Course

/-- A drain from a boundary or, if `inside` says so, from inside a character, where it fails at
once. -/
structure Drained.ByCharactersFrom (K : Kind σ κ α) (text : Bytes) (flaws : Set Int)
    (inside : Prop) (d : Drained σ α) : Prop where
  flaw_iff : (∃ failure ∈ d.failure, failure.code ∈ flaws) ↔
    inside ∨ ∃ y ∈ d.yields, Wide text (K.whole y.1).start.toNat
  silent : inside → d.yields = []
  last : ∀ front y rest, d.yields = front ++ y :: rest → Wide text (K.whole y.1).start.toNat →
    rest = []
  starts : ∀ y ∈ d.yields, Boundary text (K.whole y.1).start.toNat

namespace Drained.ByCharactersFrom

variable {inside : Prop} {d : Drained σ α}

/-- A drain that yields nothing. -/
lemma of_empty {s : σ} {failure : Option Failure}
    (h : (∃ f ∈ failure, f.code ∈ flaws) ↔ inside) :
    ByCharactersFrom K text flaws inside (⟨[], failure, s⟩ : Drained σ α) where
  flaw_iff := by simpa using h
  silent _ := rfl
  last front _ _ h := absurd h.symm (by simp)
  starts _ h := absurd h List.not_mem_nil

/-- A drain that yields one more match in front. -/
lemma cons {y : α × σ} (h : ByCharactersFrom K text flaws (Wide text (K.whole y.1).start.toNat) d)
    (hnot : ¬inside) (hstart : Boundary text (K.whole y.1).start.toNat) :
    ByCharactersFrom K text flaws inside (d.cons y) where
  flaw_iff := by
    show (∃ failure ∈ d.failure, failure.code ∈ flaws) ↔
      inside ∨ ∃ u ∈ y :: d.yields, Wide text (K.whole u.1).start.toNat
    rw [h.flaw_iff]
    simp [hnot]
  silent hinside := absurd hinside hnot
  last := by
    intro front u rest heq hwide
    change y :: d.yields = front ++ u :: rest at heq
    rcases front with _ | ⟨first, front⟩
    · cases heq
      exact h.silent hwide
    · obtain ⟨-, htail⟩ := List.cons.inj heq
      exact h.last front u rest htail hwide
  starts := by
    intro u hu
    rcases List.mem_cons.mp hu with rfl | hu
    · exact hstart
    · exact h.starts u hu

/-- A drain from a boundary on. -/
lemma byCharacters (h : ByCharactersFrom K text flaws inside d) (hnot : ¬inside) :
    d.ByCharacters K text flaws := by
  have hflaw : (∃ failure ∈ d.failure, failure.code ∈ flaws) ↔
      ∃ y ∈ d.yields, Wide text (K.whole y.1).start.toNat := by
    rw [h.flaw_iff, or_iff_right hnot]
  refine ⟨hflaw, ?_, h.last⟩
  rw [hflaw]
  constructor
  · intro hnone y hy
    rcases (h.starts y hy).cases with hend | hnarrow | hwide
    · exact .inl hend
    · exact .inr hnarrow
    · exact absurd ⟨y, hy, hwide⟩ hnone
  · rintro hall ⟨y, hy, hwide⟩
    rcases hall y hy with hend | hnarrow
    · have := hwide.succ_lt
      omega
    · exact hwide.not_valid_drop hnarrow.boundary_succ.valid_drop

end Drained.ByCharactersFrom

namespace Course

variable {Shape : Span Extent → Prop} {place : ℕ → σ} {Allowed : κ → Prop} {k : ℕ} {inside : Prop}

/-- A drain over characters, from wherever a scan may stand, by its steps and by its calls. -/
lemma drain_byCharacters (h : Course K Shape place Allowed text.length)
    (hminds : MindsCharacters K place Allowed text flaws) {c : κ} (hc : Allowed c) {limit : ℕ}
    (hk : k ≤ text.length) (hlimit : text.length - k < limit) (hstands : Stands text k inside) :
    ∃ d d', drain (K.next · c) limit (place k) = .ok (some d) ∧
      drain (K.call · c) limit (place k) = .ok (some d') ∧ d'.failure = d.failure ∧
      d'.yields.map (·.2) = d.yields.map (·.2) ∧
      d.ByCharactersFrom K text flaws inside := by
  induction limit generalizing k inside with
  | zero => omega
  | succ limit ih =>
    obtain ⟨step, hstep, hmoves⟩ := h.moves k hk c hc
    obtain ⟨hflaw, hstarts⟩ := hminds k inside hk hstands c hc step hstep
    have hcall := K.call_of_next hstep
    cases hmoves with
    | @yields a messages lt ge le shape =>
      have hnot : ¬inside := by
        intro hinside
        obtain ⟨failure, hfailed, -⟩ := hflaw.mpr hinside
        cases hfailed
      obtain ⟨d, d', hdrain, hdrain', hfailure, hyields, hd⟩ :=
        ih (Nat.min_le_right _ _) (by omega) (.of_start (hstarts a rfl))
      refine ⟨_, _, drain_found hstep hdrain, drain_found hcall hdrain', hfailure, ?_,
        hd.cons hnot (hstarts a rfl)⟩
      show _ :: d'.yields.map (·.2) = _ :: d.yields.map (·.2)
      rw [hyields]
    | nothing =>
      refine ⟨_, _, drain_nothing hstep limit, drain_nothing hcall limit, rfl, rfl, .of_empty ?_⟩
      rw [← hflaw]
      simp [Outcome.IsFlaw]
    | failed =>
      refine ⟨_, _, drain_failed hstep limit, drain_failed hcall limit, rfl, rfl, .of_empty ?_⟩
      rw [← hflaw]
      simp [Outcome.IsFlaw]

end Course

end

end Scan

/-! ## The two kinds of scans -/

variable {E : Engine} {code : E.Code} {text : Bytes} {flaws : Set Int}

/-- What the engine answers for the rest of a text from where a scan may stand. -/
lemma Engine.MindsUtf8.find_drop (hE : E.MindsUtf8 code (E.groups code + 1) flaws)
    (hsound : E.Sound code (E.groups code + 1)) (hn : text.length < npos.toNat) {k : ℕ}
    {inside : Prop} (hstands : Scan.Stands text k inside) :
    ((∃ failure, (Compiled.ofCode code).find (text.drop k) = .error failure ∧
      failure.code ∈ flaws) ↔ inside) ∧
    ∀ m, (Compiled.ofCode code).find (text.drop k) = .ok (some m) →
      Boundary text (k + m.whole.start.toNat) := by
  have hshort : (text.drop k).length < npos.toNat := by
    rw [List.length_drop]
    omega
  rcases hstands with ⟨hboundary, hnot⟩ | ⟨hlt, hinvalid, hinside⟩
  · have hvalid := hboundary.valid_drop
    refine ⟨iff_of_false ?_ hnot, fun m hm => ?_⟩
    · rintro ⟨failure, hfailed, hmem⟩
      exact hE.code_of_find_error hshort hvalid hfailed hmem
    · have hfits := Compiled.find_drop_fits hsound hn hm
      exact hboundary.add (hE.boundary_of_find hshort hvalid hm hfits)
  · obtain ⟨failure, hfailed, hmem⟩ := hE.find_of_not_valid hshort hinvalid
    refine ⟨iff_of_true ⟨failure, hfailed, hmem⟩ hinside, fun m hm => ?_⟩
    rw [hfailed] at hm
    cases hm

namespace WholeScan

lemma mindsCharacters (hsound : E.Sound code (E.groups code + 1))
    (hE : E.MindsUtf8 code (E.groups code + 1) flaws) (hn : text.length < npos.toNat) :
    Scan.MindsCharacters kind (ofPosition (.ofCode code) text) (fun _ => True) text flaws := by
  intro k inside hk hstands c _ step hstep
  change next _ = _ at hstep
  constructor
  · rcases Nat.lt_or_eq_of_le hk with hlt | rfl
    · obtain ⟨hflaw, -⟩ := hE.find_drop hsound hn hstands
      rw [next_of_lt hsound hlt hn] at hstep
      cases hstep
      rw [← hflaw]
      rcases (Compiled.ofCode code).find (text.drop k) with failure | _ | m <;>
        simp [stepFrom, Scan.Outcome.IsFlaw]
    · rw [next_at_end hn] at hstep
      cases hstep
      exact iff_of_false (by simp [Scan.Outcome.IsFlaw]) hstands.not_inside
  · intro a ha
    obtain ⟨m, hm, rfl⟩ := found_of_next hsound hk hn hstep ha
    have hfits := (Compiled.find_drop_fits hsound hn hm).wholeFits
    obtain ⟨hstart, -⟩ := Slot.behind_bounds hfits.isSet hfits.within hk hn
    show Boundary text (m.whole.behind k).start.toNat
    rw [hstart]
    exact (hE.find_drop hsound hn hstands).2 m hm

end WholeScan

namespace GroupScan

lemma mindsCharacters (hsound : E.Sound code (E.groups code + 1))
    (hE : E.MindsUtf8 code (E.groups code + 1) flaws) (hn : text.length < npos.toNat) :
    Scan.MindsCharacters kind (ofPosition (.ofCode code) text.length) (· = text) text flaws := by
  rintro k inside hk hstands buffer rfl step hstep
  change next _ _ = _ at hstep
  constructor
  · rcases Nat.lt_or_eq_of_le hk with hlt | rfl
    · obtain ⟨hflaw, -⟩ := hE.find_drop hsound hn hstands
      rw [next_of_lt hsound hlt hn] at hstep
      cases hstep
      rw [← hflaw]
      rcases (Compiled.ofCode code).find (buffer.drop k) with failure | _ | m
      · simp [stepFrom, Scan.Outcome.IsFlaw]
      · simp [stepFrom, Scan.Outcome.IsFlaw]
      · -- an empty match ends the scan, but is no failure
        by_cases hempty : m.whole.start = m.whole.stop <;>
          simp [stepFrom, hempty, Scan.Outcome.IsFlaw]
    · rw [next_at_end _ hn] at hstep
      cases hstep
      exact iff_of_false (by simp [Scan.Outcome.IsFlaw]) hstands.not_inside
  · intro record hrecord
    obtain ⟨m, hm, rfl⟩ := found_of_next hsound hk hn hstep hrecord
    have hfits := (Compiled.find_drop_fits hsound hn hm).wholeFits
    obtain ⟨hstart, -⟩ := Slot.behind_bounds hfits.isSet hfits.within hk hn
    rw [whole_map_behind, hstart]
    exact (hE.find_drop hsound hn hstands).2 m hm

end GroupScan

namespace Scan

/-- Over a valid text, with an engine that minds UTF-8, a call fails for its subject iff the call
right before it yielded a match that starts at the first of several bytes of a character, since the
scan goes on in the middle of that one. So a drain is free of such failures iff each of its matches
starts at a character of one byte or at the end; otherwise all matches behind the first that does
not are lost. -/
theorem multibyte_start_ends_scan (hsound : E.Sound code (E.groups code + 1))
    (hE : E.MindsUtf8 code (E.groups code + 1) flaws) (htext : Valid text)
    (hn : text.length < npos.toNat) :
    (∀ calls : List WholeScan.Call, ∃ turns,
      run WholeScan.kind.next (WholeScan.ofText (.ofCode code) text) calls = .ok turns ∧
      run WholeScan.kind.call (WholeScan.ofText (.ofCode code) text) calls
        = .ok (turns.map (Turn.map WholeScan.kind.tell)) ∧
      ByCharacters WholeScan.kind text flaws turns) ∧
    (∀ count : ℕ, ∃ turns,
      run GroupScan.kind.next (GroupScan.ofLength (.ofCode code) text.length)
        (List.replicate count text) = .ok turns ∧
      run GroupScan.kind.call (GroupScan.ofLength (.ofCode code) text.length)
        (List.replicate count text) = .ok (turns.map (Turn.map GroupScan.kind.tell)) ∧
      ByCharacters GroupScan.kind text flaws turns) ∧
    ∀ limit, text.length < limit →
      (∀ call : WholeScan.Call, ∃ d d',
        drain (WholeScan.kind.next · call) limit (WholeScan.ofText (.ofCode code) text)
          = .ok (some d) ∧
        drain (WholeScan.kind.call · call) limit (WholeScan.ofText (.ofCode code) text)
          = .ok (some d') ∧ d'.failure = d.failure ∧ d'.yields.map (·.2) = d.yields.map (·.2) ∧
        d.ByCharacters WholeScan.kind text flaws) ∧
      ∃ d d',
        drain (GroupScan.kind.next · text) limit (GroupScan.ofLength (.ofCode code) text.length)
          = .ok (some d) ∧
        drain (GroupScan.kind.call · text) limit (GroupScan.ofLength (.ofCode code) text.length)
          = .ok (some d') ∧ d'.failure = d.failure ∧ d'.yields.map (·.2) = d.yields.map (·.2) ∧
        d.ByCharacters GroupScan.kind text flaws := by
  have hwhole := WholeScan.course hsound hn
  have hwholeMinds := WholeScan.mindsCharacters hsound hE hn
  have hgroup : Course GroupScan.kind _ _ (· = text) text.length :=
    (GroupScan.course hsound hn).mono fun _ => congrArg List.length
  have hgroupMinds := GroupScan.mindsCharacters hsound hE hn
  have hfront : Stands text 0 False := .inl ⟨htext.boundary_zero, id⟩
  refine ⟨fun calls => ?_, fun count => ?_, fun limit hlimit => ⟨fun call => ?_, ?_⟩⟩
  · obtain ⟨turns, hrun, hturns, -⟩ := hwhole.run_byCharacters hwholeMinds htext
      (fun _ (_ : _ ∈ calls) => trivial) (Nat.zero_le _) hfront
    exact ⟨turns, hrun, run_call_of_run hrun, hturns.byCharacters id⟩
  · obtain ⟨turns, hrun, hturns, -⟩ := hgroup.run_byCharacters hgroupMinds htext
      (fun _ (h : _ ∈ List.replicate count text) => List.eq_of_mem_replicate h) (Nat.zero_le _)
      hfront
    exact ⟨turns, hrun, run_call_of_run hrun, hturns.byCharacters id⟩
  · obtain ⟨d, d', hdrain, hdrain', hfailure, hyields, hd⟩ :=
      hwhole.drain_byCharacters hwholeMinds (c := call) trivial (Nat.zero_le _) hlimit hfront
    exact ⟨d, d', hdrain, hdrain', hfailure, hyields, hd.byCharacters id⟩
  · obtain ⟨d, d', hdrain, hdrain', hfailure, hyields, hd⟩ :=
      hgroup.drain_byCharacters hgroupMinds (c := text) rfl (Nat.zero_le _) hlimit hfront
    exact ⟨d, d', hdrain, hdrain', hfailure, hyields, hd.byCharacters id⟩

end Scan

/-! ## An engine that minds UTF-8

It knows the pattern `(*UTF)(?s).` alone. In a text that is not valid it fails with the code of the
first flaw; any other it matches with the first character, if there is one.
-/

namespace FirstCharacter

/-- The reply for a subject. -/
def search (subject : Bytes) (count : ℕ) : Reply :=
  match Pattern.Utf8.flaw? subject with
  | some (code, _) => Reply.without code count
  | none =>
    match subject.head? with
    | none => Reply.without Reply.noMatchCode count
    | some lead =>
      SamplePattern.reply 1 count
        (OneCharacter.slot (min (OneCharacter.size lead) subject.length))

lemma search_sound {subject : Bytes} (hn : subject.length < npos.toNat) (count : ℕ) :
    (search subject count).Sound subject.length count := by
  unfold search
  rcases hflaw : Pattern.Utf8.flaw? subject with _ | ⟨code, offset⟩
  · dsimp only
    cases subject.head? with
    | none => exact Reply.without_sound (by decide) _ _
    | some lead =>
      exact SamplePattern.reply_sound rfl (OneCharacter.slot_within (Nat.min_le_right _ _) hn)
  · obtain ⟨hnegative, -⟩ := Pattern.Utf8.neg_of_mem_flawCodes (Pattern.Utf8.flaw?_code hflaw)
    exact Reply.without_sound hnegative _ _

/-- A valid subject is searched for its first character. -/
lemma search_of_valid {subject : Bytes} (hsubject : Valid subject) (count : ℕ) :
    search subject count = Reply.without Reply.noMatchCode count ∨
      ∃ size, search subject count = SamplePattern.reply 1 count (OneCharacter.slot size) := by
  unfold search
  rw [(Pattern.Utf8.flaw?_eq_none_iff subject).mpr hsubject]
  dsimp only
  cases subject.head? with
  | none => exact .inl rfl
  | some lead => exact .inr ⟨_, rfl⟩

end FirstCharacter

/-- The engine that minds UTF-8. -/
def firstCharacter : Engine where
  Code := Unit
  compile pattern _ := if pattern = Bytes.ascii "(*UTF)(?s)." then .ok () else .error (186, 0)
  groups _ := 0
  search _ subject count := FirstCharacter.search subject count

lemma firstCharacter_sound (count : ℕ) : firstCharacter.Sound () count :=
  fun _ hn => FirstCharacter.search_sound hn count

lemma firstCharacter_mindsUtf8 (count : ℕ) :
    firstCharacter.MindsUtf8 () count Pattern.Utf8.flawCodes where
  flaws_negative _ := Pattern.Utf8.neg_of_mem_flawCodes
  invalid := by
    intro subject _ hsubject
    show (FirstCharacter.search subject count).code ∈ _
    unfold FirstCharacter.search
    rcases hflaw : Pattern.Utf8.flaw? subject with _ | ⟨code, offset⟩
    · exact absurd ((Pattern.Utf8.flaw?_eq_none_iff subject).mp hflaw) hsubject
    · exact Pattern.Utf8.flaw?_code hflaw
  valid := by
    intro subject _ hsubject
    show (FirstCharacter.search subject count).code ∉ _
    rcases FirstCharacter.search_of_valid hsubject count with hreply | ⟨size, hreply⟩
    · rw [hreply]
      rintro ⟨-, hle⟩
      have hgreater : ¬Reply.noMatchCode ≤ -3 := by decide
      exact absurd hle hgreater
    · rw [hreply]
      rintro ⟨-, hle⟩
      simp only [SamplePattern.reply] at hle
      split_ifs at hle <;> omega
  start := by
    intro subject _ hsubject hcode
    change 0 ≤ (FirstCharacter.search subject count).code at hcode
    show ∀ whole ∈ (FirstCharacter.search subject count).slots.head?, _
    rcases FirstCharacter.search_of_valid hsubject count with hreply | ⟨size, hreply⟩
    · rw [hreply] at hcode
      have hnegative : ¬0 ≤ Reply.noMatchCode := by decide
      exact absurd hcode hnegative
    · rw [hreply]
      intro whole hwhole
      -- every match of this engine starts in front
      have hstart : whole.start = 0 := by
        rcases count with _ | count
        · cases hwhole
        · rw [SamplePattern.reply, List.range_succ_eq_map] at hwhole
          cases hwhole
          rfl
      rw [hstart]
      exact hsubject.boundary_zero

namespace Scan

/-- In the characters `61`, `C3 A9` and `62`, the second match starts at the first of two bytes; the
third search fails, and the last character is lost. -/
theorem multibyte_start_ends_scan_before_b :
    let text : Bytes := [0x61, 0xc3, 0xa9, 0x62]
    let whole : WholeScan firstCharacter := .ofText (.ofCode ()) text
    let group : GroupScan firstCharacter := .ofLength (.ofCode ()) text.length
    let calls : List WholeScan.Call := [.next, .nextText, .next, .next]
    firstCharacter.Sound () (firstCharacter.groups () + 1) ∧
    firstCharacter.MindsUtf8 () (firstCharacter.groups () + 1) Pattern.Utf8.flawCodes ∧
    Valid text ∧ text.length < npos.toNat ∧
    (∃ turns, run WholeScan.kind.next whole calls = .ok turns ∧
      turns.map (·.step.outcome) = [.found ⟨0, 1, some ⟨0, 1⟩⟩, .found ⟨1, 3, some ⟨1, 2⟩⟩,
        .failed (.ofCode (-22)), .nothing] ∧
      ByCharacters WholeScan.kind text Pattern.Utf8.flawCodes turns) ∧
    (∃ turns, run GroupScan.kind.next group (List.replicate 4 text) = .ok turns ∧
      turns.map (·.step.outcome) = [.found [⟨0, 1, some ⟨0, 1⟩⟩], .found [⟨1, 3, some ⟨1, 2⟩⟩],
        .failed (.ofCode (-22)), .nothing] ∧
      ByCharacters GroupScan.kind text Pattern.Utf8.flawCodes turns) ∧
    ∃ d, drain (WholeScan.kind.next · .next) 5 whole = .ok (some d) ∧
      d.yields.map (·.1) = [⟨0, 1, some ⟨0, 1⟩⟩, ⟨1, 3, some ⟨1, 2⟩⟩] ∧
      d.failure = some (.ofCode (-22)) ∧
      d.ByCharacters WholeScan.kind text Pattern.Utf8.flawCodes := by
  intro text whole group calls
  have hsound := firstCharacter_sound (firstCharacter.groups () + 1)
  have hE := firstCharacter_mindsUtf8 (firstCharacter.groups () + 1)
  have htext : Valid text := ⟨['a', 'é', 'b'], by decide⟩
  have hn : text.length < npos.toNat := by decide
  obtain ⟨hwhole, hgroup, hdrain⟩ := multibyte_start_ends_scan hsound hE htext hn
  obtain ⟨turns, hrun, -, hturns⟩ := hwhole calls
  obtain ⟨turns', hrun', -, hturns'⟩ := hgroup 4
  obtain ⟨d, -, hd, -, -, -, hcharacters⟩ := (hdrain 5 (by decide)).1 .next
  have hends : (drain (WholeScan.kind.next · .next) 5 whole).map
      (Option.map fun d => (d.yields.map (·.1), d.failure))
      = .ok (some ([⟨0, 1, some ⟨0, 1⟩⟩, ⟨1, 3, some ⟨1, 2⟩⟩], some (.ofCode (-22)))) := by
    decide +kernel
  rw [hd] at hends
  obtain ⟨hyields, hfailure⟩ := Prod.mk.inj (Option.some.inj (Except.ok.inj hends))
  refine ⟨hsound, hE, htext, hn, ⟨turns, hrun, ?_, hturns⟩, ⟨turns', hrun', ?_, hturns'⟩,
    ⟨d, hd, hyields, hfailure, hcharacters⟩⟩
  · apply Except.ok.inj (ε := Breach)
    show Except.map (List.map (·.step.outcome)) (.ok turns) = _
    rw [← hrun]
    decide +kernel
  · apply Except.ok.inj (ε := Breach)
    show Except.map (List.map (·.step.outcome)) (.ok turns') = _
    rw [← hrun']
    decide +kernel

end Scan

end PatternScan
