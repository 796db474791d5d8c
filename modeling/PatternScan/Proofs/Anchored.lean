import PatternScan.Proofs.Completeness
import PatternScan.Proofs.Exhaustion

/-!
# Scans for anchored patterns

An anchored pattern matches at the front of a subject or not at all. Each search of a scan goes over
the rest of the buffer as a subject of its own, so the anchor holds anew at every position: the
matches start at 0, 1, 2 and so on, up to the first position without one, and what matches behind it
is never found. A scan for groups stops at an empty match as well. Three things live here:

* `Engine.Anchored`, the patterns that match at the front only;
* `Scan.firstStop`, the position that ends a scan, and `Scan.Strides`, steps that go on byte by byte
  up to there;
* `firstByte`, a small engine with an anchored pattern.
-/

namespace PatternScan

variable {E : Engine} {code : E.Code}

/-! ## Replies for anchored patterns -/

namespace Engine

/-- The reply for a subject, with a slot for every group. -/
def reply (E : Engine) (code : E.Code) (subject : Bytes) : Reply :=
  E.search code subject (E.groups code + 1)

/-- The slot of the whole match. -/
def whole (E : Engine) (code : E.Code) (subject : Bytes) : Slot :=
  (E.reply code subject).slots.headD .unset

/-- A pattern that every subject matches at its front or not at all. -/
def Anchored (E : Engine) (code : E.Code) : Prop :=
  ∀ subject : Bytes, subject.length < npos.toNat →
    (E.reply code subject).code = Reply.noMatchCode ∨
      0 ≤ (E.reply code subject).code ∧ (E.whole code subject).start = 0

/-- Whether a subject holds no match. -/
def misses (E : Engine) (code : E.Code) (subject : Bytes) : Bool :=
  (E.reply code subject).code = Reply.noMatchCode

/-- Whether a subject holds no match or an empty one. -/
def missesOrEmpty (E : Engine) (code : E.Code) (subject : Bytes) : Bool :=
  E.misses code subject || (E.whole code subject).start == (E.whole code subject).stop

variable {subject : Bytes}

lemma find_of_misses (h : E.misses code subject = true) :
    (Compiled.ofCode code).find subject = .ok none :=
  if_pos (of_decide_eq_true h)

/-- An anchored pattern that does match does so at the front. -/
lemma Anchored.exists_find (ha : E.Anchored code) (hn : subject.length < npos.toNat)
    (h : E.misses code subject = false) :
    ∃ m, (Compiled.ofCode code).find subject = .ok (some m) ∧
      m.slots = (E.reply code subject).slots ∧ m.whole.start = 0 := by
  have hcode : (E.reply code subject).code ≠ Reply.noMatchCode := of_decide_eq_false h
  obtain ⟨hnonneg, hstart⟩ := (ha subject hn).resolve_left hcode
  exact ⟨_, Match.settle_eq_some_iff.mpr ⟨hnonneg, rfl⟩, rfl, hstart⟩

end Engine

/-! ## Steps that go on byte by byte -/

namespace Scan

variable {σ α : Type}

/-- The first position below `n` at which `stops` holds, and `n` if there is none. -/
def firstStop (stops : ℕ → Bool) (n : ℕ) : ℕ :=
  (List.range n).findIdx stops

section
variable {stops : ℕ → Bool} {n k : ℕ}

lemma firstStop_le : firstStop stops n ≤ n := by
  have hle : firstStop stops n ≤ (List.range n).length := List.findIdx_le_length
  rwa [List.length_range] at hle

lemma stops_eq_false_of_lt (h : k < firstStop stops n) : stops k = false := by
  have hnot := List.not_of_lt_findIdx h
  rwa [List.getElem_range] at hnot

lemma stops_firstStop (h : firstStop stops n < n) : stops (firstStop stops n) = true := by
  unfold firstStop at h ⊢
  have hlt : (List.range n).findIdx stops < (List.range n).length := by rwa [List.length_range]
  simpa using List.findIdx_getElem (w := hlt)

end

/-- Steps over `n` bytes that yield a result at each place and lead to the next one, until `stops`
holds; there they yield nothing and lead to the end. -/
structure Strides (next : σ → Except Breach (Step σ α)) (place : ℕ → σ) (result : ℕ → α)
    (stops : ℕ → Bool) (n : ℕ) : Prop where
  found : ∀ k < n, stops k = false → ∃ messages,
    next (place k) = .ok ⟨.found (result k), place (k + 1), messages⟩
  nothing : ∀ k < n, stops k = true → ∃ messages,
    next (place k) = .ok ⟨.nothing, place n, messages⟩
  atEnd : next (place n) = .ok ⟨.nothing, place n, []⟩

namespace Strides

variable {next : σ → Except Breach (Step σ α)} {place : ℕ → σ} {result : ℕ → α}
  {stops : ℕ → Bool} {n k limit : ℕ}

/-- The step at the place that ends the drain. -/
lemma next_firstStop (h : Strides next place result stops n) : ∃ messages,
    next (place (firstStop stops n)) = .ok ⟨.nothing, place n, messages⟩ := by
  have hle : firstStop stops n ≤ n := firstStop_le
  rcases Nat.lt_or_eq_of_le hle with hlt | heq
  · exact h.nothing _ hlt (stops_firstStop hlt)
  · rw [heq]
    exact ⟨[], h.atEnd⟩

/-- Draining from a place yields the results from there up to the first stop. -/
lemma drain_from (h : Strides next place result stops n) (hk : k ≤ firstStop stops n)
    (hlimit : n - k < limit) :
    drain next limit (place k)
      = .ok (some ⟨(List.range' k (firstStop stops n - k)).map fun i => (result i, place (i + 1)),
          none, place n⟩) := by
  have hle : firstStop stops n ≤ n := firstStop_le
  -- each call but the last moves the place on by one, so the limit lasts
  induction limit generalizing k with
  | zero => omega
  | succ limit ih =>
    rcases Nat.lt_or_eq_of_le hk with hlt | rfl
    · obtain ⟨messages, hstep⟩ := h.found k (by omega) (stops_eq_false_of_lt hlt)
      have hrest := ih (k := k + 1) (by omega) (by omega)
      rw [drain_found hstep hrest,
        show firstStop stops n - k = firstStop stops n - (k + 1) + 1 by omega, List.range'_succ]
      rfl
    · obtain ⟨messages, hstep⟩ := h.next_firstStop
      rw [drain_nothing hstep limit, Nat.sub_self]
      rfl

lemma drain_eq (h : Strides next place result stops n) (hlimit : n < limit) :
    drain next limit (place 0)
      = .ok (some ⟨(List.range (firstStop stops n)).map fun i => (result i, place (i + 1)),
          none, place n⟩) := by
  rw [h.drain_from (Nat.zero_le _) (by omega), Nat.sub_zero, ← List.range_eq_range']

end Strides

end Scan

/-! ## The two kinds of scans -/

section
variable {buffer : Bytes} {k : ℕ}

/-- The match of the rest of the buffer from a position at which there is one. -/
lemma Engine.Anchored.find_drop (hE : E.Sound code (E.groups code + 1)) (ha : E.Anchored code)
    (hn : buffer.length < npos.toNat) (h : E.misses code (buffer.drop k) = false) :
    ∃ m, (Compiled.ofCode code).find (buffer.drop k) = .ok (some m) ∧
      m.slots = (E.reply code (buffer.drop k)).slots ∧
      m.whole = E.whole code (buffer.drop k) ∧ m.whole.start.toNat = 0 ∧
      m.WholeFits (buffer.length - k) := by
  have hdrop : (buffer.drop k).length < npos.toNat := by
    rw [List.length_drop]
    omega
  obtain ⟨m, hfind, hslots, hstart⟩ := ha.exists_find hdrop h
  refine ⟨m, hfind, hslots, ?_, ?_, (Compiled.find_drop_fits hE hn hfind).wholeFits⟩
  · rw [Match.whole, hslots, Engine.whole]
  · rw [hstart]
    rfl

/-- At the end, calls find nothing any more. -/
lemma WholeScan.run_at_end {p : Compiled E} (hn : buffer.length < npos.toNat)
    (calls : List Call) :
    Scan.run kind.next (ofPosition p buffer buffer.length) calls
      = .ok (calls.map fun c => ⟨ofPosition p buffer buffer.length, c,
          ⟨.nothing, ofPosition p buffer buffer.length, []⟩⟩) :=
  Scan.Course.run_at_end (fun _ _ => next_at_end hn) fun _ _ => trivial

/-- At the end, calls find nothing any more, whatever the buffer is by then. -/
lemma GroupScan.run_at_end {p : Compiled E} {n : ℕ} (hn : n < npos.toNat)
    (buffers : List Bytes) :
    Scan.run kind.next (ofPosition p n n) buffers
      = .ok (buffers.map fun b => ⟨ofPosition p n n, b, ⟨.nothing, ofPosition p n n, []⟩⟩) :=
  Scan.Course.run_at_end (fun b _ => next_at_end b hn) fun _ _ => trivial

lemma WholeScan.strides (hE : E.Sound code (E.groups code + 1)) (ha : E.Anchored code)
    (hn : buffer.length < npos.toNat) :
    Scan.Strides next (ofPosition (.ofCode code) buffer)
      (fun i => (E.whole code (buffer.drop i)).behind i)
      (fun i => E.misses code (buffer.drop i)) buffer.length where
  found := by
    intro k hk hhit
    obtain ⟨m, hfind, -, hwhole, hstart, -⟩ := ha.find_drop hE hn hhit
    have hnext : min (k + m.whole.start.toNat + 1) buffer.length = k + 1 := by omega
    refine ⟨[], ?_⟩
    rw [next_of_lt hE hk hn, hfind, stepFrom, hnext, hwhole]
  nothing := by
    intro k hk hmiss
    rw [next_of_lt hE hk hn, Engine.find_of_misses hmiss]
    exact ⟨_, rfl⟩
  atEnd := next_at_end hn

lemma GroupScan.strides (hE : E.Sound code (E.groups code + 1)) (ha : E.Anchored code)
    (hn : buffer.length < npos.toNat) :
    Scan.Strides (next · buffer) (ofPosition (.ofCode code) buffer.length)
      (fun i => (E.reply code (buffer.drop i)).slots.map (Slot.behind · i))
      (fun i => E.missesOrEmpty code (buffer.drop i)) buffer.length where
  found := by
    intro k hk hhit
    obtain ⟨hhit, hends⟩ := Bool.or_eq_false_iff.mp hhit
    obtain ⟨m, hfind, hslots, hwhole, hstart, -⟩ := ha.find_drop hE hn hhit
    have hne : ¬m.whole.start = m.whole.stop := by
      rw [hwhole]
      exact beq_eq_false_iff_ne.mp hends
    have hnext : min (k + m.whole.start.toNat + 1) buffer.length = k + 1 := by omega
    refine ⟨[], ?_⟩
    rw [next_of_lt hE hk hn, hfind, stepFrom, if_neg hne, hnext, hslots]
  nothing := by
    intro k hk hstop
    rw [next_of_lt hE hk hn]
    by_cases hmiss : E.misses code (buffer.drop k) = true
    · rw [Engine.find_of_misses hmiss]
      exact ⟨_, rfl⟩
    · -- there is a match, so what stops the scan is that it is empty
      have hhit : E.misses code (buffer.drop k) = false := Bool.not_eq_true _ ▸ hmiss
      obtain ⟨m, hfind, -, hwhole, -, -⟩ := ha.find_drop hE hn hhit
      have hempty : m.whole.start = m.whole.stop := by
        rw [Engine.missesOrEmpty, hhit, Bool.false_or] at hstop
        rw [hwhole]
        exact beq_iff_eq.mp hstop
      rw [hfind, stepFrom, if_pos hempty]
      exact ⟨_, rfl⟩
  atEnd := next_at_end buffer hn

end

/-! ## Draining -/

section
variable {buffer : Bytes} {k : ℕ}

/-- Where there is a match, it starts at the position. -/
lemma Engine.Anchored.behind_start (hE : E.Sound code (E.groups code + 1)) (ha : E.Anchored code)
    (hn : buffer.length < npos.toNat) (hk : k < buffer.length)
    (h : E.misses code (buffer.drop k) = false) :
    ((E.whole code (buffer.drop k)).behind k).start.toNat = k := by
  obtain ⟨m, -, -, hwhole, hstart, hfits⟩ := ha.find_drop hE hn h
  rw [← hwhole, Slot.behind_of_isSet hfits.isSet, hstart, Nat.add_zero]
  exact toNat_ofNat_of_lt_npos (by omega)

/-- Where there is a match, its span goes from the position to its end. -/
lemma Engine.Anchored.read_behind (hE : E.Sound code (E.groups code + 1)) (ha : E.Anchored code)
    (hn : buffer.length < npos.toNat) (h : E.misses code (buffer.drop k) = false) :
    ((E.whole code (buffer.drop k)).behind k).read buffer
      = Hits.spanAt buffer (fun i => i + (E.whole code (buffer.drop i)).stop.toNat) k := by
  obtain ⟨m, -, -, hwhole, hstart, hfits⟩ := ha.find_drop hE hn h
  rw [← hwhole, Slot.behind_of_isSet hfits.isSet, Hits.spanAt, ← hwhole, hstart, Nat.add_zero,
    Nat.sub_zero]
  rfl

/-- Where there is a match, its record starts with the span of the whole match. -/
lemma Engine.Anchored.whole_record (hE : E.Sound code (E.groups code + 1)) (ha : E.Anchored code)
    (hn : buffer.length < npos.toNat) (h : E.misses code (buffer.drop k) = false) :
    (GroupScan.kind (E := E)).whole ((E.reply code (buffer.drop k)).slots.map (Slot.behind · k))
      = (E.whole code (buffer.drop k)).behind k := by
  obtain ⟨m, -, hslots, hwhole, -, -⟩ := ha.find_drop hE hn h
  rw [← hslots, GroupScan.whole_map_behind, hwhole]

end

namespace Scan

/-- Draining a scan for an anchored pattern goes byte by byte: the matches start at 0, 1, 2 and so
on, each as the engine tells it for the rest of the buffer from there, up to the first position
without a match; a scan for groups stops at the first position with an empty match, too. Whatever
the buffer holds behind that, the scan has ended and finds nothing any more. -/
theorem anchored_drains_contiguous {buffer : Bytes} (hE : E.Sound code (E.groups code + 1))
    (ha : E.Anchored code) (hn : buffer.length < npos.toNat) {limit : ℕ}
    (hlimit : buffer.length < limit) :
    let q := firstStop (fun i => E.misses code (buffer.drop i)) buffer.length
    let r := firstStop (fun i => E.missesOrEmpty code (buffer.drop i)) buffer.length
    (∃ d, drain WholeScan.next limit (WholeScan.ofText (.ofCode code) buffer) = .ok (some d) ∧
      d.yields.map (fun y => y.1.start.toNat) = List.range q ∧
      d.yields.map (fun y => y.2.read y.1)
        = (List.range q).map
            (Hits.spanAt buffer fun i => i + (E.whole code (buffer.drop i)).stop.toNat) ∧
      d.failure = none ∧
      ∀ calls, run WholeScan.kind.next d.scan calls
        = .ok (calls.map fun c => ⟨d.scan, c, ⟨.nothing, d.scan, []⟩⟩)) ∧
    ∃ d, drain (GroupScan.next · buffer) limit (GroupScan.ofLength (.ofCode code) buffer.length)
        = .ok (some d) ∧
      d.yields.map (fun y => (GroupScan.kind (E := E)).whole y.1 |>.start.toNat) = List.range r ∧
      d.yields.map (fun y => Record.read y.1 buffer)
        = (List.range r).map (fun i =>
            Record.read ((E.reply code (buffer.drop i)).slots.map (Slot.behind · i)) buffer) ∧
      d.failure = none ∧
      ∀ buffers, run GroupScan.kind.next d.scan buffers
        = .ok (buffers.map fun b => ⟨d.scan, b, ⟨.nothing, d.scan, []⟩⟩) := by
  intro q r
  -- up to where either scan stops, there is a match at every position
  have hhit : ∀ i < q, E.misses code (buffer.drop i) = false := fun i hi =>
    stops_eq_false_of_lt hi
  have hhit' : ∀ i < r, E.misses code (buffer.drop i) = false := by
    intro i hi
    have hneither : E.missesOrEmpty code (buffer.drop i) = false := stops_eq_false_of_lt hi
    exact (Bool.or_eq_false_iff.mp hneither).1
  have hq : q ≤ buffer.length := firstStop_le
  have hr : r ≤ buffer.length := firstStop_le
  refine ⟨⟨_, (WholeScan.strides hE ha hn).drain_eq hlimit, ?_, ?_, rfl, fun calls => ?_⟩,
    ⟨_, (GroupScan.strides hE ha hn).drain_eq hlimit, ?_, ?_, rfl, fun buffers => ?_⟩⟩
  · rw [List.map_map]
    refine (List.map_congr_left fun i hi => ?_).trans (List.map_id _)
    have hi : i < q := List.mem_range.mp hi
    exact ha.behind_start hE hn (by omega) (hhit i hi)
  · rw [List.map_map]
    refine List.map_congr_left fun i hi => ?_
    exact ha.read_behind hE hn (hhit i (List.mem_range.mp hi))
  · exact WholeScan.run_at_end hn calls
  · rw [List.map_map]
    refine (List.map_congr_left fun i hi => ?_).trans (List.map_id _)
    have hi : i < r := List.mem_range.mp hi
    show (GroupScan.kind.whole (List.map _ _)).start.toNat = i
    rw [ha.whole_record hE hn (hhit' i hi)]
    exact ha.behind_start hE hn (by omega) (hhit' i hi)
  · rw [List.map_map]
    rfl
  · exact GroupScan.run_at_end hn buffers

end Scan

/-! ## An engine with an anchored pattern

It knows one pattern, `^(?:(a)|(?=b))`, which matches an `a` at the front, as its group, or nothing
in front of a `b`.
-/

namespace FirstByte

/-- The slot of a group of a match of `a`. -/
def letter : ℕ → Slot
  | 0 => ⟨0, 1⟩
  | 1 => ⟨0, 1⟩
  | _ => .unset

/-- The slot of a group of a match in front of `b`. -/
def gap : ℕ → Slot
  | 0 => ⟨0, 0⟩
  | _ => .unset

/-- The reply for a subject. -/
def search (subject : Bytes) (count : ℕ) : Reply :=
  match subject with
  | 97 :: _ => SamplePattern.reply 2 count letter
  | 98 :: _ => SamplePattern.reply 1 count gap
  | _ => Reply.without Reply.noMatchCode count

lemma letter_within {n : ℕ} (hn : 1 ≤ n) (i : ℕ) : (letter i).Within n := by
  intro hset
  unfold letter at hset ⊢
  split at hset
  · exact ⟨by decide, hn⟩
  · exact ⟨by decide, hn⟩
  · cases hset

lemma gap_within (n i : ℕ) : (gap i).Within n := by
  intro hset
  unfold gap at hset ⊢
  split at hset
  · exact ⟨by decide, Nat.zero_le n⟩
  · cases hset

lemma search_sound (subject : Bytes) (count : ℕ) :
    (search subject count).Sound subject.length count := by
  unfold search
  split
  · exact SamplePattern.reply_sound rfl (letter_within (Nat.succ_pos _))
  · exact SamplePattern.reply_sound rfl (gap_within _)
  · exact Reply.without_sound (by decide) _ _

end FirstByte

/-- The engine that looks at the first byte. -/
def firstByte : Engine where
  Code := Unit
  compile pattern _ := if pattern = Bytes.ascii "^(?:(a)|(?=b))" then .ok () else .error (186, 0)
  groups _ := 1
  search _ subject count := FirstByte.search subject count

lemma firstByte_sound (count : ℕ) : firstByte.Sound () count :=
  fun subject _ => FirstByte.search_sound subject count

lemma firstByte_anchored : firstByte.Anchored () := by
  intro subject _
  have hreply : firstByte.reply () subject = FirstByte.search subject 2 := rfl
  unfold Engine.whole
  rw [hreply]
  unfold FirstByte.search
  split
  · exact .inr ⟨by decide, rfl⟩
  · exact .inr ⟨by decide, rfl⟩
  · exact .inl rfl

namespace Scan

/-- In `aabca`, the scan for whole matches ends behind the `b` and the scan for groups in front of
it; the `a` at the end is not found by either. -/
theorem anchored_drains_contiguous_on_aabca :
    let text := Bytes.ascii "aabca"
    firstByte.Sound () (firstByte.groups () + 1) ∧ firstByte.Anchored () ∧
    text.length < npos.toNat ∧ text.length < 6 ∧
    firstByte.misses () (text.drop 4) = false ∧
    (∃ d, drain WholeScan.next 6 (WholeScan.ofText (E := firstByte) (.ofCode ()) text)
        = .ok (some d) ∧
      d.yields.map (fun y => y.2.read y.1)
        = [⟨0, 1, some (Bytes.ascii "a")⟩, ⟨1, 2, some (Bytes.ascii "a")⟩, ⟨2, 2, some []⟩] ∧
      d.failure = none ∧
      run WholeScan.kind.next d.scan [.next, .nextText]
        = .ok [⟨d.scan, .next, ⟨.nothing, d.scan, []⟩⟩,
            ⟨d.scan, .nextText, ⟨.nothing, d.scan, []⟩⟩]) ∧
    ∃ d, drain (GroupScan.next · text) 6 (GroupScan.ofLength (E := firstByte) (.ofCode ()) 5)
        = .ok (some d) ∧
      d.yields.map (fun y => Record.read y.1 text)
        = [[⟨0, 1, some (Bytes.ascii "a")⟩, ⟨0, 1, some (Bytes.ascii "a")⟩],
            [⟨1, 2, some (Bytes.ascii "a")⟩, ⟨1, 2, some (Bytes.ascii "a")⟩]] ∧
      d.failure = none ∧
      run GroupScan.kind.next d.scan [text] = .ok [⟨d.scan, text, ⟨.nothing, d.scan, []⟩⟩] := by
  intro text
  have hE := firstByte_sound (firstByte.groups () + 1)
  have hn : text.length < npos.toNat := by decide
  have hlimit : text.length < 6 := by decide
  obtain ⟨⟨d, hdrain, -, hspans, hfailure, hlater⟩, d', hdrain', -, hrecords, hfailure', hlater'⟩ :=
    anchored_drains_contiguous hE firstByte_anchored hn hlimit
  refine ⟨hE, firstByte_anchored, hn, hlimit, by decide, ⟨d, hdrain, ?_, hfailure, hlater _⟩, d',
    hdrain', ?_, hfailure', hlater' _⟩
  · rw [hspans]
    decide
  · rw [hrecords]
    decide

end Scan

end PatternScan
