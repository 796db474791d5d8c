import PatternScan.Proofs.Progress

/-!
# A scan may be restarted

All that a scan has left to tell, it tells from the rest of its buffer: a new scan of that rest
tells the same, only that its offsets count from where the rest starts. So what a scan passed does
not matter. Three things live here:

* `Span.shift`, `Session.Finding.shift` and `Scan.Report.shift`, which move all offsets;
* `Scan.Shift`, two scans in step of which one tells what the other tells, moved;
* `WholeScan.Reached` and `GroupScan.Reached`, the scans that calls lead to, and what they tell.
-/

namespace PatternScan

open Session (Finding)

/-! ## Shifted reports -/

/-- The span with both ends moved, unless the group is unset. -/
def Span.shift {α : Type} (offset : UInt64) (s : Span α) : Span α :=
  if s.isDefined then ⟨s.start + offset, s.stop + offset, s.text⟩ else s

/-- The finding with all its spans moved. -/
def Session.Finding.shift (offset : UInt64) : Finding → Finding
  | .span s => .span (s.shift offset)
  | .record r => .record (List.map (Span.shift offset) r)
  | .text t => .text t

/-- The report with its spans and its position moved. -/
def Scan.Report.shift (offset : UInt64) (r : Scan.Report) : Scan.Report :=
  ⟨r.outcome.map (·.shift offset), r.position + offset, r.isExhausted⟩

/-- A window on a buffer is a window on the rest from `q` on. -/
lemma Extent.read_add (q offset size : ℕ) (buffer : Bytes) :
    Extent.read ⟨q + offset, size⟩ buffer = Extent.read ⟨offset, size⟩ (buffer.drop q) := by
  rw [Extent.read, Extent.read, Bytes.slice, Bytes.slice, List.drop_drop, Nat.add_sub_cancel_left,
    Nat.add_sub_cancel_left]

/-- A slot behind `q + j` reads in a buffer what it reads behind `j` in the rest from `q` on, moved
by `q`. -/
lemma Slot.read_behind_add {s : Slot} {buffer : Bytes} {q j : ℕ} (hq : q ≤ buffer.length)
    (hj : j ≤ buffer.length - q) (hn : buffer.length < npos.toNat)
    (hs : s.Within (buffer.length - q - j)) :
    (s.behind (q + j)).read buffer
      = ((s.behind j).read (buffer.drop q)).shift (UInt64.ofNat q) := by
  by_cases hset : s.isSet = true
  · obtain ⟨hle, hstop⟩ := hs.bounds hset
    have hne : UInt64.ofNat (j + s.start.toNat) ≠ npos := ofNat_ne_npos (by omega)
    have hdefined : ((s.behind j).read (buffer.drop q)).isDefined = true := by
      rw [behind_of_isSet hset]
      simpa [Span.read, Span.isDefined] using hne
    have hmoved : ∀ x, UInt64.ofNat (q + (j + x)) = UInt64.ofNat (j + x) + UInt64.ofNat q := by
      intro x
      rw [UInt64.ofNat_add q, UInt64.add_comm]
    rw [Span.shift, if_pos hdefined, behind_of_isSet hset, behind_of_isSet hset]
    simp only [Span.read, Span.map, Option.map_some, Nat.add_assoc, Extent.read_add, hmoved]
  · -- an unset slot is the unset span from everywhere, and that is not moved
    rw [behind, behind, if_neg hset, if_neg hset]
    rfl

/-! ## Two scans in step -/

namespace Scan

variable {σ κ α : Type}

/-- Steps of two scans from their places `j` that lead to places of one number again, and of which
the second tells what the first tells, moved by `q`. -/
structure InStep (K : Kind σ κ α) (near far : ℕ → σ) (cut : κ → κ) (q n j : ℕ) (c : κ)
    (step step' : Step σ α) : Prop where
  exists_place : ∃ j' ≤ n, step.scan = near j' ∧ step'.scan = far j'
  outcome_eq : step'.outcome.map (K.tell (far j) c)
    = (step.outcome.map (K.tell (near j) (cut c))).map (·.shift (UInt64.ofNat q))

/-- Two scans that stay in step: at each of its places, `far` is `q` bytes further than `near`. A
call `c` on the one is the call `cut c` on the other. -/
structure Shift (K : Kind σ κ α) (near far : ℕ → σ) (cut : κ → κ) (Allowed : κ → Prop)
    (q n : ℕ) : Prop where
  position_eq : ∀ j ≤ n, K.position (far j) = K.position (near j) + UInt64.ofNat q
  isExhausted_eq : ∀ j ≤ n, K.isExhausted (far j) = K.isExhausted (near j)
  inStep : ∀ j ≤ n, ∀ c, Allowed c → ∃ step step', K.next (near j) (cut c) = .ok step ∧
    K.next (far j) c = .ok step' ∧ InStep K near far cut q n j c step step'

namespace Shift

variable {K : Kind σ κ α} {near far : ℕ → σ} {cut : κ → κ} {Allowed : κ → Prop} {q n j : ℕ}

/-- Whatever is called, the one tells what the other tells, moved. -/
lemma observe (h : Shift K near far cut Allowed q n) {calls : List κ}
    (hcalls : ∀ c ∈ calls, Allowed c) (hj : j ≤ n) :
    ∃ reports, K.observe (near j) (calls.map cut) = .ok reports ∧
      K.observe (far j) calls = .ok (reports.map (Report.shift (UInt64.ofNat q))) := by
  -- the induction is on the calls; between two calls, both are at places of one number
  induction calls generalizing j with
  | nil => exact ⟨[], rfl, rfl⟩
  | cons c calls ih =>
    obtain ⟨step, step', hnext, hnext', hin⟩ := h.inStep j hj c (hcalls c List.mem_cons_self)
    obtain ⟨j', hj', hscan, hscan'⟩ := hin.exists_place
    obtain ⟨reports, hreports, hreports'⟩ :=
      ih (fun c' hc' => hcalls c' (List.mem_cons_of_mem c hc')) hj'
    have hnear := K.call_of_next hnext
    have hfar := K.call_of_next hnext'
    rw [← hscan] at hreports
    rw [← hscan'] at hreports'
    refine ⟨K.report ⟨near j, cut c, step.map (K.tell (near j) (cut c))⟩ :: reports, ?_, ?_⟩
    · rw [List.map_cons, K.observe_cons hnear]
      show (K.observe step.scan _).map _ = _
      rw [hreports]
      rfl
    · rw [K.observe_cons hfar]
      show (K.observe step'.scan _).map _ = _
      rw [hreports', List.map_cons]
      have hreport : K.report ⟨far j, c, step'.map (K.tell (far j) c)⟩
          = (K.report ⟨near j, cut c, step.map (K.tell (near j) (cut c))⟩).shift
              (UInt64.ofNat q) := by
        show (⟨step'.outcome.map _, K.position step'.scan, K.isExhausted step'.scan⟩ : Report)
          = ⟨(step.outcome.map _).map _, K.position step.scan + _, K.isExhausted step.scan⟩
        rw [hin.outcome_eq, hscan, hscan', h.position_eq j' hj', h.isExhausted_eq j' hj']
      rw [hreport]
      rfl

end Shift

end Scan

/-! ## The two kinds of scans -/

variable {E : Engine} {code : E.Code} {q : ℕ}

namespace WholeScan

variable {text : Bytes}

/-- The same answer leads a scan of a text and a scan of its rest to steps in step. -/
lemma inStep_stepFrom {p : Compiled E} {j : ℕ} {c : Call} {answer : Except Failure (Option Match)}
    (hn : text.length < npos.toNat) (hq : q ≤ text.length) (hj : j ≤ text.length - q)
    (hm : ∀ m, answer = .ok (some m) → m.WholeFits (text.length - q - j)) :
    Scan.InStep kind (ofPosition p (text.drop q)) (fun j => ofPosition p text (q + j)) id q
      (text.length - q) j c (stepFrom p (text.drop q) j answer)
      (stepFrom p text (q + j) answer) := by
  have hlength : (text.drop q).length = text.length - q := List.length_drop
  have hend : q + (text.length - q) = text.length := by omega
  rcases answer with failure | _ | m
  · refine ⟨⟨text.length - q, Nat.le_refl _, ?_, ?_⟩, rfl⟩
    · rw [stepFrom, hlength]
    · rw [stepFrom, hend]
  · refine ⟨⟨text.length - q, Nat.le_refl _, ?_, ?_⟩, rfl⟩
    · rw [stepFrom, hlength]
    · rw [stepFrom, hend]
  · obtain ⟨-, hset, hwithin⟩ := hm m rfl
    have hread := Slot.read_behind_add hq hj hn hwithin
    refine ⟨⟨min (j + m.whole.start.toNat + 1) (text.length - q), Nat.min_le_right _ _, ?_, ?_⟩, ?_⟩
    · rw [stepFrom, hlength]
    · have hplace : min (q + j + m.whole.start.toNat + 1) text.length
          = q + min (j + m.whole.start.toNat + 1) (text.length - q) := by omega
      rw [stepFrom, hplace]
    · cases c with
      | next =>
        show Scan.Outcome.found (Finding.span ((m.whole.behind (q + j)).read text)) = _
        rw [hread]
        rfl
      | nextText =>
        show Scan.Outcome.found (Finding.text ((m.whole.behind (q + j)).read text).text) = _
        rw [hread, Span.shift]
        split_ifs <;> rfl

/-- A scan of a text from `q` on is in step with a scan of the rest. -/
lemma shift (hE : E.Sound code (E.groups code + 1)) (hn : text.length < npos.toNat)
    (hq : q ≤ text.length) :
    Scan.Shift kind (ofPosition (.ofCode code) (text.drop q))
      (fun j => ofPosition (.ofCode code) text (q + j)) id (fun _ => True) q
      (text.length - q) where
  position_eq j _ := by
    show _ = (Cursor.ofPosition j (text.drop q).length).position + _
    rw [List.length_drop]
    exact Cursor.position_ofPosition_add q j text.length
  isExhausted_eq j hj := by
    show _ = (Cursor.ofPosition j (text.drop q).length).isEnd
    rw [List.length_drop]
    exact Cursor.isEnd_ofPosition_add (by omega) hn
  inStep j hj c _ := by
    have hlength : (text.drop q).length = text.length - q := List.length_drop
    rcases Nat.lt_or_eq_of_le hj with hlt | rfl
    · have hnear : next (ofPosition (.ofCode code) (text.drop q) j) = _ :=
        next_of_lt hE (by omega) (by omega)
      have hfar := next_of_lt hE (k := q + j) (by omega) hn
      -- both search the same bytes
      rw [List.drop_drop] at hnear
      refine ⟨_, _, hnear, hfar, inStep_stepFrom hn hq hj fun m hm => ?_⟩
      rw [Nat.sub_sub]
      exact (Compiled.find_drop_fits hE hn hm).wholeFits
    · have hnear : next (ofPosition (.ofCode code) (text.drop q) (text.drop q).length) = _ :=
        next_at_end (by omega)
      have hfar : next (ofPosition (.ofCode code) text (q + (text.length - q)))
          = .ok ⟨.nothing, ofPosition (.ofCode code) text (q + (text.length - q)), []⟩ := by
        rw [show q + (text.length - q) = text.length by omega]
        exact next_at_end hn
      rw [hlength] at hnear
      exact ⟨_, _, hnear, hfar, ⟨⟨text.length - q, Nat.le_refl _, rfl, rfl⟩, rfl⟩⟩

end WholeScan

namespace GroupScan

variable {buffer : Bytes}

/-- What a record behind `q + j` tells of a buffer is what it tells of the rest behind `j`, moved by
`q`. -/
lemma read_map_behind_add {j : ℕ} {slots : List Slot} (hn : buffer.length < npos.toNat)
    (hq : q ≤ buffer.length) (hj : j ≤ buffer.length - q)
    (hslots : ∀ s ∈ slots, s.Within (buffer.length - q - j)) :
    Record.read (slots.map (Slot.behind · (q + j))) buffer
      = List.map (Span.shift (UInt64.ofNat q))
          (Record.read (slots.map (Slot.behind · j)) (buffer.drop q)) := by
  rw [Record.read, Record.read, List.map_map, List.map_map, List.map_map]
  refine List.map_congr_left fun s hs => ?_
  exact Slot.read_behind_add hq hj hn (hslots s hs)

/-- The same answer leads a scan of a buffer and a scan of its rest to steps in step. -/
lemma inStep_stepFrom {p : Compiled E} {j : ℕ} {answer : Except Failure (Option Match)}
    (hn : buffer.length < npos.toNat)
    (hq : q ≤ buffer.length) (hj : j ≤ buffer.length - q)
    (hm : ∀ m, answer = .ok (some m) → ∀ s ∈ m.slots, s.Within (buffer.length - q - j)) :
    Scan.InStep kind (ofPosition p (buffer.length - q))
      (fun j => ofPosition p buffer.length (q + j)) (List.drop q) q (buffer.length - q) j buffer
      (stepFrom p (buffer.length - q) j answer) (stepFrom p buffer.length (q + j) answer) := by
  have hend : q + (buffer.length - q) = buffer.length := by omega
  rcases answer with failure | _ | m
  · refine ⟨⟨buffer.length - q, Nat.le_refl _, rfl, ?_⟩, rfl⟩
    rw [stepFrom, hend]
  · refine ⟨⟨buffer.length - q, Nat.le_refl _, rfl, ?_⟩, rfl⟩
    rw [stepFrom, hend]
  · by_cases hempty : m.whole.start = m.whole.stop
    · rw [stepFrom, stepFrom, if_pos hempty, if_pos hempty]
      refine ⟨⟨buffer.length - q, Nat.le_refl _, rfl, ?_⟩, rfl⟩
      rw [hend]
    · rw [stepFrom, stepFrom, if_neg hempty, if_neg hempty]
      have hplace : min (q + j + m.whole.start.toNat + 1) buffer.length
          = q + min (j + m.whole.start.toNat + 1) (buffer.length - q) := by omega
      refine ⟨⟨min (j + m.whole.start.toNat + 1) (buffer.length - q), Nat.min_le_right _ _, rfl,
        ?_⟩, ?_⟩
      · rw [hplace]
      · show Scan.Outcome.found (Finding.record (Record.read _ buffer)) = _
        rw [read_map_behind_add hn hq hj (hm m rfl)]
        rfl

/-- A scan of a buffer from `q` on is in step with a scan of the rest. -/
lemma shift {n : ℕ} (hE : E.Sound code (E.groups code + 1)) (hn : n < npos.toNat) (hq : q ≤ n) :
    Scan.Shift kind (ofPosition (.ofCode code) (n - q))
      (fun j => ofPosition (.ofCode code) n (q + j)) (List.drop q) (·.length = n) q (n - q) where
  position_eq j _ := Cursor.position_ofPosition_add q j n
  isExhausted_eq _ hj := Cursor.isEnd_ofPosition_add (by omega) hn
  inStep := by
    rintro j hj buffer rfl
    have hlength : (buffer.drop q).length = buffer.length - q := List.length_drop
    rcases Nat.lt_or_eq_of_le hj with hlt | rfl
    · have hnear : next (ofPosition (.ofCode code) (buffer.drop q).length j) (buffer.drop q) = _ :=
        next_of_lt hE (by omega) (by omega)
      have hfar := next_of_lt hE (k := q + j) (by omega) hn
      rw [List.drop_drop, hlength] at hnear
      refine ⟨_, _, hnear, hfar, inStep_stepFrom hn hq hj fun m hm => ?_⟩
      rw [Nat.sub_sub]
      exact (Compiled.find_drop_fits hE hn hm).within
    · have hnear := next_at_end (p := .ofCode code) (n := buffer.length - q) (buffer.drop q)
        (by omega)
      have hfar : next (ofPosition (.ofCode code) buffer.length (q + (buffer.length - q))) buffer
          = .ok ⟨.nothing, ofPosition (.ofCode code) buffer.length (q + (buffer.length - q)),
            []⟩ := by
        rw [show q + (buffer.length - q) = buffer.length by omega]
        exact next_at_end buffer hn
      exact ⟨_, _, hnear, hfar, ⟨⟨buffer.length - q, Nat.le_refl _, rfl, rfl⟩, rfl⟩⟩

end GroupScan

namespace Scan

/-- Every scan that calls lead to is at one of its places. -/
lemma Course.exists_place {σ κ α : Type} {K : Kind σ κ α} {Shape : Span Extent → Prop}
    {place : ℕ → σ} {Allowed : κ → Prop} {n : ℕ} (h : Course K Shape place Allowed n) {s : σ}
    (hs : Reaches K.call Allowed (place 0) s) : ∃ k ≤ n, s = place k := by
  induction hs with
  | refl => exact ⟨0, Nat.zero_le n, rfl⟩
  | @call t c step reached allowed stepped ih =>
    obtain ⟨k, hk, rfl⟩ := ih
    obtain ⟨step', hstep', hmoves⟩ := h.moves k hk c allowed
    rw [K.call_eq, hstep'] at stepped
    cases stepped
    exact hmoves.exists_place

end Scan

namespace WholeScan

variable {text : Bytes} {s : WholeScan E}

/-- The scans of a text that calls lead to. -/
def Reached (p : Compiled E) (text : Bytes) : WholeScan E → Prop :=
  Scan.Reaches kind.call (fun _ => True) (ofText p text)

/-- A scan that was reached is at its position. -/
lemma Reached.eq_ofPosition (h : Reached (.ofCode code) text s)
    (hE : E.Sound code (E.groups code + 1)) (hn : text.length < npos.toNat) :
    s.position.toNat ≤ text.length ∧ s = ofPosition (.ofCode code) text s.position.toNat := by
  obtain ⟨k, hk, rfl⟩ := (course hE hn).exists_place h
  rw [position_ofPosition hk hn]
  exact ⟨hk, rfl⟩

/-- A scan that was reached tells what a new scan of the rest tells, moved. -/
lemma Reached.observe_eq (h : Reached (.ofCode code) text s)
    (hE : E.Sound code (E.groups code + 1)) (hn : text.length < npos.toNat) (calls : List Call) :
    ∃ reports,
      kind.observe (ofText (.ofCode code) (text.drop s.position.toNat)) calls = .ok reports ∧
      kind.observe s calls = .ok (reports.map (Scan.Report.shift s.position)) := by
  obtain ⟨hk, hs⟩ := h.eq_ofPosition hE hn
  have hcalls : ∀ c ∈ calls, True := fun _ _ => trivial
  obtain ⟨reports, hnear, hfar⟩ := (shift hE hn hk).observe (j := 0) hcalls (Nat.zero_le _)
  rw [List.map_id] at hnear
  rw [Nat.add_zero, ← hs, UInt64.ofNat_toNat] at hfar
  exact ⟨reports, hnear, hfar⟩

end WholeScan

namespace GroupScan

variable {n : ℕ} {s : GroupScan E}

/-- The scans of buffers of `n` bytes that calls lead to. -/
def Reached (p : Compiled E) (n : ℕ) : GroupScan E → Prop :=
  Scan.Reaches kind.call (·.length = n) (ofLength p n)

/-- A scan that was reached is at its position. -/
lemma Reached.eq_ofPosition (h : Reached (.ofCode code) n s)
    (hE : E.Sound code (E.groups code + 1)) (hn : n < npos.toNat) :
    s.position.toNat ≤ n ∧ s = ofPosition (.ofCode code) n s.position.toNat := by
  obtain ⟨k, hk, rfl⟩ := (course hE hn).exists_place h
  rw [position_ofPosition hk hn]
  exact ⟨hk, rfl⟩

/-- A scan that was reached tells what a new scan of the rest tells, moved. -/
lemma Reached.observe_eq (h : Reached (.ofCode code) n s)
    (hE : E.Sound code (E.groups code + 1)) (hn : n < npos.toNat) {buffers : List Bytes}
    (hbuffers : ∀ b ∈ buffers, b.length = n) :
    ∃ reports,
      kind.observe (ofLength (.ofCode code) (n - s.position.toNat))
          (buffers.map (List.drop s.position.toNat)) = .ok reports ∧
      kind.observe s buffers = .ok (reports.map (Scan.Report.shift s.position)) := by
  obtain ⟨hk, hs⟩ := h.eq_ofPosition hE hn
  obtain ⟨reports, hnear, hfar⟩ := (shift hE hn hk).observe (j := 0) hbuffers (Nat.zero_le _)
  rw [Nat.add_zero, ← hs, UInt64.ofNat_toNat] at hfar
  exact ⟨reports, hnear, hfar⟩

end GroupScan

namespace Scan

/-- Whatever calls led to a scan, from its position on it tells what a new scan of the rest of its
buffer tells: with the position added to every offset and to every later position, and otherwise
the same. So two scans at one position of buffers with the same rest tell the same. A scan for
groups may see its buffer change, as long as its length does not. -/
theorem observe_restarted {buffer : Bytes} (hE : E.Sound code (E.groups code + 1))
    (hn : buffer.length < npos.toNat) :
    (∀ s, WholeScan.Reached (.ofCode code) buffer s → s.position.toNat < buffer.length →
      ∀ calls, ∃ reports,
        WholeScan.kind.observe
          (WholeScan.ofText (.ofCode code) (buffer.drop s.position.toNat)) calls = .ok reports ∧
        WholeScan.kind.observe s calls = .ok (reports.map (Report.shift s.position))) ∧
    (∀ s, GroupScan.Reached (.ofCode code) buffer.length s →
      s.position.toNat < buffer.length →
      ∀ buffers : List Bytes, (∀ b ∈ buffers, b.length = buffer.length) → ∃ reports,
        GroupScan.kind.observe
          (GroupScan.ofLength (.ofCode code) (buffer.length - s.position.toNat))
          (buffers.map (List.drop s.position.toNat)) = .ok reports ∧
        GroupScan.kind.observe s buffers = .ok (reports.map (Report.shift s.position))) ∧
    (∀ (buffer' : Bytes) (s s' : WholeScan E), buffer'.length = buffer.length →
      WholeScan.Reached (.ofCode code) buffer s → WholeScan.Reached (.ofCode code) buffer' s' →
      s.position = s'.position → s.position.toNat < buffer.length →
      buffer.drop s.position.toNat = buffer'.drop s.position.toNat →
      ∀ calls, WholeScan.kind.observe s calls = WholeScan.kind.observe s' calls) ∧
    ∀ s s' : GroupScan E, GroupScan.Reached (.ofCode code) buffer.length s →
      GroupScan.Reached (.ofCode code) buffer.length s' →
      s.position = s'.position → s.position.toNat < buffer.length →
      ∀ buffers buffers' : List Bytes, (∀ b ∈ buffers, b.length = buffer.length) →
        (∀ b ∈ buffers', b.length = buffer.length) →
        buffers.map (List.drop s.position.toNat) = buffers'.map (List.drop s.position.toNat) →
        GroupScan.kind.observe s buffers = GroupScan.kind.observe s' buffers' := by
  refine ⟨?_, ?_, ?_, ?_⟩
  · intro s hs _ calls
    exact hs.observe_eq hE hn calls
  · intro s hs _ buffers hbuffers
    exact hs.observe_eq hE hn hbuffers
  · intro buffer' s s' hlength hs hs' hposition _ hrest calls
    obtain ⟨reports, hnear, hfar⟩ := hs.observe_eq hE hn calls
    obtain ⟨reports', hnear', hfar'⟩ := hs'.observe_eq hE (by omega) calls
    -- both are told by the new scan of the one rest
    rw [← hposition, ← hrest, hnear] at hnear'
    cases hnear'
    rw [hfar, hfar', hposition]
  · intro s s' hs hs' hposition _ buffers buffers' hbuffers hbuffers' hrests
    obtain ⟨reports, hnear, hfar⟩ := hs.observe_eq hE hn hbuffers
    obtain ⟨reports', hnear', hfar'⟩ := hs'.observe_eq hE hn hbuffers'
    rw [← hposition, ← hrests, hnear] at hnear'
    cases hnear'
    rw [hfar, hfar', hposition]

/-- From position 1 of `xxa`, with `(x)*`: as a new scan of `xa`, and as in `axa`. -/
theorem observe_restarted_in_xxa :
    sample.Sound (.star 120) (sample.groups (.star 120) + 1) ∧
      (Bytes.ascii "xxa").length < npos.toNat ∧
      ∃ (s s' : WholeScan sample) (t : GroupScan sample),
        WholeScan.Reached sampleStar (Bytes.ascii "xxa") s ∧
        WholeScan.Reached sampleStar (Bytes.ascii "axa") s' ∧
        GroupScan.Reached sampleStar 3 t ∧
        s.position = 1 ∧ s'.position = 1 ∧ t.position = 1 ∧
        (∃ reports,
          WholeScan.kind.observe (WholeScan.ofText sampleStar (Bytes.ascii "xa"))
            [.next, .nextText, .next] = .ok reports ∧
          WholeScan.kind.observe s [.next, .nextText, .next]
            = .ok (reports.map (Report.shift 1))) ∧
        (∃ reports,
          GroupScan.kind.observe (GroupScan.ofLength sampleStar 2)
            [Bytes.ascii "xa", Bytes.ascii "xa"] = .ok reports ∧
          GroupScan.kind.observe t [Bytes.ascii "xxa", Bytes.ascii "axa"]
            = .ok (reports.map (Report.shift 1))) ∧
        WholeScan.kind.observe s [.next, .next] = WholeScan.kind.observe s' [.next, .next] ∧
        GroupScan.kind.observe t [Bytes.ascii "xxa"]
          = GroupScan.kind.observe t [Bytes.ascii "axa"] := by
  have hE := sample_sound (.star 120) (sample.groups (.star 120) + 1)
  have hn : (Bytes.ascii "xxa").length < npos.toNat := by decide
  have hstep : WholeScan.kind.call (WholeScan.ofText sampleStar (Bytes.ascii "xxa")) .next
      = .ok ⟨.found (.span ⟨0, 2, some (Bytes.ascii "xx")⟩),
          .ofPosition sampleStar (Bytes.ascii "xxa") 1, []⟩ := rfl
  have hstep' : WholeScan.kind.call (WholeScan.ofText sampleStar (Bytes.ascii "axa")) .next
      = .ok ⟨.found (.span ⟨0, 0, some []⟩),
          .ofPosition sampleStar (Bytes.ascii "axa") 1, []⟩ := rfl
  have hgroup : GroupScan.kind.call (GroupScan.ofLength sampleStar 3) (Bytes.ascii "xxa")
      = .ok ⟨.found (.record [⟨0, 2, some (Bytes.ascii "xx")⟩, ⟨1, 2, some (Bytes.ascii "x")⟩]),
          .ofPosition sampleStar 3 1, []⟩ := rfl
  have hs : WholeScan.Reached sampleStar (Bytes.ascii "xxa")
      (.ofPosition sampleStar (Bytes.ascii "xxa") 1) := .call .refl trivial hstep
  have hs' : WholeScan.Reached sampleStar (Bytes.ascii "axa")
      (.ofPosition sampleStar (Bytes.ascii "axa") 1) := .call .refl trivial hstep'
  have ht : GroupScan.Reached sampleStar 3 (.ofPosition sampleStar 3 1) := by
    refine .call .refl ?_ hgroup
    decide
  obtain ⟨hwhole, hgroups, hrest, hrests⟩ := observe_restarted hE hn
  refine ⟨hE, hn, _, _, _, hs, hs', ht, rfl, rfl, rfl, ?_, ?_, ?_, ?_⟩
  · exact hwhole _ hs (by decide) _
  · exact hgroups _ ht (by decide) [Bytes.ascii "xxa", Bytes.ascii "axa"] (by decide)
  · exact hrest (Bytes.ascii "axa") _ _ rfl hs hs' rfl (by decide) rfl _
  · exact hrests _ _ ht ht rfl (by decide) _ _ (by decide) (by decide) rfl

end Scan

end PatternScan
