import PatternScan.Proofs.Position
import PatternScan.Scan.Group
import PatternScan.Scan.Whole

/-!
# Steps from a position

What one step of a scan does, as a function of its position and of the engine's answer there.
`WholeScan.stepFrom` and `GroupScan.stepFrom` say it in natural numbers and without a broken
promise; `next_of_lt` and `next_at_end` say that this is what a step does, for an engine that
keeps its promise and a buffer shorter than `npos` bytes.
-/

namespace PatternScan

/-- Checked results that are asked for by number and of which no check fails. -/
lemma mapM_range_eq_ok_map {ι α : Type} {f : ℕ → Except Breach α} {g : ι → α} {is : List ι}
    (h : ∀ i, (hi : i < is.length) → f i = .ok (g is[i])) :
    (List.range is.length).mapM f = .ok (is.map g) := by
  induction is generalizing f with
  | nil => rfl
  | cons a is ih =>
    have hrest := ih (f := f ∘ Nat.succ) fun i hi => h (i + 1) (Nat.succ_lt_succ hi)
    rw [List.length_cons, List.range_succ_eq_map, List.mapM_cons, h 0 (Nat.succ_pos _),
      List.mapM_map, hrest]
    rfl

/-! ## The whole match -/

namespace Match

/-- The slot of the whole match. -/
def whole (m : Match) : Slot := m.slots.headD .unset

/-- A match whose slot of the whole match may be read and lies in a subject of `n` bytes. -/
structure WholeFits (m : Match) (n : ℕ) : Prop where
  slot_eq : m.slot 0 = .ok m.whole
  isSet : m.whole.isSet = true
  within : m.whole.Within n

namespace Fits

variable {m : Match} {groups n : ℕ}

lemma wholeFits (h : m.Fits groups n) : m.WholeFits n := by
  obtain ⟨w, rest, hslots, hset, hwithin⟩ := h.exists_slots
  have hw : m.whole = w := by rw [whole, hslots]; rfl
  have hslot : m.slot 0 = .ok w := by
    rw [h.slot_eq (i := 0) (by simp [hslots])]
    simp [hslots]
  exact ⟨by rw [hw, hslot], by rw [hw]; exact hset, by rw [hw]; exact hwithin⟩

end Fits

namespace WholeFits

variable {m : Match} {n : ℕ}

lemma start_eq (h : m.WholeFits n) : m.start 0 = .ok m.whole.start := by
  rw [start, h.slot_eq]; rfl

lemma stop_eq (h : m.WholeFits n) : m.stop 0 = .ok m.whole.stop := by
  rw [stop, h.slot_eq]; rfl

end WholeFits

end Match

variable {E : Engine}

/-! ## Scans for whole matches -/

namespace WholeScan

/-- The scan of a text at a position. -/
def ofPosition (p : Compiled E) (text : Bytes) (k : ℕ) : WholeScan E :=
  ⟨p, text, .ofPosition k text.length⟩

/-- What a step from position `k` does if the engine gives an answer for the rest of the text. -/
def stepFrom (p : Compiled E) (text : Bytes) (k : ℕ) :
    Except Failure (Option Match) → Scan.Step (WholeScan E) (Span Extent)
  | .error failure => ⟨.failed failure, ofPosition p text text.length, []⟩
  | .ok none =>
    ⟨.nothing, ofPosition p text text.length, [Scan.noMatchMessage domain (UInt64.ofNat k)]⟩
  | .ok (some m) =>
    ⟨.found (m.whole.behind k),
      ofPosition p text (min (k + m.whole.start.toNat + 1) text.length), []⟩

variable {p : Compiled E} {text : Bytes} {k : ℕ}

lemma ofText_eq : ofText p text = ofPosition p text 0 := rfl

lemma position_ofPosition (hk : k ≤ text.length) (hn : text.length < npos.toNat) :
    (ofPosition p text k).position.toNat = k :=
  (Cursor.toNat_ofPosition hk hn).1

lemma isExhausted_ofPosition (hk : k ≤ text.length) (hn : text.length < npos.toNat) :
    (ofPosition p text k).isExhausted = decide (k = text.length) :=
  Cursor.isEnd_ofPosition hk hn

lemma next_at_end (hn : text.length < npos.toNat) :
    (ofPosition p text text.length).next = .ok ⟨.nothing, ofPosition p text text.length, []⟩ := by
  rw [next, rest?, ofPosition, Cursor.rest?_at_end _ hn]
  rfl

/-- A match whose whole text lies in the rest is yielded. -/
lemma settle_some {m : Match} (hk : k ≤ text.length) (hn : text.length < npos.toNat)
    (hm : m.WholeFits (text.length - k)) :
    (ofPosition p text k).settle (.ok (some m)) = .ok (stepFrom p text k (.ok (some m))) := by
  obtain ⟨hle, hstop⟩ := hm.within.bounds hm.isSet
  have hspan : (Cursor.ofPosition k text.length).span text m 0 = .ok (m.whole.behind k) := by
    rw [Cursor.span, hm.slot_eq]
    exact Cursor.spanOfSlot_ofPosition hk hn hm.within
  have hadvance : (Cursor.ofPosition k text.length).advance m.whole.start
      = Cursor.ofPosition (min (k + m.whole.start.toNat + 1) text.length) text.length :=
    Cursor.advance_ofPosition (by omega) hn
  rw [settle, ofPosition, hspan, hm.start_eq]
  show Except.ok (⟨_, ⟨p, text, (Cursor.ofPosition k text.length).advance m.whole.start⟩, _⟩ :
    Scan.Step (WholeScan E) (Span Extent)) = _
  rw [hadvance]
  rfl

/-- Before the end, a step is what it makes of the engine's answer for the rest of the text. -/
lemma next_eq_stepFrom (hk : k < text.length) (hn : text.length < npos.toNat)
    (hm : ∀ m, p.find (text.drop k) = .ok (some m) → m.WholeFits (text.length - k)) :
    (ofPosition p text k).next = .ok (stepFrom p text k (p.find (text.drop k))) := by
  have hnext : (ofPosition p text k).next
      = (ofPosition p text k).settle (p.find (text.drop k)) := by
    rw [next, rest?, ofPosition, Cursor.rest?_of_lt hk hn]
    rfl
  rw [hnext]
  rcases hfind : p.find (text.drop k) with failure | _ | m
  · rfl
  · rfl
  · exact settle_some (Nat.le_of_lt hk) hn (hm m hfind)

lemma next_of_lt {code : E.Code} (hE : E.Sound code (E.groups code + 1)) (hk : k < text.length)
    (hn : text.length < npos.toNat) :
    (ofPosition (.ofCode code) text k).next
      = .ok (stepFrom (.ofCode code) text k ((Compiled.ofCode code).find (text.drop k))) := by
  refine next_eq_stepFrom hk hn fun m hm => ?_
  exact (Compiled.find_drop_fits hE hn hm).wholeFits

end WholeScan

/-! ## Scans for groups -/

namespace GroupScan

/-- The scan of a buffer of `n` bytes at a position. -/
def ofPosition (p : Compiled E) (n k : ℕ) : GroupScan E :=
  ⟨p, .ofPosition k n⟩

/-- What a step from position `k` of `n` does if the engine gives an answer for the rest of the
buffer. -/
def stepFrom (p : Compiled E) (n k : ℕ) :
    Except Failure (Option Match) → Scan.Step (GroupScan E) (Record Extent)
  | .error failure => ⟨.failed failure, ofPosition p n n, []⟩
  | .ok none => ⟨.nothing, ofPosition p n n, [Scan.noMatchMessage domain (UInt64.ofNat k)]⟩
  | .ok (some m) =>
    if m.whole.start = m.whole.stop then
      ⟨.nothing, ofPosition p n n,
        [Scan.emptyMatchMessage domain (UInt64.ofNat (k + m.whole.start.toNat))]⟩
    else
      ⟨.found (m.slots.map (Slot.behind · k)),
        ofPosition p n (min (k + m.whole.start.toNat + 1) n), []⟩

variable {p : Compiled E} {buffer : Bytes} {n k : ℕ}

lemma ofLength_eq : ofLength p n = ofPosition p n 0 := rfl

lemma position_ofPosition (hk : k ≤ n) (hn : n < npos.toNat) :
    (ofPosition p n k).position.toNat = k :=
  (Cursor.toNat_ofPosition hk hn).1

lemma isExhausted_ofPosition (hk : k ≤ n) (hn : n < npos.toNat) :
    (ofPosition p n k).isExhausted = decide (k = n) :=
  Cursor.isEnd_ofPosition hk hn

lemma next_at_end (buffer : Bytes) (hn : n < npos.toNat) :
    (ofPosition p n n).next buffer = .ok ⟨.nothing, ofPosition p n n, []⟩ := by
  rw [next, rest?, ofPosition, Cursor.rest?_at_end _ hn]
  rfl

/-- The spans of a match in the rest of the buffer, read off slot by slot. -/
lemma spans_eq {m : Match} {groups : ℕ} (hk : k ≤ buffer.length)
    (hn : buffer.length < npos.toNat) (hm : m.Fits groups (buffer.length - k)) :
    (Cursor.ofPosition k buffer.length).spans buffer m (groups + 1)
      = .ok (m.slots.map (Slot.behind · k)) := by
  rw [Cursor.spans, ← hm.slots_length]
  refine mapM_range_eq_ok_map fun i hi => ?_
  rw [Cursor.span, hm.slot_eq hi]
  exact Cursor.spanOfSlot_ofPosition hk hn (hm.within _ (List.getElem_mem hi))

/-- A match that fits is yielded unless it is empty. -/
lemma settle_some {m : Match} (hk : k ≤ buffer.length) (hn : buffer.length < npos.toNat)
    (hm : m.Fits p.groups (buffer.length - k)) :
    (ofPosition p buffer.length k).settle buffer (.ok (some m))
      = .ok (stepFrom p buffer.length k (.ok (some m))) := by
  have hmax := npos_toNat
  have hwhole := hm.wholeFits
  obtain ⟨hle, hstop⟩ := hwhole.within.bounds hwhole.isSet
  have hadvance : (Cursor.ofPosition k buffer.length).advance m.whole.start
      = Cursor.ofPosition (min (k + m.whole.start.toNat + 1) buffer.length) buffer.length :=
    Cursor.advance_ofPosition (by omega) hn
  have hsum : UInt64.ofNat k + m.whole.start = UInt64.ofNat (k + m.whole.start.toNat) := by
    rw [UInt64.ofNat_add, UInt64.ofNat_toNat]
  rw [settle, hwhole.start_eq, hwhole.stop_eq]
  by_cases hempty : m.whole.start = m.whole.stop
  · show (if m.whole.start = m.whole.stop then _ else _) = _
    rw [if_pos hempty, stepFrom, if_pos hempty, ← hsum]
    rfl
  · show (if m.whole.start = m.whole.stop then _ else _) = _
    rw [if_neg hempty, stepFrom, if_neg hempty]
    show (do
      Breach.check (m.size = p.groups + 1) .groupCount
      let record ← (Cursor.ofPosition k buffer.length).spans buffer m (p.groups + 1)
      return (⟨.found record, ⟨p, (Cursor.ofPosition k buffer.length).advance m.whole.start⟩,
        []⟩ : Scan.Step (GroupScan E) (Record Extent))) = _
    rw [hm.size_eq, spans_eq hk hn hm, hadvance]
    simp [ofPosition, bind, Except.bind, pure, Except.pure]

/-- Before the end, a step is what it makes of the engine's answer for the rest of the buffer. -/
lemma next_of_lt {code : E.Code} (hE : E.Sound code (E.groups code + 1))
    (hk : k < buffer.length) (hn : buffer.length < npos.toNat) :
    (ofPosition (.ofCode code) buffer.length k).next buffer
      = .ok (stepFrom (.ofCode code) buffer.length k
          ((Compiled.ofCode code).find (buffer.drop k))) := by
  have hnext : (ofPosition (.ofCode code) buffer.length k).next buffer
      = (ofPosition (.ofCode code) buffer.length k).settle buffer
          ((Compiled.ofCode code).find (buffer.drop k)) := by
    rw [next, rest?, ofPosition, Cursor.rest?_of_lt hk hn]
    rfl
  rw [hnext]
  rcases hfind : (Compiled.ofCode code).find (buffer.drop k) with failure | _ | m
  · rfl
  · rfl
  · exact settle_some (Nat.le_of_lt hk) hn (Compiled.find_drop_fits hE hn hfind)

end GroupScan

end PatternScan
