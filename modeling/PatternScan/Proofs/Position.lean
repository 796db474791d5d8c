import PatternScan.Cursor
import PatternScan.Proofs.Promise

/-!
# Cursors by their positions

As long as a buffer is shorter than `npos` bytes, no sum of a cursor wraps, so all a cursor does
can be said in natural numbers. `Cursor.ofPosition k n` is the cursor at position `k` of `n`
bytes; each operation is stated for it, and a slot of a search from there is turned into the span
`Slot.behind k`.
-/

namespace PatternScan

/-! ## Slots behind a position -/

namespace Slot

/-- The span in the whole buffer of a slot of a search from position `k`. -/
def behind (s : Slot) (k : ℕ) : Span Extent :=
  if s.isSet then
    ⟨UInt64.ofNat (k + s.start.toNat), UInt64.ofNat (k + s.stop.toNat),
      some ⟨k + s.start.toNat, s.stop.toNat - s.start.toNat⟩⟩
  else Span.unset

lemma Within.bounds {s : Slot} {n : ℕ} (h : s.Within n) (hset : s.isSet = true) :
    s.start.toNat ≤ s.stop.toNat ∧ s.stop.toNat ≤ n := by
  obtain ⟨hle, hn⟩ := h hset
  exact ⟨UInt64.le_iff_toNat_le.mp hle, hn⟩

lemma behind_of_isSet {s : Slot} (hset : s.isSet = true) (k : ℕ) :
    s.behind k = ⟨UInt64.ofNat (k + s.start.toNat), UInt64.ofNat (k + s.stop.toNat),
      some ⟨k + s.start.toNat, s.stop.toNat - s.start.toNat⟩⟩ := by
  rw [behind, if_pos hset]

/-- The ends of the span of a set slot are behind the position as those of the slot are behind the
front. -/
lemma behind_bounds {s : Slot} {k n : ℕ} (hset : s.isSet = true) (h : s.Within (n - k))
    (hk : k ≤ n) (hn : n < npos.toNat) :
    (s.behind k).start.toNat = k + s.start.toNat ∧ (s.behind k).stop.toNat = k + s.stop.toNat := by
  obtain ⟨hle, hstop⟩ := h.bounds hset
  rw [behind_of_isSet hset]
  exact ⟨toNat_ofNat_of_lt_npos (by omega), toNat_ofNat_of_lt_npos (by omega)⟩

/-- The span of a set slot is empty iff the slot is. -/
lemma behind_isEmpty {s : Slot} {k n : ℕ} (hset : s.isSet = true) (h : s.Within (n - k))
    (hk : k ≤ n) (hn : n < npos.toNat) : (s.behind k).isEmpty = decide (s.start = s.stop) := by
  obtain ⟨hstart, hstop⟩ := behind_bounds hset h hk hn
  rw [Span.isEmpty, Bool.eq_iff_iff, beq_iff_eq, decide_eq_true_iff, ← UInt64.toNat_inj,
    ← UInt64.toNat_inj, hstart, hstop]
  omega

end Slot

/-! ## Cursors at a position -/

namespace Cursor

/-- The cursor at position `k` of a buffer of `n` bytes. -/
def ofPosition (k n : ℕ) : Cursor :=
  ⟨UInt64.ofNat k, UInt64.ofNat n⟩

variable {k n : ℕ}

/-- What may be said about a cursor at position `k` of `n` bytes. -/
lemma toNat_ofPosition (hk : k ≤ n) (hn : n < npos.toNat) :
    (ofPosition k n).position.toNat = k ∧ (ofPosition k n).length.toNat = n :=
  ⟨toNat_ofNat_of_lt_npos (by omega), toNat_ofNat_of_lt_npos hn⟩

lemma isEnd_ofPosition (hk : k ≤ n) (hn : n < npos.toNat) :
    (ofPosition k n).isEnd = decide (k = n) := by
  obtain ⟨hposition, hlength⟩ := toNat_ofPosition hk hn
  rw [isEnd, Bool.eq_iff_iff, decide_eq_true_iff, decide_eq_true_iff, UInt64.le_iff_toNat_le,
    hposition, hlength]
  omega

/-- The same place, told from further in front. -/
lemma position_ofPosition_add (q k n : ℕ) :
    (ofPosition (q + k) n).position = (ofPosition k (n - q)).position + UInt64.ofNat q := by
  show UInt64.ofNat (q + k) = UInt64.ofNat k + UInt64.ofNat q
  rw [← UInt64.ofNat_add, Nat.add_comm]

/-- The same end, told from further in front. -/
lemma isEnd_ofPosition_add {q : ℕ} (hk : q + k ≤ n) (hn : n < npos.toNat) :
    (ofPosition (q + k) n).isEnd = (ofPosition k (n - q)).isEnd := by
  rw [isEnd_ofPosition hk hn, isEnd_ofPosition (by omega) (by omega), Bool.eq_iff_iff,
    decide_eq_true_iff, decide_eq_true_iff]
  omega

/-- The next position is one byte behind the start of the match, but not behind the end. -/
lemma advance_ofPosition {start : UInt64} (h : k + start.toNat ≤ n) (hn : n < npos.toNat) :
    (ofPosition k n).advance start = ofPosition (min (k + start.toNat + 1) n) n := by
  have hmax := npos_toNat
  have hsum : (UInt64.ofNat k + start + 1).toNat = k + start.toNat + 1 := by
    rw [UInt64.toNat_add, UInt64.toNat_add, toNat_ofNat_of_lt_npos (by omega), UInt64.toNat_one]
    omega
  -- the sum does not wrap, so the smaller word stands for the smaller number
  have hmin : min (UInt64.ofNat k + start + 1) (UInt64.ofNat n)
      = UInt64.ofNat (min (k + start.toNat + 1) n) := by
    rw [← UInt64.toNat_inj, toNat_ofNat_of_lt_npos (by omega)]
    by_cases hle : k + start.toNat + 1 ≤ n
    · have hwords : UInt64.ofNat k + start + 1 ≤ UInt64.ofNat n := by
        rw [UInt64.le_iff_toNat_le, hsum, toNat_ofNat_of_lt_npos hn]; exact hle
      rw [show min (UInt64.ofNat k + start + 1) (UInt64.ofNat n) = UInt64.ofNat k + start + 1 from
        if_pos hwords, hsum]
      omega
    · have hwords : ¬UInt64.ofNat k + start + 1 ≤ UInt64.ofNat n := by
        rw [UInt64.le_iff_toNat_le, hsum, toNat_ofNat_of_lt_npos hn]; exact hle
      rw [show min (UInt64.ofNat k + start + 1) (UInt64.ofNat n) = UInt64.ofNat n from
        if_neg hwords, toNat_ofNat_of_lt_npos hn]
      omega
  rw [advance, ofPosition, hmin]
  rfl

/-- Before the end, the rest of the buffer is searched. -/
lemma rest?_of_lt {buffer : Bytes} (hk : k < buffer.length) (hn : buffer.length < npos.toNat) :
    (ofPosition k buffer.length).rest? buffer = .ok (some (buffer.drop k)) := by
  have hle : k ≤ buffer.length := Nat.le_of_lt hk
  have hend := isEnd_ofPosition hle hn
  obtain ⟨hposition, hlength⟩ := toNat_ofPosition hle hn
  have hne : ¬k = buffer.length := by omega
  simp [rest?, suffix, hend, hposition, hlength, hne, hle, bind, Except.bind, pure, Except.pure,
    Except.map]

/-- At the end, nothing is searched. -/
lemma rest?_at_end (buffer : Bytes) (hn : n < npos.toNat) :
    (ofPosition n n).rest? buffer = .ok none := by
  have hend := isEnd_ofPosition (Nat.le_refl n) hn
  simp [rest?, hend]

/-- A slot that lies in the rest of the buffer has a span in the whole buffer. -/
lemma spanOfSlot_ofPosition {buffer : Bytes} {s : Slot} (hk : k ≤ buffer.length)
    (hn : buffer.length < npos.toNat) (hs : s.Within (buffer.length - k)) :
    (ofPosition k buffer.length).spanOfSlot buffer s = .ok (s.behind k) := by
  have hmax := npos_toNat
  by_cases hset : s.isSet = true
  · obtain ⟨hle, hstop⟩ := hs.bounds hset
    obtain ⟨hposition, hlength⟩ := toNat_ofPosition hk hn
    have hstart' : ((ofPosition k buffer.length).position + s.start).toNat = k + s.start.toNat := by
      rw [UInt64.toNat_add, hposition]; omega
    have hstop' : ((ofPosition k buffer.length).position + s.stop).toNat = k + s.stop.toNat := by
      rw [UInt64.toNat_add, hposition]; omega
    have hsize : (s.stop - s.start).toNat = s.stop.toNat - s.start.toNat :=
      UInt64.toNat_sub_of_le _ _ (UInt64.le_iff_toNat_le.mpr hle)
    have hstarts : (ofPosition k buffer.length).position + s.start
        = UInt64.ofNat (k + s.start.toNat) := by
      rw [← UInt64.toNat_inj, hstart', toNat_ofNat_of_lt_npos (by omega)]
    have hstops : (ofPosition k buffer.length).position + s.stop
        = UInt64.ofNat (k + s.stop.toNat) := by
      rw [← UInt64.toNat_inj, hstop', toNat_ofNat_of_lt_npos (by omega)]
    -- the slot ends in the buffer, so its window is not cut
    have hcut : min (s.stop.toNat - s.start.toNat) (buffer.length - (k + s.start.toNat))
        = s.stop.toNat - s.start.toNat := by omega
    -- none of the three checks fails
    have h1 : (decide (s.start ≤ s.stop)) = true := by
      rw [decide_eq_true_iff, UInt64.le_iff_toNat_le]; exact hle
    have h2 : decide ((ofPosition k buffer.length).position + s.stop
        ≤ (ofPosition k buffer.length).length) = true := by
      rw [decide_eq_true_iff, UInt64.le_iff_toNat_le, hstop', hlength]; omega
    have h3 : decide (((ofPosition k buffer.length).position + s.start).toNat ≤ buffer.length)
        = true := by
      rw [decide_eq_true_iff, hstart']; omega
    rw [spanOfSlot, if_pos hset, h1, h2, window, h3, hstart', hsize, hcut, hstarts, hstops,
      Slot.behind_of_isSet hset]
    rfl
  · rw [spanOfSlot, if_neg hset, Slot.behind, if_neg hset]
    rfl

end Cursor

end PatternScan
