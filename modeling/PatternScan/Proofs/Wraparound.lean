import PatternScan.Proofs.Position
import Mathlib.Algebra.Group.Nat.Defs

/-!
# Cursors in 64-bit words

A cursor adds words first and cuts the sum at the length of the buffer afterwards. As long as the
sum fits a word, the cursor moves on or stands at the end; a sum that does not leads it back, out of
the end too. Three things live here:

* `Cursor.Move` and `Cursor.run`, moves by any words in a row;
* `Cursor.target`, the number that a move adds up to, and where the cursor stands in terms of it;
* `Cursor.moves_in_words`, which says when a cursor moves on, and that it always does if each move
  is made to a place in the rest of the buffer.
-/

namespace PatternScan

namespace Cursor

/-! ## Moves in a row -/

/-- What is done to a cursor. -/
inductive Move
  | advance (start : UInt64)
  | finish
deriving DecidableEq, Repr

/-- The cursor after a move. -/
def move (c : Cursor) : Move → Cursor
  | .advance start => c.advance start
  | .finish => c.finish

/-- The cursor after moves in a row. -/
def run (c : Cursor) (moves : List Move) : Cursor :=
  moves.foldl move c

/-- A move to a match in the rest of the buffer, or to the end. -/
def Move.Inside (c : Cursor) : Move → Prop
  | .advance start => c.position.toNat + start.toNat ≤ c.length.toNat
  | .finish => True

/-- Moves each of which is made inside the rest that the moves before it left. -/
def Inside (c : Cursor) : List Move → Prop
  | [] => True
  | m :: moves => m.Inside c ∧ (c.move m).Inside moves

instance (c : Cursor) (m : Move) : Decidable (m.Inside c) :=
  match m with
  | .advance start =>
    inferInstanceAs (Decidable (c.position.toNat + start.toNat ≤ c.length.toNat))
  | .finish => inferInstanceAs (Decidable True)

instance decidableInside : (c : Cursor) → (moves : List Move) → Decidable (c.Inside moves)
  | _, [] => inferInstanceAs (Decidable True)
  | c, m :: moves =>
    have := decidableInside (c.move m) moves
    inferInstanceAs (Decidable (m.Inside c ∧ (c.move m).Inside moves))

variable {c : Cursor} {start : UInt64}

lemma run_cons (c : Cursor) (m : Move) (moves : List Move) :
    c.run (m :: moves) = (c.move m).run moves := rfl

lemma length_run (c : Cursor) (moves : List Move) : (c.run moves).length = c.length := by
  induction moves generalizing c with
  | nil => rfl
  | cons m moves ih =>
    rw [run_cons, ih]
    cases m <;> rfl

/-- A move leads to a place in the buffer, wherever it starts. -/
lemma position_move_le (c : Cursor) (m : Move) : (c.move m).position ≤ c.length := by
  cases m with
  | advance start => exact Std.min_le_right
  | finish => exact UInt64.le_refl _

lemma position_run_le (hc : c.position ≤ c.length) (moves : List Move) :
    (c.run moves).position ≤ c.length := by
  induction moves generalizing c with
  | nil => exact hc
  | cons m moves ih =>
    have hlength : (c.move m).length = c.length := c.length_run [m]
    rw [run_cons, ← hlength]
    apply ih
    rw [hlength]
    exact c.position_move_le m

lemma inside_append {before after : List Move} :
    c.Inside (before ++ after) ↔ c.Inside before ∧ (c.run before).Inside after := by
  induction before generalizing c with
  | nil => simp [Inside, run]
  | cons m before ih =>
    rw [List.cons_append, run_cons]
    simp only [Inside, ih, and_assoc]

lemma isEnd_iff (hc : c.position ≤ c.length) : c.isEnd = true ↔ c.position = c.length := by
  rw [UInt64.le_iff_toNat_le] at hc
  rw [isEnd, decide_eq_true_iff, UInt64.le_iff_toNat_le, ← UInt64.toNat_inj]
  omega

lemma isEnd_eq_false_iff (c : Cursor) : c.isEnd = false ↔ c.position < c.length := by
  rw [isEnd, decide_eq_false_iff_not, UInt64.not_le]

/-! ## Where a move leads -/

/-- The number one byte behind `start`; it may be too large for a word. -/
def target (c : Cursor) (start : UInt64) : ℕ :=
  c.position.toNat + start.toNat + 1

lemma toNat_advance (c : Cursor) (start : UInt64) :
    (c.advance start).position.toNat = min (c.target start % 2 ^ 64) c.length.toNat := by
  unfold advance target
  rw [UInt64.toNat_min, UInt64.toNat_add, UInt64.toNat_add, UInt64.toNat_one, Nat.mod_add_mod]

/-- If the target fits a word, the cursor moves there or to the end. -/
lemma toNat_advance_of_lt (h : c.target start < 2 ^ 64) :
    (c.advance start).position.toNat = min (c.target start) c.length.toNat := by
  rw [toNat_advance, Nat.mod_eq_of_lt h]

/-- If the target does not fit a word, the cursor moves to what is left of it, and nothing is cut
off. -/
lemma toNat_advance_of_le (hc : c.position ≤ c.length) (h : 2 ^ 64 ≤ c.target start) :
    (c.advance start).position.toNat = c.target start - 2 ^ 64 := by
  have hstart := start.toNat_lt
  have hposition := c.position.toNat_lt
  rw [UInt64.le_iff_toNat_le] at hc
  rw [toNat_advance]
  unfold target at h ⊢
  -- the target is below twice 2^64, so there is one round to take off
  omega

/-- If the target fits a word, the cursor moves forward, or stays at the end. -/
lemma advance_of_lt (hc : c.position ≤ c.length) (h : c.target start < 2 ^ 64) :
    (c.position ≠ c.length → c.position < (c.advance start).position) ∧
      (c.position = c.length → (c.advance start).position = c.length) := by
  rw [UInt64.le_iff_toNat_le] at hc
  rw [ne_eq, UInt64.lt_iff_toNat_lt, ← UInt64.toNat_inj, ← UInt64.toNat_inj,
    toNat_advance_of_lt h]
  unfold target
  omega

/-- If the target does not fit a word, the cursor moves back, or goes all the way round. -/
lemma advance_of_le (hc : c.position ≤ c.length) (h : 2 ^ 64 ≤ c.target start) :
    (c.advance start).position ≤ c.position ∧
      ((c.advance start).position = c.position ↔ start = npos) := by
  have hnpos := npos_toNat
  have hstart := start.toNat_lt
  rw [UInt64.le_iff_toNat_le, ← UInt64.toNat_inj, ← UInt64.toNat_inj, toNat_advance_of_le hc h,
    hnpos]
  unfold target at h ⊢
  omega

/-- A cursor before the end fails to move forward iff the target does not fit a word. -/
lemma advance_le_iff (hc : c.position < c.length) :
    (c.advance start).position ≤ c.position ↔ 2 ^ 64 ≤ c.target start := by
  have hle := UInt64.le_of_lt hc
  constructor
  · intro hback
    by_contra hfits
    have hforward := (advance_of_lt hle (Nat.lt_of_not_le hfits)).1 (UInt64.ne_of_lt hc)
    exact UInt64.not_le.mpr hforward hback
  · intro h
    exact (advance_of_le hle h).1

/-- A cursor leaves the end iff the target does not fit a word and is not all the way round. -/
lemma isEnd_advance_iff (hc : c.position = c.length) :
    (c.advance start).isEnd = false ↔ 2 ^ 64 ≤ c.target start ∧ start < npos := by
  have hnpos := npos_toNat
  have hle : c.position ≤ c.length := by
    rw [hc]
    exact UInt64.le_refl _
  rw [isEnd_eq_false_iff]
  show (c.advance start).position < c.length ↔ _
  rw [← hc, UInt64.lt_iff_toNat_lt, UInt64.lt_iff_toNat_lt, hnpos]
  by_cases h : 2 ^ 64 ≤ c.target start
  · rw [toNat_advance_of_le hle h]
    unfold target at h ⊢
    omega
  · rw [(advance_of_lt hle (Nat.lt_of_not_le h)).2 hc, hc]
    omega

/-! ## Moves inside the buffer -/

/-- The target of a move inside a buffer fits a word, unless the buffer has `npos` bytes. -/
lemma target_lt_of_inside (hlength : c.length < npos) (h : (Move.advance start).Inside c) :
    c.target start < 2 ^ 64 := by
  have hnpos := npos_toNat
  rw [UInt64.lt_iff_toNat_lt] at hlength
  unfold Move.Inside at h
  unfold target
  omega

/-- At the end, no move inside the buffer changes the cursor. -/
lemma run_at_end (hlength : c.length < npos) (hc : c.position = c.length) {moves : List Move}
    (h : c.Inside moves) : c.run moves = c := by
  induction moves with
  | nil => rfl
  | cons m moves ih =>
    obtain ⟨hm, hmoves⟩ := h
    have hfinish : c.finish = c := congrArg (Cursor.mk · c.length) hc.symm
    have hmove : c.move m = c := by
      cases m with
      | advance start =>
        have hle : c.position ≤ c.length := by
          rw [hc]
          exact UInt64.le_refl _
        have hstays := (advance_of_lt hle (target_lt_of_inside hlength hm)).2 hc
        show (⟨(c.advance start).position, c.length⟩ : Cursor) = c
        rw [hstays]
        exact hfinish
      | finish => exact hfinish
    rw [run_cons, hmove]
    apply ih
    rw [hmove] at hmoves
    exact hmoves

/-- After any moves by any words, a cursor stands in the buffer. If the next target fits a word, it
moves there or to the end, so it moves forward unless it is at the end, where it stays; else it
moves back by 2^64 in numbers, or goes all the way round. So it leaves the end, or fails to move
forward before it, in the one case only. In a buffer shorter than `npos` bytes, moves to places in
the rest of it never do either. -/
theorem moves_in_words (length : UInt64) (moves : List Move) (start : UInt64) :
    let c := (ofLength length).run moves
    let next := c.advance start
    (c.length = length ∧ c.position ≤ length) ∧
    (c.target start < 2 ^ 64 →
      next.position.toNat = min (c.target start) length.toNat ∧
      (c.position ≠ length → c.position < next.position) ∧
      (c.position = length → next.position = length)) ∧
    (2 ^ 64 ≤ c.target start →
      next.position.toNat = c.target start - 2 ^ 64 ∧ next.position ≤ c.position ∧
      (next.position = c.position ↔ start = npos)) ∧
    (c.isEnd = true → (next.isEnd = false ↔ 2 ^ 64 ≤ c.target start ∧ start < npos)) ∧
    (c.isEnd = false → (next.position ≤ c.position ↔ 2 ^ 64 ≤ c.target start)) ∧
    (length < npos → ∀ later, c.Inside later →
      (c.isEnd = true → c.run later = c) ∧
      ∀ before start after, later = before ++ .advance start :: after →
        (c.run before).isEnd = false →
        (c.run before).position < ((c.run before).advance start).position) := by
  intro c next
  have hlength : c.length = length := (ofLength length).length_run moves
  have hfront : (ofLength length).position ≤ (ofLength length).length := UInt64.zero_le
  have hle : c.position ≤ c.length := by
    rw [hlength]
    exact position_run_le hfront moves
  rw [← hlength]
  refine ⟨⟨rfl, hle⟩, fun hfits => ⟨toNat_advance_of_lt hfits, advance_of_lt hle hfits⟩,
    fun hwraps => ⟨toNat_advance_of_le hle hwraps, advance_of_le hle hwraps⟩,
    fun hend => isEnd_advance_iff ((isEnd_iff hle).mp hend),
    fun hbefore => advance_le_iff (c.isEnd_eq_false_iff.mp hbefore),
    fun hshort later hinside => ⟨fun hend => ?_, ?_⟩⟩
  · exact run_at_end hshort ((isEnd_iff hle).mp hend) hinside
  · rintro before start after rfl hbefore
    obtain ⟨-, hadvance, -⟩ := inside_append.mp hinside
    have hshort' : (c.run before).length < npos := by
      rw [length_run]
      exact hshort
    have hfits := target_lt_of_inside hshort' hadvance
    have hlt := (c.run before).isEnd_eq_false_iff.mp hbefore
    exact (advance_of_lt (UInt64.le_of_lt hlt) hfits).1 (UInt64.ne_of_lt hlt)

/-- In a buffer of `npos` bytes, the next byte behind the end is the first one again. In one of ten
bytes, a move by two leads on, a move by `npos` leads nowhere, and moves inside it end for good. -/
theorem moves_in_words_at_npos :
    let ended := (ofLength npos).run [.finish]
    let c := (ofLength 10).run [.advance 3]
    let later : List Move := [.advance 2, .advance 3, .advance 0]
    (ended.isEnd = true ∧ 2 ^ 64 ≤ ended.target 0 ∧
      (ended.advance 0).position.toNat = ended.target 0 - 2 ^ 64 ∧
      (ended.advance 0).isEnd = false) ∧
    (c.target 2 < 2 ^ 64 ∧ c.position ≠ 10 ∧ c.position < (c.advance 2).position) ∧
    (c.isEnd = false ∧ 2 ^ 64 ≤ c.target npos ∧ (c.advance npos).position = c.position) ∧
    (10 : UInt64) < npos ∧ c.Inside later ∧ (c.run [.advance 2]).isEnd = false ∧
    (c.run [.advance 2]).position < ((c.run [.advance 2]).advance 3).position ∧
    (c.run [.advance 2, .advance 3]).isEnd = true ∧
    (c.run [.advance 2, .advance 3]).run [.advance 0] = c.run [.advance 2, .advance 3] := by
  intro ended c later
  have hend : ended.isEnd = true := by decide
  have hwraps : 2 ^ 64 ≤ ended.target 0 := by decide
  have hfits : c.target 2 < 2 ^ 64 := by decide
  have hne : c.position ≠ 10 := by decide
  have hround : 2 ^ 64 ≤ c.target npos := by decide
  have hshort : (10 : UInt64) < npos := by decide
  have hlater : c.Inside later := by decide
  have hnot : (c.run [.advance 2]).isEnd = false := by decide
  have hover : (c.run [.advance 2, .advance 3]).isEnd = true := by decide
  obtain ⟨-, -, hback, hleaves, -⟩ := moves_in_words npos [.finish] 0
  obtain ⟨-, hforward, -, -, -, hinside⟩ := moves_in_words 10 [.advance 3] 2
  obtain ⟨-, -, hturns, -⟩ := moves_in_words 10 [.advance 3] npos
  obtain ⟨-, -, -, -, -, hlast⟩ := moves_in_words 10 [.advance 3, .advance 2, .advance 3] 0
  have hmoves : (ofLength 10).run [.advance 3, .advance 2, .advance 3]
      = c.run [.advance 2, .advance 3] := run_cons _ _ _
  rw [hmoves] at hlast
  refine ⟨⟨hend, hwraps, (hback hwraps).1, (hleaves hend).mpr ⟨hwraps, by decide⟩⟩,
    ⟨hfits, hne, (hforward hfits).2.1 hne⟩, ⟨by decide, hround, (hturns hround).2.2.mpr rfl⟩,
    hshort, hlater, hnot, ?_, hover, ?_⟩
  · exact (hinside hshort later hlater).2 [.advance 2] 3 [.advance 0] rfl hnot
  · exact (hlast hshort [.advance 0] (by decide)).1 hover

end Cursor

end PatternScan
