import PatternScan.Pattern.Utf8
import Mathlib.Tactic.Common

/-!
# Text in UTF-8

A text is valid if it is the characters of some list, encoded one after the other. Four things live
here:

* `Utf8.Sequence`, the byte sequences that are one character (`sequence_iff`);
* `Utf8.flaw?_eq_none_iff`, by which the check for flaws passes the valid texts and no others, and
  `Utf8.flawCodes`, the codes it reports (`flaw?_code`);
* `Utf8.Boundary`, `Utf8.Narrow` and `Utf8.Wide`, the places in a text: between two characters, at a
  character of one byte, at the first of several bytes;
* what may be cut off in front of a text so that the rest is valid: `Boundary.valid_drop`,
  `Narrow.boundary_succ` and `Wide.not_valid_drop`.
-/

namespace PatternScan.Pattern.Utf8

/-! ## Bytes -/

/-- What holds of all numbers of eight bits holds of all bytes. -/
lemma forall_byte {P : UInt8 → Prop} (h : ∀ n < 256, P (UInt8.ofNat n)) (b : UInt8) : P b := by
  have hb := h b.toNat b.toNat_lt
  rwa [UInt8.ofNat_toNat] at hb

lemma isContinuation_iff (b : UInt8) :
    isContinuation b = true ↔ 0x80 ≤ b.toNat ∧ b.toNat < 0xc0 := by
  revert b
  apply forall_byte
  decide +kernel

/-- The leads of two bytes whose value would fit in one. -/
lemma isOverlong_iff (b : UInt8) (h : 0xc0 ≤ b.toNat) (h' : b.toNat < 0xe0) :
    (b &&& 0x3e).toNat = 0 ↔ b.toNat < 0xc2 := by
  revert b
  apply forall_byte
  decide +kernel

/-! ## The sequences of characters -/

/-- The byte sequences of characters: no value has a longer form than it needs, none is a surrogate,
and none is beyond the last character. -/
inductive Sequence : Bytes → Prop
  | one {a : UInt8} (ascii : a.toNat < 0x80) : Sequence [a]
  | two {a b : UInt8} (lead_ge : 0xc2 ≤ a.toNat) (lead_lt : a.toNat < 0xe0)
      (second : isContinuation b = true) : Sequence [a, b]
  | three {a b c : UInt8} (lead_ge : 0xe0 ≤ a.toNat) (lead_lt : a.toNat < 0xf0)
      (second : isContinuation b = true) (third : isContinuation c = true)
      (short : a.toNat = 0xe0 → 0xa0 ≤ b.toNat) (scalar : a.toNat = 0xed → b.toNat < 0xa0) :
      Sequence [a, b, c]
  | four {a b c d : UInt8} (lead_ge : 0xf0 ≤ a.toNat) (lead_lt : a.toNat < 0xf5)
      (second : isContinuation b = true) (third : isContinuation c = true)
      (fourth : isContinuation d = true) (short : a.toNat = 0xf0 → 0x90 ≤ b.toNat)
      (inside : a.toNat = 0xf4 → b.toNat < 0x90) : Sequence [a, b, c, d]

/-- The encoding of a character is such a sequence. -/
lemma sequence_encode (c : Char) : Sequence (String.utf8EncodeChar c) := by
  have hvalid : c.val.toNat < 0xd800 ∨ (0xdfff < c.val.toNat ∧ c.val.toNat < 0x110000) := c.valid
  unfold String.utf8EncodeChar
  generalize c.val.toNat = v at hvalid
  dsimp only
  by_cases h1 : v ≤ 0x7f
  · rw [if_pos h1]
    exact .one (by simp; omega)
  · rw [if_neg h1]
    by_cases h2 : v ≤ 0x7ff
    · rw [if_pos h2]
      exact .two (by simp; omega) (by simp; omega) ((isContinuation_iff _).mpr (by simp; omega))
    · rw [if_neg h2]
      by_cases h3 : v ≤ 0xffff
      · rw [if_pos h3]
        exact .three (by simp; omega) (by simp; omega) ((isContinuation_iff _).mpr (by simp; omega))
          ((isContinuation_iff _).mpr (by simp; omega)) (by simp; omega) (by simp; omega)
      · rw [if_neg h3]
        exact .four (by simp; omega) (by simp; omega) ((isContinuation_iff _).mpr (by simp; omega))
          ((isContinuation_iff _).mpr (by simp; omega))
          ((isContinuation_iff _).mpr (by simp; omega)) (by simp; omega) (by simp; omega)

/-- A number that is a character's. -/
lemma exists_char {v : ℕ} (h : v < 0xd800 ∨ (0xdfff < v ∧ v < 0x110000)) :
    ∃ c : Char, c.val.toNat = v := by
  refine ⟨Char.ofNatAux v h, ?_⟩
  rfl

/-- Every such sequence is the encoding of the character that its bits are. -/
lemma exists_encode_eq {s : Bytes} (hs : Sequence s) :
    ∃ c : Char, String.utf8EncodeChar c = s := by
  cases hs with
  | @one a ascii =>
    obtain ⟨c, hc⟩ := exists_char (v := a.toNat) (by omega)
    refine ⟨c, ?_⟩
    unfold String.utf8EncodeChar
    dsimp only
    rw [hc, if_pos (by omega), UInt8.ofNat_toNat]
  | @two a b lead_ge lead_lt second =>
    rw [isContinuation_iff] at second
    obtain ⟨c, hc⟩ := exists_char (v := (a.toNat - 0xc0) * 64 + (b.toNat - 0x80)) (by omega)
    refine ⟨c, ?_⟩
    unfold String.utf8EncodeChar
    dsimp only
    rw [hc, if_neg (by omega), if_pos (by omega)]
    simp only [List.cons.injEq, ← UInt8.toNat_inj, UInt8.toNat_ofNat', and_true]
    omega
  | @three a b d lead_ge lead_lt second third short scalar =>
    rw [isContinuation_iff] at second third
    obtain ⟨c, hc⟩ := exists_char
      (v := (a.toNat - 0xe0) * 4096 + (b.toNat - 0x80) * 64 + (d.toNat - 0x80)) (by omega)
    refine ⟨c, ?_⟩
    unfold String.utf8EncodeChar
    dsimp only
    rw [hc, if_neg (by omega), if_neg (by omega), if_pos (by omega)]
    simp only [List.cons.injEq, ← UInt8.toNat_inj, UInt8.toNat_ofNat', and_true]
    omega
  | @four a b d e lead_ge lead_lt second third fourth short inside =>
    rw [isContinuation_iff] at second third fourth
    obtain ⟨c, hc⟩ := exists_char
      (v := (a.toNat - 0xf0) * 262144 + (b.toNat - 0x80) * 4096 + (d.toNat - 0x80) * 64
        + (e.toNat - 0x80)) (by omega)
    refine ⟨c, ?_⟩
    unfold String.utf8EncodeChar
    dsimp only
    rw [hc, if_neg (by omega), if_neg (by omega), if_neg (by omega)]
    simp only [List.cons.injEq, ← UInt8.toNat_inj, UInt8.toNat_ofNat', and_true]
    omega

/-! ## The check for flaws -/

lemma brokenAt?_eq_none_iff {place : ℕ} {tail : Bytes} :
    brokenAt? place tail = none ↔ ∀ b ∈ tail, isContinuation b = true := by
  induction tail generalizing place with
  | nil => simp [brokenAt?]
  | cons b tail ih =>
    unfold brokenAt?
    by_cases hb : isContinuation b = true
    · rw [if_pos hb, ih]
      simp [hb]
    · simp [hb]

lemma brokenAt?_code {place : ℕ} {tail : Bytes} {code : Int}
    (h : brokenAt? place tail = some code) :
    -(place + tail.length : Int) - 6 < code ∧ code ≤ -(place : Int) - 6 := by
  induction tail generalizing place with
  | nil => simp [brokenAt?] at h
  | cons b tail ih =>
    unfold brokenAt? at h
    by_cases hb : isContinuation b = true
    · rw [if_pos hb] at h
      have hrest := ih h
      simp only [List.length_cons]
      omega
    · rw [if_neg hb, Option.some_inj] at h
      simp only [List.length_cons]
      omega

/-- What a lead announces, by its number. -/
lemma announced_cases (lead : UInt8) :
    (lead.toNat < 0xe0 ∧ announced lead = 1) ∨
      (0xe0 ≤ lead.toNat ∧ lead.toNat < 0xf0 ∧ announced lead = 2) ∨
      (0xf0 ≤ lead.toNat ∧ lead.toNat < 0xf8 ∧ announced lead = 3) ∨
      (0xf8 ≤ lead.toNat ∧ (announced lead = 4 ∨ announced lead = 5)) := by
  unfold announced
  simp only [UInt8.lt_iff_toNat_lt, UInt8.reduceToNat]
  split_ifs <;> omega

/-- What the second byte must be for a lead that may start a character. -/
lemma secondFlaw?_eq_none_iff (lead second : UInt8) (h : 0xc0 ≤ lead.toNat)
    (h' : lead.toNat < 0xf8) :
    secondFlaw? lead second = none ↔ 0xc2 ≤ lead.toNat ∧ lead.toNat < 0xf5 ∧
      (lead.toNat = 0xe0 → 0xa0 ≤ second.toNat) ∧ (lead.toNat = 0xed → second.toNat < 0xa0) ∧
      (lead.toNat = 0xf0 → 0x90 ≤ second.toNat) ∧ (lead.toNat = 0xf4 → second.toNat < 0x90) := by
  unfold secondFlaw?
  simp only [UInt8.lt_iff_toNat_lt, UInt8.le_iff_toNat_le, UInt8.reduceToNat, gt_iff_lt, ge_iff_le,
    Bool.and_eq_true, Bool.or_eq_true, beq_iff_eq, ← UInt8.toNat_inj, decide_eq_true_eq]
  by_cases h1 : lead.toNat < 0xe0
  · rw [if_pos h1]
    have hlong := isOverlong_iff lead h h1
    by_cases h2 : (lead &&& 0x3e).toNat = 0
    · have hlt := hlong.mp h2
      rw [if_pos (by simpa using h2)]
      simp
      omega
    · have hge : ¬lead.toNat < 0xc2 := fun hlt => h2 (hlong.mpr hlt)
      rw [if_neg (by simpa using h2)]
      simp
      omega
  · rw [if_neg h1]
    split_ifs <;> simp <;> omega

lemma sequenceFlaw?_cons_eq_none_iff {lead second : UInt8} {rest : Bytes} :
    sequenceFlaw? lead (second :: rest) = none ↔ isContinuation second = true ∧
      (∀ b ∈ rest, isContinuation b = true) ∧ secondFlaw? lead second = none ∧
      rest.length ≠ 3 ∧ rest.length ≠ 4 := by
  unfold sequenceFlaw?
  by_cases hsecond : isContinuation second = true
  · rcases hbroken : brokenAt? 3 rest with _ | code
    · have hrest := brokenAt?_eq_none_iff.mp hbroken
      rcases hflaw : secondFlaw? lead second with _ | code
      · -- the lengths of five and six bytes are refused
        by_cases h3 : rest.length = 3
        · simp [hsecond, hbroken, hflaw, h3]
        · by_cases h4 : rest.length = 4
          · simp [hsecond, hbroken, hflaw, h4]
          · simpa [hsecond, hbroken, hflaw, h3, h4] using hrest
      · simp [hsecond, hbroken, hflaw]
    · have hrest : ¬∀ b ∈ rest, isContinuation b = true := by
        rw [← @brokenAt?_eq_none_iff 3, hbroken]
        simp
      simp [hsecond, hbroken, hrest]
  · simp [hsecond]

/-- A sequence of as many bytes as its lead announces has no flaw iff it is that of a character. -/
lemma sequenceFlaw?_eq_none_iff {lead : UInt8} {tail : Bytes} (hlead : 0xc0 ≤ lead.toNat)
    (hlength : tail.length = announced lead) :
    sequenceFlaw? lead tail = none ↔ Sequence (lead :: tail) := by
  have hannounced := announced_cases lead
  rcases tail with _ | ⟨second, rest⟩
  · rw [List.length_nil] at hlength
    omega
  · rw [List.length_cons] at hlength
    rw [sequenceFlaw?_cons_eq_none_iff]
    constructor
    · rintro ⟨hsecond, hrest, hflaw, h3, h4⟩
      rw [secondFlaw?_eq_none_iff lead second hlead (by omega)] at hflaw
      obtain ⟨hge, hlt, h20, h2d, h40, h44⟩ := hflaw
      -- the lead announces two to four bytes in all
      match rest, hrest, hlength with
      | [], _, hlength =>
        rw [List.length_nil] at hlength
        exact .two hge (by omega) hsecond
      | [c], hrest, hlength =>
        rw [List.length_singleton] at hlength
        exact .three (by omega) (by omega) hsecond (hrest c List.mem_cons_self) h20 h2d
      | [c, d], hrest, hlength =>
        have hc := hrest c List.mem_cons_self
        have hd := hrest d (List.mem_cons_of_mem c List.mem_cons_self)
        simp only [List.length_cons, List.length_nil] at hlength
        exact .four (by omega) hlt hsecond hc hd h40 h44
      | c :: d :: e :: rest, _, hlength =>
        simp only [List.length_cons] at hlength
        omega
    · intro hsequence
      cases hsequence with
      | two lead_ge lead_lt second =>
        refine ⟨second, by simp, ?_, by simp, by simp⟩
        rw [secondFlaw?_eq_none_iff _ _ hlead (by omega)]
        omega
      | three lead_ge lead_lt second third short scalar =>
        refine ⟨second, by simp [third], ?_, by simp, by simp⟩
        rw [secondFlaw?_eq_none_iff _ _ hlead (by omega)]
        omega
      | four lead_ge lead_lt second third fourth short inside =>
        refine ⟨second, by simp [third, fourth], ?_, by simp, by simp⟩
        rw [secondFlaw?_eq_none_iff _ _ hlead (by omega)]
        omega

/-- A front has no flaw if it is a byte below 128 or a sequence as long as its lead announces. -/
lemma frontFlaw?_cons_eq_ok_iff {lead : UInt8} {rest : Bytes} {n : ℕ} :
    frontFlaw? (lead :: rest) = .ok n ↔ (lead.toNat < 0x80 ∧ n = 1) ∨
      (0xc0 ≤ lead.toNat ∧ lead.toNat < 0xfe ∧ announced lead ≤ rest.length ∧
        sequenceFlaw? lead (rest.take (announced lead)) = none ∧ n = announced lead + 1) := by
  unfold frontFlaw?
  simp only [UInt8.lt_iff_toNat_lt, UInt8.le_iff_toNat_le, UInt8.reduceToNat, ge_iff_le]
  by_cases h1 : lead.toNat < 0x80
  · rw [if_pos h1, Except.ok.injEq]
    omega
  · rw [if_neg h1]
    by_cases h2 : lead.toNat < 0xc0
    · rw [if_pos h2]
      simp
      omega
    · rw [if_neg h2]
      by_cases h3 : 0xfe ≤ lead.toNat
      · rw [if_pos h3]
        simp
        omega
      · rw [if_neg h3]
        by_cases h4 : rest.length < announced lead
        · rw [if_pos h4]
          simp
          omega
        · rw [if_neg h4]
          rcases hflaw : sequenceFlaw? lead (rest.take (announced lead)) with _ | code
          · constructor
            · rintro ⟨⟩
              exact .inr ⟨by omega, by omega, by omega, rfl, rfl⟩
            · rintro (⟨hlt, -⟩ | ⟨-, -, -, -, rfl⟩)
              · omega
              · rfl
          · simp
            omega

/-- The bytes behind the lead of a character are as many as it announces. -/
lemma Sequence.length_tail {lead : UInt8} {tail : Bytes} (h : Sequence (lead :: tail))
    (hlead : 0x80 ≤ lead.toNat) : 0xc2 ≤ lead.toNat ∧ lead.toNat < 0xf5 ∧
      tail.length = announced lead := by
  have hannounced := announced_cases lead
  cases h <;> simp only [List.length_cons, List.length_nil] <;> omega

/-- The front of a text that starts with a character has no flaw. -/
lemma frontFlaw?_append {s : Bytes} (hs : Sequence s) (rest : Bytes) :
    frontFlaw? (s ++ rest) = .ok s.length := by
  rcases s with _ | ⟨lead, tail⟩
  · cases hs
  · rw [List.cons_append, frontFlaw?_cons_eq_ok_iff]
    by_cases hlead : lead.toNat < 0x80
    · cases hs with
      | one ascii => exact .inl ⟨ascii, rfl⟩
      | _ => omega
    · obtain ⟨hge, hlt, hlength⟩ := hs.length_tail (by omega)
      have htake : (tail ++ rest).take (announced lead) = tail := List.take_left' hlength
      refine .inr ⟨by omega, by omega, ?_, ?_, ?_⟩
      · rw [List.length_append]
        omega
      · rw [htake, sequenceFlaw?_eq_none_iff (by omega) hlength]
        exact hs
      · rw [List.length_cons, hlength]

/-- A text whose front has no flaw starts with a character, unless it is empty. -/
lemma exists_of_frontFlaw? {b : Bytes} {n : ℕ} (h : frontFlaw? b = .ok n) (hne : b ≠ []) :
    ∃ s rest, Sequence s ∧ b = s ++ rest ∧ n = s.length := by
  rcases b with _ | ⟨lead, rest⟩
  · exact absurd rfl hne
  · rcases frontFlaw?_cons_eq_ok_iff.mp h with ⟨hlead, rfl⟩ | ⟨hge, -, hle, hflaw, rfl⟩
    · exact ⟨[lead], rest, .one hlead, rfl, rfl⟩
    · have hlength : (rest.take (announced lead)).length = announced lead :=
        List.length_take_of_le hle
      refine ⟨lead :: rest.take (announced lead), rest.drop (announced lead),
        (sequenceFlaw?_eq_none_iff hge hlength).mp hflaw, ?_, ?_⟩
      · rw [List.cons_append, List.take_append_drop]
      · rw [List.length_cons, hlength]

/-! ## Valid text -/

/-- The bytes of some characters. -/
def bytes (cs : List Char) : Bytes :=
  cs.flatMap String.utf8EncodeChar

/-- Text in UTF-8. -/
def Valid (b : Bytes) : Prop :=
  ∃ cs, b = bytes cs

lemma bytes_cons (c : Char) (cs : List Char) :
    bytes (c :: cs) = String.utf8EncodeChar c ++ bytes cs := rfl

lemma bytes_append (cs ds : List Char) : bytes (cs ++ ds) = bytes cs ++ bytes ds :=
  List.flatMap_append

lemma Sequence.ne_nil {s : Bytes} (hs : Sequence s) : s ≠ [] := by
  cases hs <;> exact List.cons_ne_nil _ _

/-- Which character a text starts with is told by its bytes. -/
lemma Sequence.append_inj {s s' rest rest' : Bytes} (hs : Sequence s) (hs' : Sequence s')
    (h : s ++ rest = s' ++ rest') : s = s' ∧ rest = rest' := by
  have hfront := frontFlaw?_append hs rest
  rw [h, frontFlaw?_append hs' rest', Except.ok.injEq] at hfront
  exact List.append_inj h hfront.symm

lemma Valid.exists_sequence {b : Bytes} (h : Valid b) (hne : b ≠ []) :
    ∃ s rest, Sequence s ∧ b = s ++ rest ∧ Valid rest := by
  obtain ⟨cs, rfl⟩ := h
  rcases cs with _ | ⟨c, cs⟩
  · exact absurd rfl hne
  · exact ⟨_, _, sequence_encode c, bytes_cons c cs, cs, rfl⟩

lemma valid_append_iff {s rest : Bytes} (hs : Sequence s) : Valid (s ++ rest) ↔ Valid rest := by
  constructor
  · intro h
    have hne : s ++ rest ≠ [] := fun hnil => hs.ne_nil (List.append_eq_nil_iff.mp hnil).1
    obtain ⟨s', rest', hs', heq, hrest⟩ := h.exists_sequence hne
    rw [(hs.append_inj hs' heq).2]
    exact hrest
  · rintro ⟨cs, rfl⟩
    obtain ⟨c, rfl⟩ := exists_encode_eq hs
    exact ⟨c :: cs, (bytes_cons c cs).symm⟩

/-- The check goes over a text character by character. -/
lemma flawFrom?_eq_none_iff {fuel offset : ℕ} {b : Bytes} (hfuel : b.length < fuel) :
    flawFrom? fuel offset b = none ↔ Valid b := by
  induction fuel generalizing offset b with
  | zero => omega
  | succ fuel ih =>
    rcases b with _ | ⟨lead, tail⟩
    · exact iff_of_true rfl ⟨[], rfl⟩
    · unfold flawFrom?
      rcases hfront : frontFlaw? (lead :: tail) with code | n
      · refine iff_of_false (by simp) fun hvalid => ?_
        obtain ⟨s, rest, hs, heq, -⟩ := hvalid.exists_sequence (List.cons_ne_nil _ _)
        rw [heq, frontFlaw?_append hs rest] at hfront
        cases hfront
      · obtain ⟨s, rest, hs, heq, rfl⟩ := exists_of_frontFlaw? hfront (List.cons_ne_nil _ _)
        have hlength := List.length_pos_iff.mpr hs.ne_nil
        rw [heq, List.length_append] at hfuel
        dsimp only
        rw [heq, List.drop_left, ih (by omega), valid_append_iff hs]

/-- A text has no flaw iff it is the bytes of some characters. -/
theorem flaw?_eq_none_iff (b : Bytes) : flaw? b = none ↔ Valid b :=
  flawFrom?_eq_none_iff (Nat.lt_succ_self _)

/-! ### Codes of flaws -/

lemma secondFlaw?_code {lead second : UInt8} {code : Int}
    (h : secondFlaw? lead second = some code) : -21 ≤ code ∧ code ≤ -15 := by
  unfold secondFlaw? at h
  split_ifs at h <;> simp at h <;> omega

lemma sequenceFlaw?_code {lead : UInt8} {tail : Bytes} {code : Int} (hlength : tail.length ≤ 5)
    (h : sequenceFlaw? lead tail = some code) : -21 ≤ code ∧ code ≤ -8 := by
  rcases tail with _ | ⟨second, rest⟩
  · cases h
  · rw [List.length_cons] at hlength
    unfold sequenceFlaw? at h
    by_cases hsecond : isContinuation second = true
    · rcases hbroken : brokenAt? 3 rest with _ | code'
      · rcases hflaw : secondFlaw? lead second with _ | code'
        · simp only [hsecond, hbroken, hflaw] at h
          split_ifs at h <;> simp at h <;> omega
        · have hcode := secondFlaw?_code hflaw
          simp [hsecond, hbroken, hflaw] at h
          omega
      · have hcode := brokenAt?_code hbroken
        simp [hsecond, hbroken] at h
        omega
    · simp [hsecond] at h
      omega

lemma frontFlaw?_code {b : Bytes} {code : Int} (h : frontFlaw? b = .error code) :
    -23 ≤ code ∧ code ≤ -3 := by
  rcases b with _ | ⟨lead, rest⟩
  · cases h
  · have hannounced := announced_cases lead
    unfold frontFlaw? at h
    dsimp only at h
    split_ifs at h with h1 h2 h3 h4
    · cases h
      decide
    · cases h
      decide
    · cases h
      omega
    · rcases hflaw : sequenceFlaw? lead (rest.take (announced lead)) with _ | code'
      · rw [hflaw] at h
        cases h
      · have hlength : (rest.take (announced lead)).length ≤ 5 := by
          rw [List.length_take]
          omega
        have hcode := sequenceFlaw?_code hlength hflaw
        rw [hflaw] at h
        cases h
        omega

lemma flawFrom?_code {fuel offset : ℕ} {b : Bytes} {code : Int} {place : ℕ}
    (h : flawFrom? fuel offset b = some (code, place)) : -23 ≤ code ∧ code ≤ -3 := by
  induction fuel generalizing offset b with
  | zero => cases h
  | succ fuel ih =>
    rcases b with _ | ⟨lead, tail⟩
    · cases h
    · unfold flawFrom? at h
      rcases hfront : frontFlaw? (lead :: tail) with code' | n
      · rw [hfront] at h
        cases h
        exact frontFlaw?_code hfront
      · rw [hfront] at h
        exact ih h

/-- The codes of flaws. -/
def flawCodes : Set Int := {code | -23 ≤ code ∧ code ≤ -3}

lemma mem_flawCodes {code : Int} : code ∈ flawCodes ↔ -23 ≤ code ∧ code ≤ -3 :=
  Iff.rfl

theorem flaw?_code {b : Bytes} {code : Int} {place : ℕ} (h : flaw? b = some (code, place)) :
    code ∈ flawCodes :=
  flawFrom?_code h

/-! ## Places in a text -/

/-- A place between two characters, in front of the first or behind the last. -/
def Boundary (b : Bytes) (p : ℕ) : Prop :=
  ∃ front back, b = bytes (front ++ back) ∧ p = (bytes front).length

/-- The place of the first byte of a character. -/
def StandsAt (b : Bytes) (c : Char) (p : ℕ) : Prop :=
  ∃ front back, b = bytes (front ++ c :: back) ∧ p = (bytes front).length

/-- The place of a character of one byte. -/
def Narrow (b : Bytes) (p : ℕ) : Prop :=
  ∃ c, StandsAt b c p ∧ c.utf8Size = 1

/-- The place of the first byte of a character of several. -/
def Wide (b : Bytes) (p : ℕ) : Prop :=
  ∃ c, StandsAt b c p ∧ 1 < c.utf8Size

section
variable {b : Bytes} {p k : ℕ}

lemma Valid.boundary_zero (h : Valid b) : Boundary b 0 := by
  obtain ⟨cs, rfl⟩ := h
  exact ⟨[], cs, rfl, rfl⟩

lemma Valid.boundary_length (h : Valid b) : Boundary b b.length := by
  obtain ⟨cs, rfl⟩ := h
  exact ⟨cs, [], by rw [List.append_nil], rfl⟩

/-- At a boundary stands a character or the text ends. -/
lemma Boundary.cases (h : Boundary b p) : p = b.length ∨ Narrow b p ∨ Wide b p := by
  obtain ⟨front, back, hb, hp⟩ := h
  rcases back with _ | ⟨c, back⟩
  · rw [List.append_nil] at hb
    exact .inl (by rw [hb, hp])
  · have hc : StandsAt b c p := ⟨front, back, hb, hp⟩
    rcases Nat.eq_or_lt_of_le c.utf8Size_pos with hsize | hsize
    · exact .inr (.inl ⟨c, hc, hsize.symm⟩)
    · exact .inr (.inr ⟨c, hc, hsize⟩)

lemma Boundary.le (h : Boundary b p) : p ≤ b.length := by
  obtain ⟨front, back, rfl, rfl⟩ := h
  rw [bytes_append, List.length_append]
  exact Nat.le_add_right _ _

/-- What is cut off in front of a boundary leaves a valid text. -/
lemma Boundary.valid_drop (h : Boundary b p) : Valid (b.drop p) := by
  obtain ⟨front, back, rfl, rfl⟩ := h
  rw [bytes_append, List.drop_left]
  exact ⟨back, rfl⟩

/-- A boundary behind a boundary. -/
lemma Boundary.add (h : Boundary b k) (hp : Boundary (b.drop k) p) : Boundary b (k + p) := by
  obtain ⟨front, back, rfl, rfl⟩ := h
  obtain ⟨front', back', hdrop, rfl⟩ := hp
  rw [bytes_append, List.drop_left] at hdrop
  refine ⟨front ++ front', back', ?_, ?_⟩
  · rw [bytes_append, hdrop, ← bytes_append, List.append_assoc]
  · rw [bytes_append, List.length_append]

lemma StandsAt.drop_eq {c : Char} (h : StandsAt b c p) :
    ∃ rest, b.drop p = String.utf8EncodeChar c ++ rest := by
  obtain ⟨front, back, rfl, rfl⟩ := h
  rw [bytes_append, List.drop_left]
  exact ⟨bytes back, bytes_cons c back⟩

/-- Behind a character of one byte is the next boundary. -/
lemma Narrow.boundary_succ (h : Narrow b p) : Boundary b (p + 1) := by
  obtain ⟨c, ⟨front, back, rfl, rfl⟩, hsize⟩ := h
  refine ⟨front ++ [c], back, by simp, ?_⟩
  rw [bytes_append, List.length_append, bytes_cons, String.utf8EncodeChar_eq_singleton hsize]
  rfl

lemma Narrow.lt (h : Narrow b p) : p < b.length := by
  obtain ⟨c, hc, hsize⟩ := h
  obtain ⟨rest, hdrop⟩ := hc.drop_eq
  have hlength := congrArg List.length hdrop
  rw [List.length_drop, List.length_append, String.length_utf8EncodeChar] at hlength
  omega

/-- A character of several bytes goes on with a byte that continues it. -/
lemma Wide.exists_drop (h : Wide b p) :
    ∃ second rest, b.drop (p + 1) = second :: rest ∧ isContinuation second = true := by
  obtain ⟨c, hc, hsize⟩ := h
  obtain ⟨rest, hdrop⟩ := hc.drop_eq
  have hsequence := sequence_encode c
  rw [← String.length_utf8EncodeChar] at hsize
  generalize String.utf8EncodeChar c = s at hsequence hdrop hsize
  rw [← List.drop_drop, hdrop]
  cases hsequence with
  | one ascii => exact absurd hsize (Nat.lt_irrefl 1)
  | two lead_ge lead_lt second => exact ⟨_, _, rfl, second⟩
  | three lead_ge lead_lt second => exact ⟨_, _, rfl, second⟩
  | four lead_ge lead_lt second => exact ⟨_, _, rfl, second⟩

lemma Wide.succ_lt (h : Wide b p) : p + 1 < b.length := by
  obtain ⟨second, rest, hdrop, -⟩ := h.exists_drop
  have hlength := congrArg List.length hdrop
  rw [List.length_drop, List.length_cons] at hlength
  omega

/-- A text that is not empty starts with a byte that continues nothing. -/
lemma Sequence.not_isContinuation {lead : UInt8} {tail : Bytes} (h : Sequence (lead :: tail)) :
    ¬isContinuation lead = true := by
  rw [isContinuation_iff]
  cases h <;> omega

/-- What is cut off behind the first byte of several leaves a text that is not valid. -/
lemma Wide.not_valid_drop (h : Wide b p) : ¬Valid (b.drop (p + 1)) := by
  obtain ⟨second, rest, hdrop, hsecond⟩ := h.exists_drop
  rw [hdrop]
  intro hvalid
  obtain ⟨s, rest', hs, heq, -⟩ := hvalid.exists_sequence (List.cons_ne_nil _ _)
  rcases s with _ | ⟨lead, tail⟩
  · exact hs.ne_nil rfl
  · rw [List.cons_append, List.cons.injEq] at heq
    rw [heq.1] at hsecond
    exact hs.not_isContinuation hsecond

end

end PatternScan.Pattern.Utf8
