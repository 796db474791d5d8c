import PatternScan.Text.Bounded
import Mathlib.Algebra.Group.Nat.Defs
import Mathlib.Data.List.Induction
import Mathlib.Data.List.TakeWhile
import Mathlib.Tactic.Common

/-!
# What a block of bounded size shows of a text

A text that was formatted into a block is cut twice: at the size of the block, and at the first NUL
byte of what is left. A text that is short enough and has no NUL byte is shown as it is; decimal
numerals have none, and those of words have 20 digits at most. Which formatter put the text out does
not matter as long as it keeps to its limit (`Formatter.Sound`); the one for texts in pieces does.
-/

namespace PatternScan

/-! ## NUL bytes and numerals -/

namespace Bytes

lemma untilNul_append_nul (b rest : Bytes) : (b ++ 0 :: rest).untilNul = b.untilNul := by
  unfold untilNul
  induction b with
  | nil => rfl
  | cons byte b ih =>
    rw [List.cons_append, List.takeWhile_cons, List.takeWhile_cons, ih]

lemma untilNul_eq_self_iff {b : Bytes} : b.untilNul = b ↔ 0 ∉ b := by
  unfold untilNul
  rw [List.takeWhile_eq_self_iff]
  constructor
  · intro h hmem
    exact absurd (h 0 hmem) (by decide)
  · intro h byte hbyte
    have hne : byte ≠ 0 := by
      rintro rfl
      exact h hbyte
    simpa using hne

/-- The digit of a number is one byte. -/
lemma digit_of_mem_toDigits {n : ℕ} {c : Char} (h : c ∈ Nat.toDigits 10 n) :
    (UInt8.ofNat c.toNat).toNat = c.toNat ∧ 48 ≤ c.toNat ∧ c.toNat ≤ 57 := by
  have hdigit := Nat.isDigit_of_mem_toDigits (by decide) (by decide) h
  simp only [Char.isDigit, Bool.and_eq_true, decide_eq_true_eq, ge_iff_le,
    UInt32.le_iff_toNat_le] at hdigit
  change 48 ≤ c.toNat ∧ c.toNat ≤ 57 at hdigit
  refine ⟨?_, hdigit⟩
  rw [UInt8.toNat_ofNat']
  omega

/-- A numeral is made of the bytes of digits. -/
lemma bounds_of_mem_ofNat {n : ℕ} {byte : UInt8} (h : byte ∈ ofNat n) : 48 ≤ byte ∧ byte ≤ 57 := by
  unfold ofNat at h
  obtain ⟨c, hc, rfl⟩ := List.mem_map.mp h
  obtain ⟨hbyte, hdigit⟩ := digit_of_mem_toDigits hc
  rw [UInt8.le_iff_toNat_le, UInt8.le_iff_toNat_le, hbyte]
  exact hdigit

lemma nul_not_mem_ofNat (n : ℕ) : 0 ∉ ofNat n := by
  intro h
  exact absurd (bounds_of_mem_ofNat h).1 (by decide)

lemma length_ofNat_le {n digits : ℕ} (hdigits : 0 < digits) (h : n < 10 ^ digits) :
    (ofNat n).length ≤ digits := by
  unfold ofNat
  rw [List.length_map]
  exact (Nat.length_toDigits_le_iff (by decide) hdigits).mpr h

end Bytes

/-! ## Stores -/

namespace Text

namespace Store

variable {stores : List Store}

/-- Stores below an index leave the memory from there on as it was. -/
lemma drop_foldl_into {index : ℕ} (h : ∀ store ∈ stores, store.index < index) (memory : Bytes) :
    (stores.foldl into memory).drop index = memory.drop index := by
  induction stores generalizing memory with
  | nil => rfl
  | cons store stores ih =>
    obtain ⟨hstore, hstores⟩ := List.forall_mem_cons.mp h
    rw [List.foldl_cons, ih hstores, into, List.drop_set_of_lt hstore]

/-- Stores into a memory leave what is beyond it as it was. -/
lemma foldl_into_append {memory : Bytes} (h : ∀ store ∈ stores, store.index < memory.length)
    (beyond : Bytes) :
    stores.foldl into (memory ++ beyond) = stores.foldl into memory ++ beyond := by
  induction stores generalizing memory with
  | nil => rfl
  | cons store stores ih =>
    obtain ⟨hstore, hstores⟩ := List.forall_mem_cons.mp h
    have hinto : into (memory ++ beyond) store = into memory store ++ beyond :=
      List.set_append_left _ _ hstore
    rw [List.foldl_cons, List.foldl_cons, hinto]
    apply ih
    rw [into, List.length_set]
    exact hstores

/-- A store right behind what was stored so far. -/
lemma set_append_drop {front memory : Bytes} (h : front.length < memory.length) (byte : UInt8) :
    (front ++ memory.drop front.length).set front.length byte
      = front ++ byte :: memory.drop (front.length + 1) := by
  rw [List.set_append_right _ _ (Nat.le_refl _), Nat.sub_self, List.drop_eq_getElem_cons h,
    List.set_cons_zero]

/-- Stores of a text from the start on leave it in front of the rest of the memory. -/
lemma foldl_mapIdx_into {text memory : Bytes} (h : text.length ≤ memory.length) :
    (text.mapIdx Store.mk).foldl into memory = text ++ memory.drop text.length := by
  -- from the end, since the last byte goes to the index that the others reach up to
  induction text using List.reverseRecOn with
  | nil => rfl
  | append_singleton text byte ih =>
    rw [List.length_append, List.length_singleton] at h
    rw [List.mapIdx_concat, List.foldl_append, ih (by omega), List.foldl_cons, List.foldl_nil,
      List.length_append, List.length_singleton, List.append_assoc, List.singleton_append]
    exact set_append_drop h byte

end Store

/-! ## Formatters that keep to their limit -/

namespace Formatter

variable {α : Type}

/-- What is documented of a formatter, where `text` is the whole text of a format with its
arguments: within the limit it puts out the bytes of the text from the start on, touches nothing
else, and tells the index behind the last of them. -/
structure Sound (f : Formatter α) (text : α → Bytes) : Prop where
  next_eq : ∀ limit a, (f limit a).next = min (text a).length limit
  index_lt : ∀ limit a, ∀ store ∈ (f limit a).stores, store.index < min (text a).length limit
  stored : ∀ limit a (memory : Bytes), min (text a).length limit ≤ memory.length →
    ((f limit a).stores.foldl Store.into memory).take (min (text a).length limit)
      = (text a).take limit

variable {f : Formatter α} {text : α → Bytes}

/-- What a memory holds after the stores of a formatter. -/
lemma Sound.foldl_into (hf : f.Sound text) (limit : ℕ) (a : α) {memory : Bytes}
    (h : min (text a).length limit ≤ memory.length) :
    (f limit a).stores.foldl Store.into memory
      = (text a).take limit ++ memory.drop (min (text a).length limit) := by
  have hrest := Store.drop_foldl_into (hf.index_lt limit a) memory
  rw [← List.take_append_drop (min (text a).length limit) (List.foldl _ _ _), hrest,
    hf.stored limit a memory h]

end Formatter

namespace Output

variable {limit : ℕ}

/-- Where a formatter stands behind a text, told from the text alone. -/
def behind (limit : ℕ) (text : Bytes) : Output :=
  ⟨(text.take limit).mapIdx Store.mk, min text.length limit⟩

lemma put_behind (text : Bytes) (byte : UInt8) :
    (behind limit text).put limit byte = behind limit (text ++ [byte]) := by
  unfold put behind
  rw [List.length_append, List.length_singleton]
  by_cases hroom : text.length < limit
  · have hlength : (text ++ [byte]).length ≤ limit := by
      rw [List.length_append, List.length_singleton]
      exact hroom
    rw [Nat.min_eq_left (Nat.le_of_lt hroom), Nat.min_eq_left hroom, if_pos hroom,
      List.take_of_length_le (Nat.le_of_lt hroom), List.take_of_length_le hlength,
      List.mapIdx_concat]
  · -- no room is left, so neither side changes any more
    have hle : limit ≤ text.length := Nat.le_of_not_lt hroom
    rw [Nat.min_eq_right hle, Nat.min_eq_right (Nat.le_succ_of_le hle),
      if_neg (Nat.lt_irrefl limit), List.take_append_of_le_length hle]

lemma putPiece_behind (text piece : Bytes) :
    (behind limit text).putPiece limit piece = behind limit (text ++ piece) := by
  unfold putPiece
  induction piece generalizing text with
  | nil => rw [List.append_nil, List.foldl_nil]
  | cons byte piece ih =>
    rw [List.foldl_cons, put_behind, ih, List.append_assoc, List.singleton_append]

/-- However a text is cut into pieces, the formatter stands in the same place behind it. -/
lemma foldl_putPiece_behind (text : Bytes) (pieces : List Bytes) :
    pieces.foldl (putPiece limit) (behind limit text) = behind limit (text ++ pieces.flatten) := by
  induction pieces generalizing text with
  | nil => rw [List.flatten_nil, List.append_nil, List.foldl_nil]
  | cons piece pieces ih =>
    rw [List.foldl_cons, putPiece_behind, ih, List.flatten_cons, List.append_assoc]

end Output

namespace Formatter

lemma piecewise_eq_behind (limit : ℕ) (pieces : List Bytes) :
    piecewise limit pieces = .behind limit pieces.flatten := by
  have hstart : Output.start = Output.behind limit [] := by
    unfold Output.behind
    rw [List.take_nil, List.mapIdx_nil, List.length_nil, Nat.zero_min]
    rfl
  unfold piecewise
  rw [hstart, Output.foldl_putPiece_behind, List.nil_append]

/-- Texts in pieces are put out as documented. -/
lemma piecewise_sound : piecewise.Sound List.flatten where
  next_eq limit pieces := by
    rw [piecewise_eq_behind]
    rfl
  index_lt limit pieces store hstore := by
    rw [piecewise_eq_behind] at hstore
    obtain ⟨i, hi, rfl⟩ := List.mem_mapIdx.mp hstore
    rw [List.length_take, Nat.min_comm] at hi
    exact hi
  stored limit pieces memory h := by
    have hlength : (pieces.flatten.take limit).length = min pieces.flatten.length limit := by
      rw [List.length_take, Nat.min_comm]
    rw [← hlength] at h ⊢
    rw [piecewise_eq_behind, Output.behind, Store.foldl_mapIdx_into h]
    exact List.take_left

end Formatter

/-! ## Formatted texts -/

variable {room : ℕ} {text : Bytes}

namespace Bounded

section Formatter

variable {α : Type} {f : Formatter α} {text : α → Bytes}

/-- The terminator is stored behind the text. -/
lemma storesBy_eq (hf : f.Sound text) (block : Bounded room) (a : α) :
    block.storesBy f a = (f room a).stores ++ [⟨min (text a).length room, 0⟩] := by
  rw [← hf.next_eq room a]
  rfl

/-- Whatever the formatter is, formatting leaves in the block what there is room for, a terminator,
and the old cells behind it. -/
lemma cells_formatBy (hf : f.Sound text) (block : Bounded room) (a : α) :
    (block.formatBy f a).cells
      = (text a).take room ++ 0 :: block.cells.drop (min (text a).length room + 1) := by
  have hblock := block.cells_length
  have hlength : ((text a).take room).length = min (text a).length room := by
    rw [List.length_take, Nat.min_comm]
  have hroom : ((text a).take room).length < block.cells.length := by
    rw [hlength, hblock]
    omega
  show (block.storesBy f a).foldl Store.into block.cells = _
  rw [storesBy_eq hf, List.foldl_append, hf.foldl_into room a (by omega), List.foldl_cons,
    List.foldl_nil, ← hlength]
  exact Store.set_append_drop hroom 0

/-- Formatting a text as a whole puts out that text. -/
lemma cells_format (block : Bounded room) (text : Bytes) :
    (block.format text).cells
      = text.take room ++ 0 :: block.cells.drop (min text.length room + 1) := by
  rw [format, cells_formatBy Formatter.piecewise_sound, List.flatten_singleton]

/-- Formatters with the same texts do the same to a block. -/
lemma formatBy_eq_format (hf : f.Sound text) (block : Bounded room) (a : α) :
    block.formatBy f a = block.format (text a) := by
  ext1
  rw [cells_formatBy hf, cells_format]

end Formatter

/-- Whatever a block held before, it shows of a formatted text what its room and the first NUL byte
leave. -/
lemma view_format (block : Bounded room) (text : Bytes) :
    (block.format text).view = Bytes.untilNul (text.take room) := by
  unfold view
  rw [cells_format]
  exact Bytes.untilNul_append_nul _ _

end Bounded

lemma fitted_eq (room : ℕ) (text : Bytes) : fitted room text = Bytes.untilNul (text.take room) :=
  (Bounded.zeros room).view_format text

/-- A text is shown as it is iff there is room for it and it has no NUL byte. -/
lemma fitted_eq_self_iff : fitted room text = text ↔ text.length ≤ room ∧ 0 ∉ text := by
  rw [fitted_eq]
  constructor
  · intro h
    have hlength : text.length ≤ room := by
      have hle := Bytes.untilNul_length_le (text.take room)
      rw [h, List.length_take] at hle
      omega
    rw [List.take_of_length_le hlength] at h
    exact ⟨hlength, Bytes.untilNul_eq_self_iff.mp h⟩
  · rintro ⟨hlength, hnul⟩
    rw [List.take_of_length_le hlength]
    exact Bytes.untilNul_eq_self_iff.mpr hnul

end Text

end PatternScan
