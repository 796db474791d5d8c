import PatternScan.Proofs.BoundedText

/-!
# Formatting, store by store

A formatter puts a text out by stores into a block that has room for one byte less than it has
cells. Whatever formatter it is, if it keeps to the limit that it is given, the stores lie in the
block and end with a terminator, and what a reader sees is told from the text alone. Two things live
here:

* `Bytes.LongestNulFree`, the longest front of a text that has no NUL byte;
* `Text.Bounded.text_shown`, which says where the stores go and what the block shows of the text.
-/

namespace PatternScan

/-! ## The longest NUL-free front of a text -/

namespace Bytes

/-- Of the fronts of a text that have no NUL byte, the longest one. -/
structure LongestNulFree (text front : Bytes) : Prop where
  front_of : front <+: text
  nul_free : 0 ∉ front
  longest : ∀ other, other <+: text → 0 ∉ other → other <+: front

lemma nul_not_mem_untilNul (b : Bytes) : 0 ∉ b.untilNul := by
  intro h
  exact absurd (List.mem_takeWhile_imp h) (by decide)

/-- A front without a NUL byte ends before the first one. -/
lemma prefix_untilNul {front text : Bytes} (h : front <+: text) (hnul : 0 ∉ front) :
    front <+: text.untilNul := by
  obtain ⟨rest, rfl⟩ := h
  have hne : ∀ byte ∈ front, (byte != 0) = true :=
    List.takeWhile_eq_self_iff.mp (untilNul_eq_self_iff.mpr hnul)
  unfold untilNul
  rw [List.takeWhile_append_of_pos hne]
  exact List.prefix_append _ _

lemma longest_untilNul (b : Bytes) : b.LongestNulFree b.untilNul where
  front_of := List.takeWhile_prefix _
  nul_free := nul_not_mem_untilNul b
  longest _ := prefix_untilNul

end Bytes

/-! ## What a block shows -/

namespace Text

namespace Bounded

variable {room : ℕ} {α : Type}

lemma cells_eq (block : Bounded room) : block.cells = block.front :: block.cells.tail := by
  unfold front
  rw [List.cons_head_tail]

/-- A block reads as the empty text iff its first cell is zero, whatever the others hold. -/
lemma view_eq_nil_iff (block : Bounded room) : block.view = [] ↔ block.front = 0 := by
  unfold view Bytes.untilNul
  rw [block.cells_eq, List.takeWhile_cons]
  by_cases hfront : block.front = 0 <;> simp [hfront]

lemma isEmpty_iff (block : Bounded room) : block.isEmpty = true ↔ block.front = 0 :=
  beq_iff_eq

lemma view_clear (block : Bounded room) : block.clear.view = [] := by
  rw [view_eq_nil_iff]
  rfl

/-- With more room, no less is shown. -/
lemma view_format_prefix (block : Bounded room) {more : ℕ} (larger : Bounded (room + more))
    (text : Bytes) : (block.format text).view <+: (larger.format text).view := by
  rw [view_format, view_format]
  have htake : text.take room <+: text.take (room + more) :=
    List.take_prefix_take_left (Nat.le_add_right room more)
  exact Bytes.prefix_untilNul ((List.takeWhile_prefix _).trans htake) (Bytes.nul_not_mem_untilNul _)

/-- The stores of formatting lie in the block, the last of them behind the text. -/
lemma storesBy_spec {f : Formatter α} {text : α → Bytes} (hf : f.Sound text)
    (block : Bounded room) (a : α) :
    (∀ store ∈ block.storesBy f a, store.index < block.capacity) ∧
      (block.storesBy f a).getLast? = some ⟨min (text a).length room, 0⟩ := by
  have hcapacity : block.capacity = room + 1 := rfl
  rw [storesBy_eq hf]
  refine ⟨fun store hstore => ?_, List.getLast?_concat⟩
  rw [List.mem_append, List.mem_singleton] at hstore
  rcases hstore with hstore | rfl
  · have hindex := hf.index_lt room a store hstore
    omega
  · show min (text a).length room < _
    omega

/-- Whatever formatter puts a text out within the limit it is given, and whatever a block held,
formatting stores no byte outside the block, and a terminator behind the last byte that there is
room for; and it leaves in the block what the program's own formatter does. The block shows the
longest NUL-free front of what there is room for: less than it has cells, no more than a larger
block would show, and the whole text iff it is shorter than the block and NUL-free. The block counts
as empty iff it shows nothing, which its first cell tells, and shows nothing once it is cleared. -/
theorem text_shown {f : Formatter α} {text : α → Bytes} (hf : f.Sound text) (block : Bounded room)
    (a : α) :
    let stores := block.storesBy f a
    let filled := block.formatBy f a
    ((∀ store ∈ stores, store.index < block.capacity) ∧
      ∀ beyond, stores.foldl Store.into (block.cells ++ beyond) = filled.cells ++ beyond) ∧
    (stores.getLast? = some ⟨min (text a).length room, 0⟩ ∧
      filled.cells[min (text a).length room]? = some 0) ∧
    filled = block.format (text a) ∧
    (Bytes.LongestNulFree ((text a).take room) filled.view ∧ filled.view.length < block.capacity ∧
      filled.view <+: text a) ∧
    (∀ more (larger : Bounded (room + more)), filled.view <+: (larger.formatBy f a).view) ∧
    (filled.view = text a ↔ 0 ∉ text a ∧ (text a).length < block.capacity) ∧
    ((filled.isEmpty = true ↔ filled.view = []) ∧ (filled.isEmpty = true ↔ filled.front = 0)) ∧
    block.clear.view = [] := by
  intro stores filled
  have hcapacity : block.capacity = room + 1 := rfl
  obtain ⟨hinside, hlast⟩ := storesBy_spec hf block a
  have hfilled : filled = block.format (text a) := formatBy_eq_format hf block a
  have hview : filled.view = Bytes.untilNul ((text a).take room) := by
    rw [hfilled]
    exact block.view_format (text a)
  have hlongest : Bytes.LongestNulFree ((text a).take room) filled.view := by
    rw [hview]
    exact Bytes.longest_untilNul _
  refine ⟨⟨hinside, fun beyond => ?_⟩, ⟨hlast, ?_⟩, hfilled, ⟨hlongest, ?_, ?_⟩,
    fun more larger => ?_, ?_, ⟨?_, filled.isEmpty_iff⟩, block.view_clear⟩
  · refine Store.foldl_into_append (fun store hstore => ?_) beyond
    rw [block.cells_length]
    exact hinside store hstore
  · have hlength : ((text a).take room).length = min (text a).length room := by
      rw [List.length_take, Nat.min_comm]
    rw [cells_formatBy hf, ← hlength, List.getElem?_append_right (Nat.le_refl _), Nat.sub_self]
    rfl
  · have hle := hlongest.front_of.length_le
    rw [List.length_take] at hle
    omega
  · exact hlongest.front_of.trans (List.take_prefix room (text a))
  · rw [hfilled, formatBy_eq_format hf larger a]
    exact block.view_format_prefix larger (text a)
  · rw [hview, ← fitted_eq, fitted_eq_self_iff, hcapacity, Nat.lt_succ_iff, and_comm]
  · rw [filled.isEmpty_iff, filled.view_eq_nil_iff]

/-- In a block of eight cells, the last three of the ten bytes of `abcdefg:55` are not stored, and
the eighth cell gets the terminator. `ab`, a NUL byte and `cd:3` are stored as a whole, but only
`ab` is shown, as a block of eleven cells shows it too. -/
theorem text_shown_up_to_nul :
    let block : Bounded 7 := ⟨List.replicate 8 255, rfl⟩
    let long := [Bytes.ascii "abcdefg", Bytes.ascii ":", Bytes.ascii "55"]
    let broken := [[97, 98, 0, 99, 100], Bytes.ascii ":", Bytes.ascii "3"]
    Formatter.piecewise.Sound List.flatten ∧
    (⟨7, 0⟩ ∈ block.storesBy .piecewise long ∧ 7 < block.capacity ∧
      (block.storesBy .piecewise long).foldl Store.into (block.cells ++ [1, 2])
        = (block.formatBy .piecewise long).cells ++ [1, 2] ∧
      (block.formatBy .piecewise long).view = Bytes.ascii "abcdefg" ∧
      (block.formatBy .piecewise long).view ≠ long.flatten) ∧
    ((block.storesBy .piecewise broken).getLast? = some ⟨7, 0⟩ ∧
      (block.formatBy .piecewise broken).view = Bytes.ascii "ab" ∧
      Bytes.ascii "ab" <+: ((zeros (7 + 3)).formatBy .piecewise broken).view ∧
      (block.formatBy .piecewise broken).isEmpty = false) ∧
    block.clear.view = [] := by
  intro block long broken
  obtain ⟨⟨hinside, hmemory⟩, -, -, -, -, hwhole, -, hclear⟩ :=
    text_shown Formatter.piecewise_sound block long
  obtain ⟨-, ⟨hlast, -⟩, -, -, hlarger, -, ⟨hempty, -⟩, -⟩ :=
    text_shown Formatter.piecewise_sound block broken
  have hstore : ⟨7, 0⟩ ∈ block.storesBy .piecewise long := by decide
  have hshown : (block.formatBy .piecewise broken).view = Bytes.ascii "ab" := by decide
  have hlarger' := hlarger 3 (zeros (7 + 3))
  rw [hshown] at hlarger'
  refine ⟨Formatter.piecewise_sound,
    ⟨hstore, hinside _ hstore, hmemory [1, 2], by decide, fun hequal => ?_⟩,
    ⟨hlast, hshown, hlarger', ?_⟩, hclear⟩
  · exact absurd (hwhole.mp hequal).2 (by decide)
  · rw [← Bool.not_eq_true, hempty, hshown]
    decide

end Bounded

end Text

end PatternScan
