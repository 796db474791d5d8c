import PatternScan.Match
import Mathlib.Data.List.Basic
import Mathlib.Tactic.Common

/-!
# What an engine promises

The library takes an engine's replies as they come. Its theorems are about engines that keep to
what is documented of a search: the slots lie in the subject, the slot of a match's whole text is
set, and the code counts no slot that is not there. They take a buffer to be shorter than `npos`
bytes, as any buffer in memory is: `npos` is not a length. Four things live here:

* `Reply.Sound` and `Engine.Sound`, the promise for one reply and for all replies of a pattern;
* `Match.Fits`, what a match is whose reply kept the promise;
* `Compiled.find_fits`, which says that every match found does fit;
* `sample`, a small engine that keeps the promise.
-/

namespace PatternScan

/-! ## Replies that keep to the subject -/

lemma npos_toNat : npos.toNat = 0xffffffffffffffff := rfl

/-- Offsets below `npos` are their own words. -/
lemma toNat_ofNat_of_lt_npos {k : ℕ} (h : k < npos.toNat) : (UInt64.ofNat k).toNat = k := by
  rw [npos_toNat] at h
  rw [UInt64.toNat_ofNat']
  omega

lemma ofNat_ne_npos {k : ℕ} (h : k < npos.toNat) : UInt64.ofNat k ≠ npos := by
  intro hnpos
  have htoNat := toNat_ofNat_of_lt_npos h
  rw [hnpos] at htoNat
  omega

/-- A slot that, if it is set, holds a text in a subject of `n` bytes. -/
def Slot.Within (s : Slot) (n : ℕ) : Prop :=
  s.isSet = true → s.start ≤ s.stop ∧ s.stop.toNat ≤ n

/-- The promise about the reply to a search of `n` bytes with `count` slots. -/
structure Reply.Sound (r : Reply) (n count : ℕ) : Prop where
  slots_length : r.slots.length = count
  code_le : r.code ≤ count
  whole_isSet : 0 ≤ r.code → ∀ s ∈ r.slots.head?, s.isSet = true
  within : 0 ≤ r.code → ∀ s ∈ r.slots, s.Within n

/-- A reply without a match: its code is negative and no slot is set. -/
def Reply.without (code : Int) (count : ℕ) : Reply :=
  ⟨code, List.replicate count .unset⟩

lemma Reply.without_sound {code : Int} (h : code < 0) (n count : ℕ) :
    (Reply.without code count).Sound n count where
  slots_length := List.length_replicate
  code_le := by
    show code ≤ count
    omega
  whole_isSet hcode := absurd hcode (Int.not_le.mpr h)
  within hcode := absurd hcode (Int.not_le.mpr h)

/-- The promise about all searches for a pattern with `count` slots. -/
def Engine.Sound (E : Engine) (code : E.Code) (count : ℕ) : Prop :=
  ∀ subject : Bytes, subject.length < npos.toNat →
    (E.search code subject count).Sound subject.length count

/-! ## Matches that fit -/

namespace Match

/-- A match in a subject of `n` bytes with a slot for the whole match and for each of `groups`
groups. -/
structure Fits (m : Match) (groups n : ℕ) : Prop where
  size_eq : m.size = groups + 1
  slots_length : m.slots.length = groups + 1
  whole_isSet : ∀ s ∈ m.slots.head?, s.isSet = true
  within : ∀ s ∈ m.slots, s.Within n

/-- With a slot for every group, every group is reported. -/
lemma sizeOf_of_le {groups code : ℕ} (h : code ≤ groups + 1) :
    sizeOf groups (groups + 1) code = groups + 1 := by
  simp only [sizeOf]
  split_ifs <;> omega

/-- Whatever the code is, the whole match is reported if there is a slot. -/
lemma sizeOf_pos {slots : ℕ} (h : 0 < slots) (groups code : ℕ) : 0 < sizeOf groups slots code := by
  simp only [sizeOf]
  split_ifs <;> omega

/-- A reply reads as a match iff its code is not negative. -/
lemma settle_eq_some_iff {groups slots : ℕ} {r : Reply} {m : Match} :
    settle groups slots r = .ok (some m) ↔
      0 ≤ r.code ∧ m = ⟨r.slots, sizeOf groups slots r.code.toNat⟩ := by
  unfold settle Reply.noMatchCode
  by_cases hnone : r.code = -1
  · simp [hnone]
  · rw [if_neg hnone]
    by_cases hneg : r.code < 0
    · simp [hneg, Int.not_le.mpr hneg]
    · simp [hneg, Int.not_lt.mp hneg, eq_comm]

lemma settle_fits {groups n : ℕ} {r : Reply} {m : Match} (hr : r.Sound n (groups + 1))
    (hm : settle groups (groups + 1) r = .ok (some m)) : m.Fits groups n := by
  obtain ⟨hcode, rfl⟩ := settle_eq_some_iff.mp hm
  have hle := hr.code_le
  exact {
    size_eq := sizeOf_of_le (by omega)
    slots_length := hr.slots_length
    whole_isSet := hr.whole_isSet hcode
    within := hr.within hcode }

namespace Fits

variable {m : Match} {groups n : ℕ}

/-- The slots of a match that fits, the whole match first. -/
lemma exists_slots (h : m.Fits groups n) :
    ∃ w rest, m.slots = w :: rest ∧ w.isSet = true ∧ w.Within n := by
  rcases hs : m.slots with _ | ⟨w, rest⟩
  · have hlength := h.slots_length
    simp [hs] at hlength
  · exact ⟨w, rest, rfl, h.whole_isSet w (by simp [hs]), h.within w (by simp [hs])⟩

lemma slot_eq (h : m.Fits groups n) {i : ℕ} (hi : i < m.slots.length) :
    m.slot i = .ok m.slots[i] := by
  have hsize : i < m.size := by rw [h.size_eq, ← h.slots_length]; exact hi
  rw [slot, if_pos hsize, List.getElem?_eq_getElem hi]

end Fits

end Match

/-- Every match that is found fits. -/
theorem Compiled.find_fits {E : Engine} {code : E.Code} {subject : Bytes} {m : Match}
    (hE : E.Sound code (E.groups code + 1)) (hs : subject.length < npos.toNat)
    (hm : (Compiled.ofCode code).find subject = .ok (some m)) :
    m.Fits (E.groups code) subject.length :=
  Match.settle_fits (hE subject hs) hm

/-- Every match that is found in the rest of a buffer fits there. -/
lemma Compiled.find_drop_fits {E : Engine} {code : E.Code} {buffer : Bytes} {k : ℕ} {m : Match}
    (hE : E.Sound code (E.groups code + 1)) (hn : buffer.length < npos.toNat)
    (hm : (Compiled.ofCode code).find (buffer.drop k) = .ok (some m)) :
    m.Fits (E.groups code) (buffer.length - k) := by
  rw [← List.length_drop]
  refine find_fits hE ?_ hm
  rw [List.length_drop]
  omega

/-! ## A small engine

It knows two kinds of patterns, `(x)*` and `x|\z` for a byte `x`. The first matches at every place,
with as many `x` as stand there and the last of them as its group; the second matches at each `x`
and at the end. Of the others, those with a parenthesis left open are rejected for that, at their
end, and the rest are too complicated.
-/

/-- A pattern of the small engine. -/
inductive SamplePattern
  | star (byte : UInt8)
  | orEnd (byte : UInt8)
deriving DecidableEq

namespace SamplePattern

/-- Reads `(x)*` or `x|\z`. -/
def read (pattern : Bytes) : Except (Int × UInt64) SamplePattern :=
  if pattern.count 41 < pattern.count 40 then .error (114, UInt64.ofNat pattern.length)
  else
    match pattern with
    | [40, byte, 41, 42] => .ok (.star byte)
    | [byte, 124, 92, 122] => .ok (.orEnd byte)
    | _ => .error (186, 0)

/-- The number of groups. -/
def groups : SamplePattern → ℕ
  | .star _ => 1
  | .orEnd _ => 0

/-- The number of bytes in front that are `byte`. -/
def runLength (byte : UInt8) (subject : Bytes) : ℕ :=
  (subject.takeWhile (· == byte)).length

/-- The slot of a group of `(x)*` that matched `run` times. -/
def starSlot (run : ℕ) : ℕ → Slot
  | 0 => ⟨0, UInt64.ofNat run⟩
  | 1 => if run = 0 then .unset else ⟨UInt64.ofNat (run - 1), UInt64.ofNat run⟩
  | _ => .unset

/-- The slot of a group of `x|\z` in a subject of `n` bytes whose first `x` is at `first`. -/
def orEndSlot (first n : ℕ) : ℕ → Slot
  | 0 => ⟨UInt64.ofNat first, UInt64.ofNat (min (first + 1) n)⟩
  | _ => .unset

/-- The reply of a match of which `used` slots are told, for `count` slots. -/
def reply (used count : ℕ) (slot : ℕ → Slot) : Reply :=
  ⟨if count < used then 0 else used, (List.range count).map slot⟩

/-- The first match in a subject. -/
def search (subject : Bytes) (count : ℕ) : SamplePattern → Reply
  | .star byte =>
    let run := runLength byte subject
    reply (if run = 0 then 1 else 2) count (starSlot run)
  | .orEnd byte => reply 1 count (orEndSlot (subject.findIdx (· == byte)) subject.length)

lemma runLength_le (byte : UInt8) (subject : Bytes) : runLength byte subject ≤ subject.length :=
  (List.takeWhile_sublist _).length_le

lemma starSlot_within {run n : ℕ} (hrun : run ≤ n) (hn : n < npos.toNat) (i : ℕ) :
    (starSlot run i).Within n := by
  have hstop : (UInt64.ofNat run).toNat = run := toNat_ofNat_of_lt_npos (by omega)
  intro hset
  match i with
  | 0 => exact ⟨by simp [starSlot, UInt64.le_iff_toNat_le], by rw [starSlot, hstop]; exact hrun⟩
  | 1 =>
    by_cases hzero : run = 0
    · simp [starSlot, hzero, Slot.isSet, Slot.unset] at hset
    · have hstart : (UInt64.ofNat (run - 1)).toNat = run - 1 :=
        toNat_ofNat_of_lt_npos (by omega)
      simp only [starSlot, if_neg hzero, UInt64.le_iff_toNat_le, hstart, hstop]
      omega
  | i + 2 => simp [starSlot, Slot.isSet, Slot.unset] at hset

lemma orEndSlot_within {first n : ℕ} (hfirst : first ≤ n) (hn : n < npos.toNat) (i : ℕ) :
    (orEndSlot first n i).Within n := by
  have hstart : (UInt64.ofNat first).toNat = first := toNat_ofNat_of_lt_npos (by omega)
  have hstop : (UInt64.ofNat (min (first + 1) n)).toNat = min (first + 1) n :=
    toNat_ofNat_of_lt_npos (by omega)
  intro hset
  match i with
  | 0 =>
    simp only [orEndSlot, UInt64.le_iff_toNat_le, hstart, hstop]
    omega
  | i + 1 => simp [orEndSlot, Slot.isSet, Slot.unset] at hset

/-- A reply keeps the promise if its slots do. -/
lemma reply_sound {used count n : ℕ} {slot : ℕ → Slot} (hset : (slot 0).isSet = true)
    (hslot : ∀ i, (slot i).Within n) : (reply used count slot).Sound n count where
  slots_length := by simp [reply]
  code_le := by
    simp only [reply]
    split_ifs <;> omega
  whole_isSet := by
    intro _ s hs
    rcases count with _ | count
    · simp [reply] at hs
    · simp only [reply, List.range_succ_eq_map, List.map_cons, List.head?_cons,
        Option.mem_some_iff] at hs
      rw [← hs]
      exact hset
  within := by
    intro _ s hs
    obtain ⟨i, -, rfl⟩ := List.mem_map.mp hs
    exact hslot i

lemma search_sound (p : SamplePattern) {subject : Bytes} (hn : subject.length < npos.toNat)
    (count : ℕ) : (search subject count p).Sound subject.length count := by
  cases p with
  | star byte =>
    exact reply_sound (by simp [starSlot, Slot.isSet, npos])
      (starSlot_within (runLength_le byte subject) hn)
  | orEnd byte =>
    have hfirst : subject.findIdx (· == byte) ≤ subject.length := List.findIdx_le_length
    refine reply_sound ?_ (orEndSlot_within hfirst hn)
    have hne : UInt64.ofNat (subject.findIdx (· == byte)) ≠ npos := ofNat_ne_npos (by omega)
    simpa [orEndSlot, Slot.isSet] using hne

end SamplePattern

/-- The small engine. -/
def sample : Engine where
  Code := SamplePattern
  compile pattern _ := SamplePattern.read pattern
  groups := SamplePattern.groups
  search p subject count := SamplePattern.search subject count p

/-- The pattern `(x)*` of the small engine. -/
abbrev sampleStar : Compiled sample := .ofCode (.star 120)

theorem sample_sound (p : SamplePattern) (count : ℕ) : sample.Sound p count :=
  fun _ hn => SamplePattern.search_sound p hn count

end PatternScan
