import PatternScan.Proofs.FirstMatch

/-!
# As many groups as there are slots

The code of a reply leaves trailing groups out that took no part in the match, and is zero if there
were more groups than slots. A match counts neither way: it has one group for each slot that the
engine was given, whatever the code says. Three things live here:

* `Reply.Counted`, the promise about the code and the slots it does not count;
* `Reply.ReadsAs`, what a search makes of a reply;
* `Compiled.slots_counted`, by which both a search with all slots and a test with one do that.
-/

namespace PatternScan

/-! ## Replies and their codes -/

namespace Reply

/-- The number of slots that the code of a reply says were filled, out of `count`. -/
def filled (r : Reply) (count : ℕ) : ℕ :=
  if r.code = 0 then count else r.code.toNat

/-- A reply with `count` slots, of which its code counts no more than there are and the others are
unset. -/
structure Counted (r : Reply) (count : ℕ) : Prop where
  slots_length : r.slots.length = count
  code_le : r.code ≤ count
  unset : 0 ≤ r.code → ∀ i, r.filled count ≤ i → ∀ slot ∈ r.slots[i]?, slot = .unset

/-- What a reply with `count` slots reads as: no match for one code, a failure with the very code
for any other negative one, and else a match with all slots, of which those behind the filled ones
are unset. -/
structure ReadsAs (r : Reply) (count : ℕ) (subject : Bytes)
    (result : Except Failure (Option Match)) : Prop where
  noMatch : r.code = noMatchCode → result = .ok none
  failed : r.code < 0 → r.code ≠ noMatchCode →
    ∃ failure, result = .error failure ∧ failure.code = r.code
  matched : 0 ≤ r.code → ∃ m, result = .ok (some m) ∧ m.size = count ∧
    (∀ i < count, ∃ slot ∈ r.slots[i]?, m.start i = .ok slot.start ∧ m.stop i = .ok slot.stop) ∧
    ∀ i < count, r.filled count ≤ i →
      m.start i = .ok npos ∧ m.stop i = .ok npos ∧ m.text subject i = .ok none
  /-- A cell that keeps the result counts as a match iff the code is not negative, and then holds
  that match. -/
  kept : ∀ (S : Type) (s : MatchStore S) (origin : S),
    ((s.searched origin result).2.isMatch = true ↔ 0 ≤ r.code) ∧
      ∀ m, result = .ok (some m) →
        (s.searched origin result).1.content? (s.searched origin result).2 = some (origin, m)

end Reply

namespace Match

variable {groups count : ℕ}

/-- With a slot for every group or with one slot, there are as many groups to report as slots. -/
lemma sizeOf_eq_count (hcount : count = groups + 1 ∨ count = 1) {code : ℕ} (h : code ≤ count) :
    sizeOf groups count code = count := by
  simp only [sizeOf]
  rcases hcount with rfl | rfl
  · split_ifs <;> omega
  · split_ifs <;> omega

/-- A group that is counted and has a slot is read off that slot. -/
lemma slot_eq_of_getElem? {m : Match} {i : ℕ} {slot : Slot} (hsize : i < m.size)
    (hslot : m.slots[i]? = some slot) : m.slot i = .ok slot := by
  rw [Match.slot, if_pos hsize, hslot]

lemma start_of_slot {m : Match} {i : ℕ} {slot : Slot} (h : m.slot i = .ok slot) :
    m.start i = .ok slot.start := by
  rw [start, h]
  rfl

lemma stop_of_slot {m : Match} {i : ℕ} {slot : Slot} (h : m.slot i = .ok slot) :
    m.stop i = .ok slot.stop := by
  rw [stop, h]
  rfl

/-- The group of an unset slot has no text. -/
lemma text_of_unset {m : Match} {i : ℕ} (h : m.slot i = .ok .unset) (subject : Bytes) :
    m.text subject i = .ok none := by
  rw [text, h]
  rfl

end Match

namespace MatchStore

variable {S : Type}

/-- The cell that a search fills holds the match that was found, if it counts any group. -/
lemma content?_searched (s : MatchStore S) (origin : S) {m : Match} (hsize : 0 < m.size) :
    (s.searched origin (.ok (some m))).1.content? (s.searched origin (.ok (some m))).2
      = some (origin, m) := by
  have hmatch : (s.searched origin (.ok (some m))).2.isMatch = true := decide_eq_true hsize
  rw [content?, if_pos hmatch]
  -- the block is the one that was added
  show ((s.blocks ++ [m.slots])[s.blocks.length]?).bind _ = _
  rw [List.getElem?_concat_length]
  rfl

end MatchStore

/-! ## Searches -/

/-- What is made of a reply to a search with a slot for every group, or with one slot. -/
lemma Reply.Counted.settle_readsAs {r : Reply} {groups count : ℕ} (hr : r.Counted count)
    (hcount : count = groups + 1 ∨ count = 1) (subject : Bytes) :
    r.ReadsAs count subject (Match.settle groups count r) := by
  have hpos : 0 < count := by omega
  have hnone : r.code = noMatchCode → Match.settle groups count r = .ok none := by
    intro hcode
    rw [Match.settle, if_pos hcode]
  have hfailed : r.code < 0 → r.code ≠ noMatchCode →
      Match.settle groups count r = .error (.ofCode r.code) := by
    intro hneg hne
    rw [Match.settle, if_neg hne, if_pos hneg]
  have hmatched : 0 ≤ r.code → Match.settle groups count r = .ok (some ⟨r.slots, count⟩) := by
    intro hcode
    have hle := hr.code_le
    refine Match.settle_eq_some_iff.mpr ⟨hcode, ?_⟩
    rw [Match.sizeOf_eq_count hcount (by omega)]
  -- every group that is counted has a slot
  have hslot : ∀ i < count, ∃ slot, r.slots[i]? = some slot ∧
      (⟨r.slots, count⟩ : Match).slot i = .ok slot := by
    intro i hi
    have hi' : i < r.slots.length := by rw [hr.slots_length]; exact hi
    have hget : r.slots[i]? = some r.slots[i] := List.getElem?_eq_getElem hi'
    exact ⟨r.slots[i], hget, Match.slot_eq_of_getElem? hi hget⟩
  refine ⟨hnone, fun hneg hne => ⟨_, hfailed hneg hne, rfl⟩,
    fun hcode => ⟨_, hmatched hcode, rfl, ?_, ?_⟩, fun S s origin => ⟨?_, ?_⟩⟩
  · intro i hi
    obtain ⟨slot, hget, hread⟩ := hslot i hi
    exact ⟨slot, hget, Match.start_of_slot hread, Match.stop_of_slot hread⟩
  · intro i hi hfilled
    obtain ⟨slot, hget, hread⟩ := hslot i hi
    obtain rfl : slot = .unset := hr.unset hcode i hfilled slot hget
    exact ⟨Match.start_of_slot hread, Match.stop_of_slot hread, Match.text_of_unset hread subject⟩
  · rcases Int.lt_or_le r.code 0 with hneg | hcode
    · have hresult : (s.searched origin (Match.settle groups count r)).2.isMatch = false := by
        by_cases hne : r.code = noMatchCode
        · rw [hnone hne]
          rfl
        · rw [hfailed hneg hne]
          rfl
      simp [hresult, Int.not_le.mpr hneg]
    · simpa [hmatched hcode, MatchStore.searched, Cell.isMatch, hcode] using hpos
  · intro m hm
    obtain ⟨hcode, -⟩ := Match.settle_eq_some_iff.mp hm
    rw [hmatched hcode] at hm ⊢
    cases hm
    exact s.content?_searched origin hpos

namespace Compiled

variable {E : Engine}

/-- A search has a slot for every group, a test has one, and either way the match has one group for
each slot: all of its groups can be read, those that the engine left out of its code are unset, and
no group is counted that has no slot. A code that says no match gives none, and any other negative
code is the code of the failure. -/
theorem slots_counted (code : E.Code) (subject : Bytes) :
    ((E.search code subject (E.groups code + 1)).Counted (E.groups code + 1) →
      (E.search code subject (E.groups code + 1)).ReadsAs (E.groups code + 1) subject
        ((ofCode code).find subject)) ∧
    ((E.search code subject 1).Counted 1 →
      (E.search code subject 1).ReadsAs 1 subject ((ofCode code).search 1 subject) ∧
      (ofCode code).test subject = ((ofCode code).search 1 subject).map Option.isSome) := by
  refine ⟨fun hfind => ?_, fun htest => ⟨?_, test_eq _ _⟩⟩
  · exact hfind.settle_readsAs (.inl rfl) subject
  · exact htest.settle_readsAs (.inr rfl) subject

/-- In `abcd`, the code of the reply is 4 for five slots, of which the last one is unset, and 0 for
one slot. -/
theorem slots_counted_in_abcd :
    let subject := Bytes.ascii "abcd"
    let p : Compiled lookahead := .ofCode ()
    (lookahead.search () subject 5).code = 4 ∧ (lookahead.search () subject 5).Counted 5 ∧
    (lookahead.search () subject 1).code = 0 ∧ (lookahead.search () subject 1).Counted 1 ∧
    (∃ m, p.find subject = .ok (some m) ∧ m.size = 5 ∧ m.start 4 = .ok npos ∧
      m.stop 4 = .ok npos ∧ m.text subject 4 = .ok none) ∧
    ∃ m, p.search 1 subject = .ok (some m) ∧ m.size = 1 ∧ p.test subject = .ok true := by
  intro subject p
  have hfind : (lookahead.search () subject 5).Counted 5 := by
    refine ⟨rfl, by decide, fun _ i hi slot hslot => ?_⟩
    rcases Nat.lt_or_ge i 5 with hlt | hge
    · obtain rfl : i = 4 := Nat.le_antisymm (Nat.le_of_lt_succ hlt) hi
      exact (Option.some.inj hslot).symm
    · rw [List.getElem?_eq_none hge] at hslot
      cases hslot
  have htest : (lookahead.search () subject 1).Counted 1 := by
    refine ⟨rfl, by decide, fun _ i hi slot hslot => ?_⟩
    rw [List.getElem?_eq_none hi] at hslot
    cases hslot
  obtain ⟨hsearch, hone⟩ := slots_counted (E := lookahead) () subject
  obtain ⟨m, hm, hsize, -, hunset⟩ := (hsearch hfind).matched (by decide)
  obtain ⟨hreads, hflag⟩ := hone htest
  obtain ⟨m', hm', hsize', -, -⟩ := hreads.matched (by decide)
  refine ⟨rfl, hfind, rfl, htest, ⟨m, hm, hsize, hunset 4 (by decide) (by decide)⟩, m', hm', hsize',
    ?_⟩
  rw [hflag, hm']
  rfl

end Compiled

end PatternScan
