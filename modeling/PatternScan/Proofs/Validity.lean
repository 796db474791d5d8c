import PatternScan.Pattern.Engine
import PatternScan.Proofs.Utf8

/-!
# Subjects of patterns in UTF-8

The setting `(*UTF)` in front of a pattern puts it in UTF-8, and a search for it fails on subjects
that are not valid. Three things live here:

* `Setup.utf_of_readFrom`, by which no other setting undoes that one;
* `Code.search_eq_invalid_iff`, by which a search reports a flaw iff the subject has one;
* `engine_flaw_iff`, by which that shows in the codes of the engine.
-/

namespace PatternScan.Pattern

/-! ## Settings -/

namespace Setup

/-- Whether a setting leaves a pattern in UTF-8, whatever number stands behind it. -/
def Setting.KeepsUtf : Setting → Prop
  | .plain apply => ∀ s : Setup, s.utf = true → (apply s).utf = true
  | .number apply => ∀ (s : Setup) (n : ℕ), s.utf = true → (apply s n).utf = true

lemma keepsUtf_of_mem_table : ∀ entry ∈ table, entry.2.KeepsUtf := by
  simp [table, Setting.KeepsUtf, limitChoices, limitDepth, limitMemory]

/-- What stands in front of some bytes comes from the list. -/
lemma exists_mem_of_front? {b behind : Bytes} {settings : List (Bytes × Setting)}
    {setting : Setting} (h : front? b settings = some (setting, behind)) :
    ∃ name, (name, setting) ∈ settings := by
  induction settings with
  | nil => cases h
  | cons entry more ih =>
    obtain ⟨name, setting'⟩ := entry
    unfold front? at h
    split_ifs at h
    · cases h
      exact ⟨name, List.mem_cons_self⟩
    · obtain ⟨name', hmem⟩ := ih h
      exact ⟨name', List.mem_cons_of_mem _ hmem⟩

/-- Settings that follow leave a pattern in UTF-8. -/
lemma utf_of_readFrom {fuel offset offset' : ℕ} {s s' : Setup} {pattern : Bytes}
    (h : readFrom fuel s offset pattern = .ok (s', offset')) (hs : s.utf = true) :
    s'.utf = true := by
  fun_induction readFrom fuel s offset pattern with
  | case1 | case2 | case7 =>
    cases h
    exact hs
  | case3 fuel s offset rest apply behind hfront ih =>
    obtain ⟨_, hmem⟩ := exists_mem_of_front? hfront
    exact ih h (keepsUtf_of_mem_table _ hmem s hs)
  | case4 | case6 => cases h
  | case5 fuel s offset rest apply behind hfront start n count _ _ more _ ih =>
    obtain ⟨_, hmem⟩ := exists_mem_of_front? hfront
    exact ih h (keepsUtf_of_mem_table _ hmem s n hs)

/-- The setting `(*UTF)` in front of a pattern holds for it. -/
lemma utf_of_read {pattern : Bytes} {s : Setup} {offset : ℕ}
    (h : read (Bytes.ascii "(*UTF)" ++ pattern) = .ok (s, offset)) : s.utf = true := by
  have hfront : front? (Bytes.ascii "UTF)" ++ pattern) table
      = some (.plain fun s => { s with utf := true }, pattern) := rfl
  have hpattern : Bytes.ascii "(*UTF)" ++ pattern = 40 :: 42 :: (Bytes.ascii "UTF)" ++ pattern) :=
    rfl
  unfold read at h
  rw [hpattern, readFrom, hfront] at h
  exact utf_of_readFrom h rfl

end Setup

/-! ## Compilation -/

/-- A computation that succeeds goes through all its parts. -/
lemma Fault.exists_of_bind {α β : Type} {x : Except Fault α} {f : α → Except Fault β} {b : β}
    (h : x >>= f = .ok b) : ∃ a, x = .ok a ∧ f a = .ok b := by
  rcases x with fault | a
  · cases h
  · exact ⟨a, rfl, h⟩

namespace Code

lemma setup_of_ofSyntax {x : Syntax} {setup : Setup} {anchored : Bool} {c : Code}
    (h : ofSyntax x setup anchored = .ok c) : c.setup = setup := by
  unfold ofSyntax at h
  obtain ⟨widths, -, h⟩ := Fault.exists_of_bind h
  obtain ⟨-, -, h⟩ := Fault.exists_of_bind h
  obtain ⟨lowered, -, h⟩ := Fault.exists_of_bind h
  cases h
  rfl

/-- A pattern behind `(*UTF)` is compiled for subjects in UTF-8. -/
lemma setup_utf_of_compile {pattern : Bytes} {mask : UInt32} {c : Code}
    (h : compile (Bytes.ascii "(*UTF)" ++ pattern) mask = .ok c) : c.setup.utf = true := by
  unfold compile at h
  obtain ⟨⟨setup, offset⟩, hread, h⟩ := Fault.exists_of_bind h
  have hutf := Setup.utf_of_read hread
  dsimp only at h
  rw [if_pos hutf] at h
  rcases hflaw : Utf8.flaw? (Bytes.ascii "(*UTF)" ++ pattern) with _ | flaw
  · rw [hflaw] at h
    obtain ⟨x, -, h⟩ := Fault.exists_of_bind h
    rw [setup_of_ofSyntax h]
    exact hutf
  · rw [hflaw] at h
    cases h

/-! ## Searches -/

/-- Once a subject has been found valid, no flaw is reported. -/
lemma searchFrom_ne_invalid (c : Code) (s : Subject) (fuel i skips : ℕ) (seen : Option ℕ)
    (code : Int) : c.searchFrom s fuel i skips seen ≠ .invalid code := by
  induction fuel generalizing i skips seen with
  | zero => exact nofun
  | succ fuel ih =>
    unfold searchFrom
    split
    · exact nofun
    · split
      · exact nofun
      · exact nofun
      · split
        · exact nofun
        · exact ih _ _ _

/-- A search for a pattern in UTF-8 reports a flaw iff the subject has it. -/
theorem search_eq_invalid_iff {c : Code} (hutf : c.setup.utf = true) (text : Bytes) (code : Int) :
    c.search text = .invalid code ↔ ∃ place, Utf8.flaw? text = some (code, place) := by
  unfold search
  rw [if_pos hutf]
  rcases Utf8.flaw? text with _ | ⟨code', place⟩
  · dsimp only
    split_ifs
    · simp
    · simp [searchFrom_ne_invalid]
  · simp

end Code

/-! ## Replies -/

lemma Utf8.neg_of_mem_flawCodes {code : Int} (h : code ∈ Utf8.flawCodes) :
    code < 0 ∧ code ≠ Reply.noMatchCode := by
  rw [Utf8.mem_flawCodes] at h
  have hnoMatch : Reply.noMatchCode = -1 := rfl
  omega

lemma Machine.Refusal.code_not_mem (x : Machine.Refusal) : x.code ∉ Utf8.flawCodes := by
  rw [Utf8.mem_flawCodes]
  cases x <;> decide

/-- A reply has the code of a flaw iff the answer is a flaw. -/
lemma Answer.reply_flaw_iff {a : Answer} (ha : ∀ code, a = .invalid code → code ∈ Utf8.flawCodes)
    (count : ℕ) : (a.reply count).code ∈ Utf8.flawCodes ↔ ∃ code, a = .invalid code := by
  cases a with
  | found r =>
    rw [Utf8.mem_flawCodes]
    simp only [reply, Reply.ofRegs, reduceCtorEq, exists_false, iff_false]
    split_ifs <;> omega
  | notFound =>
    rw [Utf8.mem_flawCodes]
    simp [reply, Reply.empty, Reply.noMatchCode]
  | invalid code => simpa [reply, Reply.empty] using ha code
  | refused x => simpa [reply, Reply.empty] using x.code_not_mem

/-- The engine fails with the code of a flaw iff the subject of a pattern in UTF-8 is not valid. -/
theorem engine_flaw_iff {c : Code} (hutf : c.setup.utf = true) (text : Bytes) (count : ℕ) :
    (engine.search c text count).code ∈ Utf8.flawCodes ↔ ¬Utf8.Valid text := by
  show ((c.search text).reply count).code ∈ _ ↔ _
  rw [Answer.reply_flaw_iff, ← Utf8.flaw?_eq_none_iff]
  · simp [Code.search_eq_invalid_iff hutf, Option.eq_none_iff_forall_ne_some]
  · intro code hcode
    obtain ⟨place, hflaw⟩ := (Code.search_eq_invalid_iff hutf text code).mp hcode
    exact Utf8.flaw?_code hflaw

/-- Only matches are replied to with a code that is not negative. -/
lemma exists_found_of_code_nonneg {c : Code} (hutf : c.setup.utf = true) {text : Bytes} {count : ℕ}
    (h : 0 ≤ (engine.search c text count).code) : ∃ r, c.search text = .found r := by
  change 0 ≤ ((c.search text).reply count).code at h
  rcases hanswer : c.search text with r | _ | code | x
  · exact ⟨r, rfl⟩
  · rw [hanswer] at h
    have hnegative : ¬0 ≤ Reply.noMatchCode := by decide
    exact absurd h hnegative
  · obtain ⟨place, hflaw⟩ := (Code.search_eq_invalid_iff hutf text code).mp hanswer
    obtain ⟨hnegative, -⟩ := Utf8.neg_of_mem_flawCodes (Utf8.flaw?_code hflaw)
    rw [hanswer] at h
    exact absurd h (Int.not_le.mpr hnegative)
  · rw [hanswer] at h
    have hnegative : ¬0 ≤ x.code := by cases x <;> decide
    exact absurd h hnegative

/-- What the engine compiles behind `(*UTF)` is for subjects in UTF-8. -/
lemma setup_utf_of_engine_compile {pattern : Bytes} {mask : UInt32} {c : Code}
    (h : engine.compile (Bytes.ascii "(*UTF)" ++ pattern) mask = .ok c) : c.setup.utf = true := by
  change (Code.compile (Bytes.ascii "(*UTF)" ++ pattern) mask).mapError _ = _ at h
  rcases hcompile : Code.compile (Bytes.ascii "(*UTF)" ++ pattern) mask with fault | c'
  · rw [hcompile] at h
    cases h
  · rw [hcompile] at h
    cases h
    exact Code.setup_utf_of_compile hcompile

end PatternScan.Pattern
