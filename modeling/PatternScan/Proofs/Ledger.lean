import PatternScan.Shelf
import Mathlib.Data.List.Induction
import Mathlib.Data.List.Nodup
import Mathlib.Logic.Equiv.Basic
import Mathlib.Logic.ExistsUnique
import Mathlib.Logic.Function.Basic

/-!
# A ledger of numbers that are held or freed

Numbers are issued in order; each name holds one or none, and what a name gives up is freed. In a
ledger, whatever was issued is held by one name or was freed once. Whoever gives out numbers keeps a
ledger if each of its changes is put together from four: a name gives up what it holds, the names
are permuted, a name that holds nothing is given the next number, and the next number is freed as
soon as it is issued. The owners of a registry keep a ledger of handles, and the cells of a store
one of blocks.
-/

namespace PatternScan

/-- What each name holds, what was freed and how many numbers were issued. -/
structure Ledger (held : Name → Option ℕ) (freed : List ℕ) (issued : ℕ) : Prop where
  held_issued : ∀ name h, held name = some h → h < issued
  held_not_freed : ∀ name h, held name = some h → h ∉ freed
  held_once : ∀ name other h, held name = some h → held other = some h → name = other
  freed_issued : ∀ h ∈ freed, h < issued
  freed_nodup : freed.Nodup
  freed_or_held : ∀ h < issued, h ∈ freed ∨ ∃ name, held name = some h

namespace Ledger

variable {held : Name → Option ℕ} {freed : List ℕ} {issued : ℕ}

lemma empty : Ledger (fun _ => none) [] 0 where
  held_issued _ _ h := by cases h
  held_not_freed _ _ h := by cases h
  held_once _ _ _ h := by cases h
  freed_issued _ h := absurd h List.not_mem_nil
  freed_nodup := List.nodup_nil
  freed_or_held _ h := absurd h (Nat.not_lt_zero _)

/-- A name holds something after it gave up what it had only if it is another one. -/
lemma update_none_eq_some {name other : Name} {h : ℕ} :
    Function.update held name none other = some h ↔ other ≠ name ∧ held other = some h := by
  by_cases hother : other = name
  · subst hother
    simp
  · simp [hother]

/-- A name gives up what it holds. -/
lemma giveUp (hl : Ledger held freed issued) (name : Name) :
    Ledger (Function.update held name none) ((held name).toList ++ freed) issued where
  held_issued other h hh := hl.held_issued other h (update_none_eq_some.mp hh).2
  held_not_freed other h hh := by
    obtain ⟨hother, hheld⟩ := update_none_eq_some.mp hh
    rw [List.mem_append, Option.mem_toList]
    rintro (hsame | hmem)
    · exact hother (hl.held_once other name h hheld hsame)
    · exact hl.held_not_freed other h hheld hmem
  held_once other other' h hh hh' :=
    hl.held_once other other' h (update_none_eq_some.mp hh).2 (update_none_eq_some.mp hh').2
  freed_issued h hh := by
    rcases List.mem_append.mp hh with hh | hh
    · exact hl.held_issued name h (Option.mem_toList.mp hh)
    · exact hl.freed_issued h hh
  freed_nodup := by
    rcases hname : held name with _ | h
    · exact hl.freed_nodup
    · exact List.nodup_cons.mpr ⟨hl.held_not_freed name h hname, hl.freed_nodup⟩
  freed_or_held h hh := by
    rw [List.mem_append, Option.mem_toList]
    rcases hl.freed_or_held h hh with hmem | ⟨other, hother⟩
    · exact .inl (.inr hmem)
    · by_cases hname : other = name
      · exact .inl (.inl (hname ▸ hother))
      · exact .inr ⟨other, update_none_eq_some.mpr ⟨hname, hother⟩⟩

/-- Who held a number before the names were permuted is told by permuting back. -/
lemma permute (hl : Ledger held freed issued) (e : Equiv.Perm Name) :
    Ledger (held ∘ e) freed issued where
  held_issued name := hl.held_issued (e name)
  held_not_freed name := hl.held_not_freed (e name)
  held_once name other h hh hh' := e.injective (hl.held_once _ _ h hh hh')
  freed_issued := hl.freed_issued
  freed_nodup := hl.freed_nodup
  freed_or_held h hh := by
    rcases hl.freed_or_held h hh with hmem | ⟨name, hname⟩
    · exact .inl hmem
    · refine .inr ⟨e.symm name, ?_⟩
      rw [Function.comp_apply, e.apply_symm_apply]
      exact hname

/-- A name that holds nothing is given the next number. -/
lemma issue (hl : Ledger held freed issued) {name : Name} (hname : held name = none) :
    Ledger (Function.update held name (some issued)) freed (issued + 1) := by
  -- whoever holds a number holds the new one, under this name, or an old one, under another
  have hheld : ∀ other h, Function.update held name (some issued) other = some h →
      (other = name ∧ h = issued) ∨ (other ≠ name ∧ held other = some h) := by
    intro other h hh
    by_cases hother : other = name
    · subst hother
      rw [Function.update_self, Option.some_inj] at hh
      exact .inl ⟨rfl, hh.symm⟩
    · rw [Function.update_of_ne hother] at hh
      exact .inr ⟨hother, hh⟩
  refine ⟨?_, ?_, ?_, ?_, hl.freed_nodup, ?_⟩
  · intro other h hh
    rcases hheld other h hh with ⟨-, rfl⟩ | ⟨-, hold⟩
    · exact Nat.lt_succ_self _
    · exact Nat.lt_succ_of_lt (hl.held_issued other h hold)
  · intro other h hh hmem
    rcases hheld other h hh with ⟨-, rfl⟩ | ⟨-, hold⟩
    · exact Nat.lt_irrefl _ (hl.freed_issued _ hmem)
    · exact hl.held_not_freed other h hold hmem
  · intro other other' h hh hh'
    rcases hheld other h hh with ⟨hother, rfl⟩ | ⟨-, hold⟩
    · rcases hheld other' _ hh' with ⟨hother', -⟩ | ⟨-, hold'⟩
      · rw [hother, hother']
      · exact absurd (hl.held_issued _ _ hold') (Nat.lt_irrefl _)
    · rcases hheld other' h hh' with ⟨-, rfl⟩ | ⟨-, hold'⟩
      · exact absurd (hl.held_issued _ _ hold) (Nat.lt_irrefl _)
      · exact hl.held_once other other' h hold hold'
  · intro h hmem
    exact Nat.lt_succ_of_lt (hl.freed_issued h hmem)
  · intro h hh
    rcases Nat.lt_succ_iff_lt_or_eq.mp hh with hlt | rfl
    · rcases hl.freed_or_held h hlt with hmem | ⟨other, hother⟩
      · exact .inl hmem
      · have hne : other ≠ name := by
          rintro rfl
          rw [hname] at hother
          cases hother
        exact .inr ⟨other, by rw [Function.update_of_ne hne]; exact hother⟩
    · exact .inr ⟨name, Function.update_self name _ held⟩

/-- A name gives up what it holds and is given the next number. -/
lemma replace (hl : Ledger held freed issued) (name : Name) :
    Ledger (Function.update held name (some issued)) ((held name).toList ++ freed)
      (issued + 1) := by
  have hissued := (hl.giveUp name).issue (Function.update_self name none held)
  rw [Function.update_idem] at hissued
  exact hissued

/-- The next number is freed as soon as it is issued. -/
lemma discard (hl : Ledger held freed issued) : Ledger held (issued :: freed) (issued + 1) where
  held_issued name h hh := Nat.lt_succ_of_lt (hl.held_issued name h hh)
  held_not_freed name h hh := by
    rw [List.mem_cons]
    rintro (rfl | hmem)
    · exact Nat.lt_irrefl _ (hl.held_issued name _ hh)
    · exact hl.held_not_freed name h hh hmem
  held_once := hl.held_once
  freed_issued h hh := by
    rcases List.mem_cons.mp hh with rfl | hmem
    · exact Nat.lt_succ_self _
    · exact Nat.lt_succ_of_lt (hl.freed_issued h hmem)
  freed_nodup :=
    List.nodup_cons.mpr ⟨fun hmem => Nat.lt_irrefl _ (hl.freed_issued _ hmem), hl.freed_nodup⟩
  freed_or_held h hh := by
    rcases Nat.lt_succ_iff_lt_or_eq.mp hh with hlt | rfl
    · exact (hl.freed_or_held h hlt).imp_left (List.mem_cons_of_mem _)
    · exact .inl List.mem_cons_self

/-- Each of several names gives up what it holds. -/
lemma giveUpAll (hl : Ledger held freed issued) {names : List Name} (hnames : names.Nodup) :
    Ledger (fun name => if name ∈ names then none else held name)
      (names.foldl (fun freed name => (held name).toList ++ freed) freed) issued := by
  -- the induction is from behind: what one name gives up comes on top of what the others did
  induction names using List.reverseRecOn with
  | nil => simpa using hl
  | append_singleton names name ih =>
    obtain ⟨hfront, -, hnot⟩ := List.nodup_append.mp hnames
    have hname : name ∉ names := fun hmem => hnot name hmem name List.mem_cons_self rfl
    have hgiven := (ih hfront).giveUp name
    rw [if_neg hname] at hgiven
    have hheld : (fun other => if other ∈ names ++ [name] then none else held other)
        = Function.update (fun other => if other ∈ names then none else held other) name none := by
      funext other
      by_cases hother : other = name
      · subst hother
        simp
      · simp [hother]
    rw [List.foldl_append, hheld]
    exact hgiven

/-- Whatever was issued is held by one name and was not freed, or is held by none and was freed
once. -/
theorem held_or_freed (hl : Ledger held freed issued) {h : ℕ} (hh : h < issued) :
    ((∃! name, held name = some h) ∧ freed.count h = 0) ∨
      ((∀ name, held name ≠ some h) ∧ freed.count h = 1) := by
  by_cases hheld : ∃ name, held name = some h
  · obtain ⟨name, hname⟩ := hheld
    exact .inl ⟨⟨name, hname, fun other hother => hl.held_once other name h hother hname⟩,
      List.count_eq_zero.mpr (hl.held_not_freed name h hname)⟩
  · have hmem : h ∈ freed := (hl.freed_or_held h hh).resolve_right hheld
    exact .inr ⟨fun name hname => hheld ⟨name, hname⟩, List.count_eq_one_of_mem hl.freed_nodup hmem⟩

end Ledger

end PatternScan
