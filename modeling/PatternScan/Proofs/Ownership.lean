import PatternScan.Proofs.Effect
import PatternScan.Proofs.Ledger
import PatternScan.Proofs.Promise

/-!
# Every handle has one owner or was freed once

Handles go from owner to owner by exchanges and moves, and are given up by drops and new
compilations. `Registry.Accounted` is the invariant that carries it all: the owners keep a ledger of
the handles, and whoever holds one has the number of groups that the engine tells of its pattern.
Every change of a registry is put together from three: an owner is dropped, two owners exchange what
they own, an owner gives up its handle for a new one.
-/

namespace PatternScan

variable {E : Engine}

namespace Registry

/-! ## Owners after a change -/

lemma owner_setOwner (r : Registry E) (name : Name) (o : Owner) :
    (r.setOwner name o).owner = Function.update r.owner name o := by
  funext other
  rw [Function.update_apply, owner, setOwner, Shelf.get?_put]
  split_ifs <;> rfl

lemma owner_drop (r : Registry E) (name : Name) :
    (r.drop name).owner = Function.update r.owner name {} :=
  owner_setOwner _ name {}

lemma owner_exchange (r : Registry E) (source target : Name) :
    (r.exchange source target).owner = r.owner ∘ Equiv.swap source target := by
  rw [exchange, owner_setOwner, owner_setOwner, Equiv.swap_comm, Equiv.comp_swap_eq_update]

lemma owner_issue (r : Registry E) (name : Name) (p : Compiled E) :
    (r.issue name p).owner
      = Function.update r.owner name ⟨some r.issued.length, p.groups⟩ :=
  owner_setOwner _ name _

lemma owner_takeOver (r : Registry E) (source target : Name) :
    (r.takeOver source target).owner
      = Function.update (Function.update r.owner target (r.owner source)) source {} := by
  rw [takeOver, owner_setOwner, owner_setOwner]
  rfl

/-- To be made anew by a move is to be dropped and then to exchange with the source. -/
lemma owner_takeOver_eq (r : Registry E) {source target : Name} (h : source ≠ target) :
    (r.takeOver source target).owner = ((r.drop target).exchange source target).owner := by
  rw [owner_takeOver, owner_exchange, owner_drop, Equiv.comp_swap_eq_update, Function.update_self,
    Function.update_of_ne h, Function.update_idem]

/-- The handle that the owner of a name holds. -/
def held (r : Registry E) : Name → Option Handle :=
  Owner.handle ∘ r.owner

lemma held_drop (r : Registry E) (name : Name) :
    (r.drop name).held = Function.update r.held name none := by
  rw [held, owner_drop, Function.comp_update]
  rfl

lemma held_issue (r : Registry E) (name : Name) (p : Compiled E) :
    (r.issue name p).held = Function.update r.held name (some r.issued.length) := by
  rw [held, owner_issue, Function.comp_update]
  rfl

lemma mem_freed_drop {r : Registry E} {name : Name} {h : Handle} :
    h ∈ (r.drop name).freed ↔ r.held name = some h ∨ h ∈ r.freed := by
  show h ∈ (r.held name).toList ++ r.freed ↔ _
  rw [List.mem_append, Option.mem_toList]

end Registry

/-! ## The invariant -/

/-- What an owner has: nothing, or a handle that was issued for a pattern, and as many groups as the
engine tells of that pattern. -/
inductive Owner.Owns (issued : List E.Code) : Owner → Prop
  | nothing : Owns issued {}
  | pattern {h : Handle} {code : E.Code} (was_issued : issued[h]? = some code) :
      Owns issued ⟨some h, E.groups code⟩

namespace Owner.Owns

variable {issued issued' : List E.Code} {o : Owner}

/-- What was issued later is not what an owner has. -/
lemma mono (ho : o.Owns issued) (hissued : issued <+: issued') : o.Owns issued' := by
  cases ho with
  | nothing => exact .nothing
  | pattern was_issued =>
    obtain ⟨new, rfl⟩ := hissued
    apply pattern
    rw [List.getElem?_append_left (List.getElem?_eq_some_iff.mp was_issued).1]
    exact was_issued

lemma groups_of_none (ho : o.Owns issued) (hnone : o.handle = none) : o.groups = 0 := by
  cases ho with
  | nothing => rfl
  | pattern => cases hnone

lemma exists_code (ho : o.Owns issued) {h : Handle} (hh : o.handle = some h) :
    ∃ code, issued[h]? = some code ∧ o.groups = E.groups code := by
  cases ho with
  | nothing => cases hh
  | pattern was_issued =>
    cases hh
    exact ⟨_, was_issued, rfl⟩

/-- One owner has something else from here on. -/
lemma update {owner : Name → Owner} (h : ∀ name, (owner name).Owns issued) (ho : o.Owns issued)
    (name : Name) : ∀ other, (Function.update owner name o other).Owns issued :=
  (Function.forall_update_iff owner fun _ o => o.Owns issued).mpr ⟨ho, fun other _ => h other⟩

end Owner.Owns

namespace Registry

/-- Every handle that was issued is accounted for. -/
structure Accounted (r : Registry E) : Prop where
  ledger : Ledger r.held r.freed r.issued.length
  owns : ∀ name, (r.owner name).Owns r.issued

namespace Accounted

variable {r : Registry E}

lemma empty : Accounted ({} : Registry E) where
  ledger := .empty
  owns _ := .nothing

lemma drop (hr : r.Accounted) (name : Name) : (r.drop name).Accounted where
  ledger := by
    rw [held_drop]
    exact hr.ledger.giveUp name
  owns := by
    rw [owner_drop]
    exact Owner.Owns.update hr.owns .nothing name

lemma exchange (hr : r.Accounted) (source target : Name) :
    (r.exchange source target).Accounted where
  ledger := by
    rw [held, owner_exchange]
    exact hr.ledger.permute _
  owns := by
    rw [owner_exchange]
    exact fun name => hr.owns _

lemma takeOver (hr : r.Accounted) {source target : Name} (h : source ≠ target) :
    (r.takeOver source target).Accounted := by
  have hexchanged := (hr.drop target).exchange source target
  constructor
  · rw [held, owner_takeOver_eq r h]
    exact hexchanged.ledger
  · rw [owner_takeOver_eq r h]
    exact hexchanged.owns

/-- A handle that is issued is a new one. -/
lemma issue (hr : r.Accounted) (name : Name) (code : E.Code) :
    (r.issue name (.ofCode code)).Accounted where
  ledger := by
    show Ledger _ _ (r.issued ++ [code]).length
    rw [held_issue, List.length_append, List.length_singleton]
    exact hr.ledger.replace name
  owns := by
    have hothers : ∀ other, (r.owner other).Owns (r.issued ++ [code]) := fun other =>
      (hr.owns other).mono (List.prefix_append _ _)
    rw [owner_issue]
    exact Owner.Owns.update hothers (.pattern List.getElem?_concat_length) name

end Accounted

end Registry

/-! ## Sessions -/

namespace Session

namespace State

variable {s : State E}

namespace Effect

variable {s' : State E} {c : Command}

/-- What was issued stays issued. -/
lemma issued_stays (heffect : Effect s c s') : s.registry.issued <+: s'.registry.issued := by
  cases heffect with
  | compiled accepted => exact List.prefix_append _ _
  | none | level | dropped | tookOver | exchanged | stored | created | overwritten | opened
  | advanced => exact List.prefix_refl _

/-- A command frees what the owners hold that it makes give up their handles. -/
lemma mem_freed_iff (heffect : Effect s c s') {h : Handle} :
    h ∈ s'.registry.freed ↔
      (∃ name, (s.registry.owner name).handle = some h ∧ c.GivesUp E name) ∨
        h ∈ s.registry.freed := by
  have hdrop : ∀ name, h ∈ (s.registry.drop name).freed ↔
      (∃ other, (s.registry.owner other).handle = some h ∧ name = other) ∨
        h ∈ s.registry.freed := by
    intro name
    rw [Registry.mem_freed_drop, exists_eq_right']
    rfl
  have hkeep : (∀ owner, ¬c.GivesUp E owner) → (h ∈ s.registry.freed ↔
      (∃ name, (s.registry.owner name).handle = some h ∧ c.GivesUp E name) ∨
        h ∈ s.registry.freed) := by
    intro hkeep
    refine ⟨.inr, ?_⟩
    rintro (⟨name, -, hup⟩ | hmem)
    · exact absurd hup (hkeep name)
    · exact hmem
  cases heffect with
  | compiled accepted =>
    refine (hdrop _).trans ?_
    simp only [Command.GivesUp, accepted, Except.ok.injEq, exists_eq', and_true]
  | dropped owner => exact hdrop owner
  | tookOver ne =>
    refine (hdrop _).trans ?_
    simp only [Command.GivesUp, ne, ne_eq, not_false_eq_true, and_true]
  | none keeps | stored keeps => exact hkeep keeps
  | level | exchanged | created | overwritten => exact hkeep fun _ hup => hup
  | opened opens => exact hkeep (Command.not_givesUp_of_opens opens)
  | advanced steps => exact hkeep (Command.not_givesUp_of_steps steps)

lemma accounted (heffect : Effect s c s') (hs : s.registry.Accounted) :
    s'.registry.Accounted := by
  cases heffect with
  | compiled accepted => exact hs.issue _ _
  | dropped owner => exact hs.drop owner
  | tookOver ne => exact hs.takeOver ne
  | exchanged source target => exact hs.exchange source target
  | none | level | stored | created | overwritten | opened | advanced => exact hs

end Effect

/-- Whatever a session does, every handle stays accounted for. -/
theorem run_accounted (hs : s.registry.Accounted) (cs : List Command) :
    (s.run cs).2.registry.Accounted :=
  run_preserves (P := fun s => s.registry.Accounted) hs
    fun s hs c _ => (step_effect s c).accounted hs

/-- Dropping owners leaves the others what they own, and issues nothing. -/
lemma run_drop (s : State E) (names : List Name) :
    (s.run (names.map .drop)).2.registry.issued = s.registry.issued ∧
      ∀ name, (s.run (names.map .drop)).2.registry.owner name
        = if name ∈ names then {} else s.registry.owner name := by
  induction names generalizing s with
  | nil => exact ⟨rfl, fun name => by simp [run]⟩
  | cons first names ih =>
    obtain ⟨hissued, howner⟩ := ih (s.step (.drop first)).state
    refine ⟨hissued, fun name => ?_⟩
    rw [List.map_cons, run_cons]
    dsimp only
    rw [howner name]
    have hdrop : (s.step (.drop first)).state.registry.owner
        = Function.update s.registry.owner first {} := Registry.owner_drop s.registry first
    rw [hdrop]
    by_cases hname : name = first
    · simp [hname]
    · simp [hname]

/-- Whatever a session did, each handle that was ever issued has one owner and was not freed, or has
none and was freed once; an owner that is defined holds a handle that was not freed, with the number
of groups that the engine tells of its pattern, and one that is not has no groups. From there on a
command forgets no handle and frees what the owners hold that it makes give up their handles. A
compiled pattern gets a new handle; an exchange swaps what two owners have and frees nothing; a move
hands on what the source has, after the target was dropped, and frees what that drop frees. When
all owners are dropped, every handle is freed once. -/
theorem handles_accounted (cs : List Command) :
    let s := (({} : State E).run cs).2
    (∀ h < s.registry.issued.length,
      ((∃! name, (s.registry.owner name).handle = some h) ∧ s.registry.freed.count h = 0) ∨
      ((∀ name, (s.registry.owner name).handle ≠ some h) ∧ s.registry.freed.count h = 1)) ∧
    (∀ name,
      ((s.registry.owner name).isDefined = true ↔
        ∃ h, (s.registry.owner name).handle = some h) ∧
      ((s.registry.owner name).isDefined = false → (s.registry.owner name).groups = 0) ∧
      ∀ h, (s.registry.owner name).handle = some h → s.registry.freed.count h = 0 ∧
        ∃ code, s.registry.issued[h]? = some code ∧
          (s.registry.owner name).groups = E.groups code) ∧
    (∀ c, s.registry.issued <+: (s.step c).state.registry.issued ∧
      ∀ h, (h ∈ (s.step c).state.registry.freed ∧ h ∉ s.registry.freed) ↔
        ∃ name, (s.registry.owner name).handle = some h ∧ c.GivesUp E name) ∧
    (∀ name pattern options code, E.compiled pattern options.mask = .ok (.ofCode code) →
      (s.step (.compile name pattern options)).state.registry.issued
          = s.registry.issued ++ [code] ∧
        (s.step (.compile name pattern options)).state.registry.owner name
          = ⟨some s.registry.issued.length, E.groups code⟩) ∧
    (∀ source target,
      (s.step (.exchange source target)).state.registry.owner target = s.registry.owner source ∧
        (s.step (.exchange source target)).state.registry.owner source
          = s.registry.owner target) ∧
    (∀ source target, source ≠ target →
      (s.step (.takeOver source target)).state.registry.owner target = s.registry.owner source ∧
        (s.step (.takeOver source target)).state.registry.owner source = {} ∧
        (s.step (.takeOver source target)).state.registry.freed
          = (s.step (.drop target)).state.registry.freed) ∧
    ∀ names : List Name, (∀ name, (s.registry.owner name).isDefined = true → name ∈ names) →
      ∀ h < s.registry.issued.length,
        (s.run (names.map .drop)).2.registry.freed.count h = 1 := by
  intro s
  have hs : s.registry.Accounted := run_accounted .empty cs
  refine ⟨fun h hh => hs.ledger.held_or_freed hh, ?_, ?_, ?_, ?_, ?_, ?_⟩
  · intro name
    refine ⟨Option.isSome_iff_exists, fun hundefined => ?_, fun h hh => ⟨?_, ?_⟩⟩
    · have hnone := Option.isNone_iff_eq_none.mp (Option.isSome_eq_false_iff.mp hundefined)
      exact (hs.owns name).groups_of_none hnone
    · exact List.count_eq_zero.mpr (hs.ledger.held_not_freed name h hh)
    · exact (hs.owns name).exists_code hh
  · intro c
    refine ⟨(step_effect s c).issued_stays, fun h => ?_⟩
    rw [(step_effect s c).mem_freed_iff]
    constructor
    · rintro ⟨hgiven | hfreed, hnot⟩
      · exact hgiven
      · exact absurd hfreed hnot
    · rintro ⟨name, hname, hup⟩
      exact ⟨.inl ⟨name, hname, hup⟩, hs.ledger.held_not_freed name h hname⟩
  · intro name pattern options code haccepted
    rw [step_compile_state s haccepted]
    refine ⟨rfl, ?_⟩
    rw [Registry.owner_issue, Function.update_self]
    rfl
  · intro source target
    show (s.registry.exchange source target).owner target = _ ∧
      (s.registry.exchange source target).owner source = _
    rw [Registry.owner_exchange]
    simp
  · intro source target hne
    rw [step_takeOver_state s hne, Registry.owner_takeOver]
    refine ⟨?_, Function.update_self _ _ _, rfl⟩
    rw [Function.update_of_ne hne.symm, Function.update_self]
  · intro names hnames h hh
    obtain ⟨hissued, howner⟩ := run_drop s names
    have hdropped := run_accounted hs (names.map .drop)
    -- nobody is left to hold the handle
    have hnone : ∀ name, (s.run (names.map .drop)).2.registry.held name = none := by
      intro name
      show ((s.run (names.map .drop)).2.registry.owner name).handle = none
      rw [howner name]
      split_ifs with hmem
      · rfl
      · by_contra hsome
        exact hmem (hnames name (Option.isSome_iff_ne_none.mpr hsome))
    rcases hdropped.ledger.held_or_freed (by rw [hissued]; exact hh) with ⟨hheld, -⟩ | ⟨-, hcount⟩
    · obtain ⟨name, hname, -⟩ := hheld
      rw [hnone name] at hname
      cases hname
    · exact hcount

/-- Two patterns are compiled and exchanged, one is moved onto a new owner, where a rejected pattern
leaves it and an accepted one takes its place. -/
theorem handles_accounted_after_moves :
    let s := (({} : State sample).run
      [.compile [1] (Bytes.ascii "(x)*") {}, .compile [2] (Bytes.ascii "x|\\z") {},
        .exchange [1] [2], .exchange [1] [1], .takeOver [1] [3], .compile [3] (Bytes.ascii "(x") {},
        .compile [3] (Bytes.ascii "(y)*") {}]).2
    (0 < s.registry.issued.length ∧ (∃! name, (s.registry.owner name).handle = some 0) ∧
      s.registry.freed.count 0 = 0) ∧
    (1 < s.registry.issued.length ∧ (∀ name, (s.registry.owner name).handle ≠ some 1) ∧
      s.registry.freed.count 1 = 1) ∧
    ((s.registry.owner [1]).isDefined = false ∧ (s.registry.owner [1]).groups = 0) ∧
    ((s.registry.owner [3]).handle = some 2 ∧ s.registry.freed.count 2 = 0 ∧
      (s.registry.owner [3]).groups = 1) ∧
    (sample.compiled (Bytes.ascii "(x)*") ({} : Options).mask = .ok sampleStar ∧
      (s.step (.compile [2] (Bytes.ascii "(x)*") {})).state.registry.owner [2]
        = ⟨some 3, 1⟩) ∧
    ([2] ≠ [3] ∧ (s.step (.takeOver [2] [3])).state.registry.owner [3] = ⟨some 0, 1⟩ ∧
      (s.step (.takeOver [2] [3])).state.registry.freed
        = (s.step (.drop [3])).state.registry.freed) ∧
    ((∀ name, (s.registry.owner name).isDefined = true → name ∈ [[2], [3]]) ∧
      (s.run [.drop [2], .drop [3]]).2.registry.freed.count 0 = 1) := by
  intro s
  obtain ⟨hheld, hdefined, -, hcompiled, -, hmove, hdropped⟩ := handles_accounted (E := sample)
    [.compile [1] (Bytes.ascii "(x)*") {}, .compile [2] (Bytes.ascii "x|\\z") {},
      .exchange [1] [2], .exchange [1] [1], .takeOver [1] [3], .compile [3] (Bytes.ascii "(x") {},
      .compile [3] (Bytes.ascii "(y)*") {}]
  have hissued : s.registry.issued.length = 3 := rfl
  have hfreed : s.registry.freed = [1] := rfl
  have howners : s.registry.owners.entries
      = [([3], ⟨some 2, 1⟩), ([1], ⟨none, 0⟩), ([2], ⟨some 0, 1⟩)] := rfl
  have hzero : 0 < s.registry.issued.length := by rw [hissued]; decide
  have hone : 1 < s.registry.issued.length := by rw [hissued]; decide
  have hthird : (s.registry.owner [3]).handle = some 2 := rfl
  have hnames : ∀ name, (s.registry.owner name).isDefined = true → name ∈ [[2], [3]] := by
    intro name hname
    by_contra hnot
    rw [List.mem_cons, List.mem_singleton, not_or] at hnot
    have h2 : ([2] == name) = false := by simpa using fun e => hnot.1 e.symm
    have h3 : ([3] == name) = false := by simpa using fun e => hnot.2 e.symm
    unfold Registry.owner Shelf.get? at hname
    rw [howners] at hname
    simp only [List.find?_cons, h3, h2] at hname
    cases h1 : ([1] == name) <;> simp [h1, Owner.isDefined] at hname
  have hstar : sample.compiled (Bytes.ascii "(x)*") ({} : Options).mask = .ok sampleStar := rfl
  obtain ⟨htarget, -, hgiven⟩ := hmove [2] [3] (by decide)
  refine ⟨⟨hzero, ?_⟩, ⟨hone, ?_⟩, ⟨rfl, (hdefined [1]).2.1 rfl⟩, ⟨hthird, ?_, ?_⟩,
    ⟨hstar, (hcompiled [2] _ _ _ hstar).2⟩, ⟨by decide, htarget, hgiven⟩, hnames,
    hdropped [[2], [3]] hnames 0 hzero⟩
  · exact (hheld 0 hzero).resolve_right fun h => absurd h.2 (by rw [hfreed]; decide)
  · exact (hheld 1 hone).resolve_left fun h => absurd h.2 (by rw [hfreed]; decide)
  · exact ((hdefined [3]).2.2 2 hthird).1
  · rfl

end State

end Session

end PatternScan
