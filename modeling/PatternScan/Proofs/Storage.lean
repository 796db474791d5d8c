import PatternScan.Proofs.Exhaustion
import PatternScan.Proofs.Ledger
import PatternScan.Proofs.Safety
import PatternScan.Proofs.SlotCount

/-!
# Stored matches are values

A cell keeps a match as a block of slots with three more fields, and a move hands the block on but
leaves the other fields behind. Nobody can tell: the cells of a session are one value each, nothing
or a match, that is set, moved and exchanged as a whole. Five things live here:

* `MatchStore.Act`, what can be done with cells, and `Act.apply`, what it does to their values;
* `Cell.Stands`, what a cell is for its value;
* `MatchStore.Represents`, kept by each act (`Represents.after`): every cell stands for its value,
  and every block is held by one cell or was freed once;
* `State.act?`, which says what a command does with the cells;
* `State.cells_simulate_values`, what follows for everything that a session can do.
-/

namespace PatternScan

variable {S : Type}

/-! ## Acts and values -/

/-- The value of each cell: nothing, or a match in a subject. -/
abbrev Values (S : Type) := Name → Option (S × Match)

namespace MatchStore

/-- What can be done with cells: the result of a search is kept in one or in none, one is made anew
by moving from another, two are exchanged. -/
inductive Act (S : Type)
  | search (subject : S) (result : Except Failure (Option Match)) (into : Option Name)
  | takeOver (source target : Name)
  | exchange (source target : Name)

namespace Act

/-- Whether the act is a search. -/
def isSearch : Act S → Bool
  | .search _ _ _ => true
  | _ => false

/-- What an act does to the values of the cells. -/
def apply (values : Values S) : Act S → Values S
  | .search subject (.ok result) (some name) =>
    Function.update values name (result.map (subject, ·))
  | .search _ _ _ => values
  | .takeOver source target =>
    Function.update (Function.update values target (values source)) source none
  | .exchange source target => values ∘ Equiv.swap source target

/-- A match that is found has a group, and a cell is not moved onto itself. -/
def Allowed : Act S → Prop
  | .search _ result _ => ∀ m, result = .ok (some m) → 0 < m.size
  | .takeOver source target => source ≠ target
  | .exchange _ _ => True

end Act

/-- The store after an act. -/
def after (s : MatchStore S) : Act S → MatchStore S
  | .search subject result into =>
    let (t, c) := s.searched subject result
    match result, into with
    | .ok _, some name => t.keep name c
    | _, _ => t.release c
  | .takeOver source target => s.takeOver source target
  | .exchange source target => s.exchange source target

/-- The store after the cells of some names were destroyed. -/
def destroyed (s : MatchStore S) (names : List Name) : MatchStore S :=
  names.foldl (fun t name => t.release (t.cell name)) s

end MatchStore

/-! ## Cells and their values -/

/-- What a cell is for its value. If that is nothing, the cell has no block, whatever is left in its
other fields; if it is a match, all fields are those of the match, whose slots are in the block. -/
inductive Cell.Stands (blocks : List (List Slot)) : Cell S → Option (S × Match) → Prop
  | nothing {c : Cell S} (unheld : c.block = none) : Stands blocks c none
  | stored {block : Block} {subject : S} {m : Match} (slots : blocks[block]? = some m.slots)
      (size_pos : 0 < m.size) :
      Stands blocks ⟨some block, some subject, some block, m.size⟩ (some (subject, m))

namespace Cell.Stands

variable {blocks blocks' : List (List Slot)} {c : Cell S} {value : Option (S × Match)}

lemma isMatch_eq (h : c.Stands blocks value) : c.isMatch = value.isSome := by
  cases h with
  | nothing unheld => simp [isMatch, unheld]
  | stored slots size_pos => simp [isMatch, size_pos]

/-- A cell without a block is not read, and one with a block reads as its match. -/
lemma content?_eq {s : MatchStore S} (h : c.Stands s.blocks value) : s.content? c = value := by
  have hmatch := h.isMatch_eq
  cases h with
  | nothing unheld => exact MatchStore.content?_of_not_isMatch hmatch
  | stored slots size_pos =>
    rw [Option.isSome_some] at hmatch
    unfold MatchStore.content?
    rw [if_pos hmatch]
    simp [slots]

/-- The size of a match that is stored. -/
lemma size_eq {subject : S} {m : Match} (h : c.Stands blocks (some (subject, m))) :
    c.size = m.size := by
  cases h
  rfl

/-- Blocks that are added are not those of the cells that are there. -/
lemma mono (h : c.Stands blocks value) (hblocks : blocks <+: blocks') : c.Stands blocks' value := by
  cases h with
  | nothing unheld => exact .nothing unheld
  | stored slots size_pos =>
    apply stored _ size_pos
    obtain ⟨new, rfl⟩ := hblocks
    rw [List.getElem?_append_left (List.getElem?_eq_some_iff.mp slots).1]
    exact slots

/-- One cell stands for another value from here on. -/
lemma update {cells : Name → Cell S} {values : Values S}
    (h : ∀ name, (cells name).Stands blocks (values name)) (hc : c.Stands blocks value)
    (name other : Name) :
    (Function.update cells name c other).Stands blocks
      (Function.update values name value other) := by
  by_cases hother : other = name
  · subst hother
    simpa using hc
  · simpa [hother] using h other

end Cell.Stands

namespace MatchStore

section
variable {s : MatchStore S} {values : Values S}

/-! ## Cells after a change -/

lemma cell_setCell_eq_update (s : MatchStore S) (name : Name) (c : Cell S) :
    (s.setCell name c).cell = Function.update s.cell name c := by
  funext other
  rw [cell_setCell, Function.update_apply]

lemma cell_exchange (s : MatchStore S) (source target : Name) :
    (s.exchange source target).cell = s.cell ∘ Equiv.swap source target := by
  rw [exchange, cell_setCell_eq_update, cell_setCell_eq_update, Equiv.swap_comm,
    Equiv.comp_swap_eq_update]

/-- The block that the cell of a name holds. -/
def held (s : MatchStore S) (name : Name) : Option Block :=
  (s.cell name).block

lemma held_setCell (s : MatchStore S) (name : Name) (c : Cell S) :
    (s.setCell name c).held = Function.update s.held name c.block := by
  show Cell.block ∘ (s.setCell name c).cell = _
  rw [cell_setCell_eq_update, Function.comp_update]
  rfl

lemma held_exchange (s : MatchStore S) (source target : Name) :
    (s.exchange source target).held = s.held ∘ Equiv.swap source target := by
  unfold held
  rw [cell_exchange]
  rfl

/-- To be made anew by a move is to give up the block and then to exchange it with the source. -/
lemma held_takeOver (s : MatchStore S) {source target : Name} (hne : source ≠ target) :
    (s.takeOver source target).held
      = Function.update s.held target none ∘ Equiv.swap source target := by
  rw [takeOver, held_setCell, held_setCell, Equiv.comp_swap_eq_update, Function.update_self,
    Function.update_of_ne hne, Function.update_idem]
  rfl

/-! ## Stores and their values -/

/-- Every cell stands for its value, and every block is held by one cell or was freed once. -/
structure Represents (s : MatchStore S) (values : Values S) : Prop where
  stands : ∀ name, (s.cell name).Stands s.blocks (values name)
  ledger : Ledger s.held s.freed s.blocks.length

namespace Represents

lemma empty : ({} : MatchStore S).Represents fun _ => none where
  stands _ := .nothing rfl
  ledger := .empty

/-- The block of a search that is not kept is freed as soon as it is issued. -/
lemma discard (h : s.Represents values) (slots : List Slot) :
    ({ s with blocks := s.blocks ++ [slots], freed := s.blocks.length :: s.freed } :
      MatchStore S).Represents values where
  stands name := (h.stands name).mono (List.prefix_append _ _)
  ledger := by
    rw [List.length_append, List.length_singleton]
    exact h.ledger.discard

/-- A cell is made empty. -/
lemma clear (h : s.Represents values) (name : Name) :
    (s.keep name {}).Represents (Function.update values name none) where
  stands := by
    show ∀ other, ((s.setCell name {}).cell other).Stands s.blocks _
    rw [cell_setCell_eq_update]
    exact Cell.Stands.update h.stands (.nothing rfl) name
  ledger := by
    show Ledger (s.setCell name {}).held _ _
    rw [held_setCell]
    exact h.ledger.giveUp name

/-- The match of a search takes the place of what the cell held. -/
lemma fill (h : s.Represents values) (name : Name) (subject : S) {m : Match} (hm : 0 < m.size) :
    (({ s with blocks := s.blocks ++ [m.slots] } : MatchStore S).keep name
      ⟨some s.blocks.length, some subject, some s.blocks.length, m.size⟩).Represents
        (Function.update values name (some (subject, m))) := by
  -- the block is the one that was added
  have hcell : Cell.Stands (s.blocks ++ [m.slots])
      ⟨some s.blocks.length, some subject, some s.blocks.length, m.size⟩ (some (subject, m)) :=
    .stored List.getElem?_concat_length hm
  have hothers : ∀ other, (s.cell other).Stands (s.blocks ++ [m.slots]) (values other) :=
    fun other => (h.stands other).mono (List.prefix_append _ _)
  constructor
  · show ∀ other, ((setCell _ name _).cell other).Stands _ _
    rw [cell_setCell_eq_update]
    exact Cell.Stands.update hothers hcell name
  · show Ledger (setCell _ name _).held _ (s.blocks ++ [m.slots]).length
    rw [held_setCell, List.length_append, List.length_singleton]
    exact h.ledger.replace name

/-- Two cells are exchanged with all their fields, also those that are not read. -/
lemma exchange (h : s.Represents values) (source target : Name) :
    (s.exchange source target).Represents (values ∘ Equiv.swap source target) := by
  constructor
  · rw [cell_exchange]
    exact fun name => h.stands (Equiv.swap source target name)
  · rw [held_exchange]
    exact h.ledger.permute _

/-- The source has no block any more, and whatever else is left in it stands for nothing. -/
lemma takeOver (h : s.Represents values) {source target : Name} (hne : source ≠ target) :
    (s.takeOver source target).Represents
      (Function.update (Function.update values target (values source)) source none) := by
  constructor
  · show ∀ name, ((setCell (setCell _ target _) source _).cell name).Stands _ _
    rw [cell_setCell_eq_update, cell_setCell_eq_update]
    have htarget := Cell.Stands.update h.stands (h.stands source) target
    exact Cell.Stands.update htarget (.nothing rfl) source
  · rw [held_takeOver s hne]
    exact (h.ledger.giveUp target).permute _

/-- Every act does to the cells what it does to their values. -/
theorem after (h : s.Represents values) {a : Act S} (ha : a.Allowed) :
    (s.after a).Represents (a.apply values) := by
  cases a with
  | search subject result into =>
    rcases result with failure | _ | m
    · -- a search that failed has given its block back, whatever it was for
      cases into <;> exact h.discard []
    · cases into with
      | none => exact h.discard []
      | some name => exact (h.discard []).clear name
    · cases into with
      | none => exact h.discard m.slots
      | some name => exact h.fill name subject (ha m rfl)
  | takeOver source target => exact h.takeOver ha
  | exchange source target => exact h.exchange source target

/-- What each act keeps, a list of acts keeps. -/
theorem afterAll (h : s.Represents values) {acts : List (Act S)} (hacts : ∀ a ∈ acts, a.Allowed) :
    (acts.foldl MatchStore.after s).Represents (acts.foldl Act.apply values) := by
  induction acts generalizing s values with
  | nil => exact h
  | cons a acts ih =>
    apply ih
    · exact h.after (hacts a List.mem_cons_self)
    · exact fun b hb => hacts b (List.mem_cons_of_mem a hb)

end Represents

/-- A search is given one block, and nothing else is. -/
lemma length_blocks_after (s : MatchStore S) (a : Act S) :
    (s.after a).blocks.length = s.blocks.length + if a.isSearch then 1 else 0 := by
  cases a with
  | search subject result into =>
    rcases result with failure | _ | m <;> cases into <;> exact List.length_append
  | takeOver source target => rfl
  | exchange source target => rfl

lemma length_blocks_afterAll (s : MatchStore S) (acts : List (Act S)) :
    (acts.foldl after s).blocks.length = s.blocks.length + acts.countP Act.isSearch := by
  induction acts generalizing s with
  | nil => rfl
  | cons a acts ih =>
    rw [List.foldl_cons, ih, length_blocks_after, List.countP_cons]
    omega

/-- A cell that was destroyed is as it was, so what is freed may be read off the store before. -/
lemma freed_destroyed (s : MatchStore S) (names : List Name) :
    (s.destroyed names).freed
      = names.foldl (fun freed name => (s.held name).toList ++ freed) s.freed := by
  induction names generalizing s with
  | nil => rfl
  | cons name names ih => exact ih (s.release (s.cell name))

/-- If all cells that hold a block are destroyed, each of them once, every block is freed once. -/
lemma Represents.count_freed_destroyed (h : s.Represents values) {names : List Name}
    (hnames : names.Nodup) (hheld : ∀ name, (s.held name).isSome = true → name ∈ names) {b : Block}
    (hb : b < s.blocks.length) : (s.destroyed names).freed.count b = 1 := by
  have hnone : ∀ name, (if name ∈ names then none else s.held name) ≠ some b := by
    intro name
    split_ifs with hmem
    · simp
    · intro hsome
      exact hmem (hheld name (by rw [hsome]; rfl))
  rw [freed_destroyed]
  rcases (h.ledger.giveUpAll hnames).held_or_freed hb with ⟨⟨name, hname, -⟩, -⟩ | ⟨-, hcount⟩
  · exact absurd hname (hnone name)
  · exact hcount

end

end MatchStore

/-! ## Sessions -/

/-- The text of a group that has a slot in the subject. -/
lemma Match.text_of_slot {m : Match} {i n : ℕ} {slot : Slot} (h : m.slot i = .ok slot)
    (hslot : slot.Within n) (subject : Bytes) :
    m.text subject i = .ok (slot.read subject).text := by
  unfold text
  rw [h]
  by_cases hset : slot.isSet = true
  · have hle : slot.start ≤ slot.stop := (hslot hset).1
    simp [bind, Except.bind, pure, Except.pure, hset, hle, Slot.read]
  · simp [bind, Except.bind, pure, Except.pure, hset, Slot.read]

namespace Session

namespace State

variable {E : Engine} {s : State E}

/-- What is done with the pattern of an owner and what an input hands over, if both are there. -/
def search? (s : State E) (owner : Name) (input : Input)
    (act : Compiled E → View → MatchStore.Act Input) : Option (MatchStore.Act Input) := do
  let (_, p) ← s.registry.pattern? owner
  let subject ← s.view? input
  return act p subject

/-- What a command does with the cells. -/
def act? (s : State E) : Command → Option (MatchStore.Act Input)
  | .test owner input =>
    s.search? owner input fun p subject => .search input (p.search 1 subject) none
  | .find owner input into =>
    s.search? owner input fun p subject => .search input (p.find subject) into
  | .takeOverMatch source target =>
    if source = target then none else some (.takeOver source target)
  | .exchangeMatch source target => some (.exchange source target)
  | _ => none

/-- What commands do with the cells, one after the other. -/
def acts (s : State E) : List Command → List (MatchStore.Act Input)
  | [] => []
  | c :: cs => (s.act? c).toList ++ (s.step c).state.acts cs

lemma exists_of_mem_search? {owner : Name} {input : Input}
    {act : Compiled E → View → MatchStore.Act Input} {a : MatchStore.Act Input}
    (h : a ∈ s.search? owner input act) : ∃ p subject, a = act p subject := by
  unfold search? at h
  rcases hp : s.registry.pattern? owner with _ | ⟨handle, p⟩
  · rw [hp] at h
    cases h
  · rcases hi : s.view? input with _ | subject
    · rw [hp, hi] at h
      cases h
    · rw [hp, hi] at h
      exact ⟨p, subject, (Option.some.inj h).symm⟩

/-- A match that is found has a group. -/
lemma allowed_of_mem_act? {c : Command} {a : MatchStore.Act Input} (h : a ∈ s.act? c) :
    a.Allowed := by
  cases c with
  | test owner input =>
    rw [act?] at h
    obtain ⟨p, subject, rfl⟩ := exists_of_mem_search? h
    exact fun m hm => Compiled.size_pos_of_search Nat.one_pos hm
  | find owner input into =>
    rw [act?] at h
    obtain ⟨p, subject, rfl⟩ := exists_of_mem_search? h
    exact fun m hm => Compiled.size_pos_of_search (Nat.succ_pos _) hm
  | takeOverMatch source target =>
    by_cases hne : source = target
    · simp [act?, hne] at h
    · simp only [act?, if_neg hne, Option.mem_some_iff] at h
      rw [← h]
      exact hne
  | exchangeMatch source target =>
    simp only [act?, Option.mem_some_iff] at h
    rw [← h]
    exact trivial
  | _ => cases h

lemma allowed_of_mem_acts {cs : List Command} {a : MatchStore.Act Input} (h : a ∈ s.acts cs) :
    a.Allowed := by
  induction cs generalizing s with
  | nil => cases h
  | cons c cs ih =>
    rcases List.mem_append.mp h with h | h
    · exact allowed_of_mem_act? (Option.mem_toList.mp h)
    · exact ih h

/-! ### What commands do with the cells -/

/-- If nothing is searched, the cells are left alone. -/
lemma withPattern_stored (s : State E) (owner : Name) (input : Input)
    {go : Handle → Compiled E → View → Step E}
    {act : Compiled E → View → MatchStore.Act Input}
    (hgo : ∀ handle p subject,
      (go handle p subject).state.stored = s.stored.after (act p subject)) :
    (s.withPattern owner input go).state.stored
      = (s.search? owner input act).toList.foldl MatchStore.after s.stored := by
  unfold withPattern search?
  rcases s.registry.pattern? owner with _ | ⟨handle, p⟩
  · rfl
  · rcases s.view? input with _ | subject
    · rfl
    · exact hgo handle p subject

lemma test_stored (s : State E) (input : Input) (p : Compiled E) (subject : View) :
    (s.test input p subject).state.stored
      = s.stored.after (.search input (p.search 1 subject) none) := by
  unfold test
  rcases p.search 1 subject with failure | m <;> rfl

/-- A match is kept or given back, whether or not it can be shown then. -/
lemma find_stored (s : State E) (input : Input) (into : Option Name) (p : Compiled E)
    (subject : View) :
    (s.find input into p subject).state.stored
      = s.stored.after (.search input (p.find subject) into) := by
  unfold find
  rcases p.find subject with failure | m
  · cases into <;> rfl
  · cases into with
    | some name =>
      dsimp only
      rw [showCell_state]
      rfl
    | none =>
      dsimp only
      rcases State.record _ _ with b | record <;> rfl

lemma advanced_stored {c : Command} {name : Name} (hc : c.steps name = true) (s : State E) :
    (s.step c).state.stored = s.stored := by
  rcases steps_cases hc s with ⟨r, hrefused⟩ | ⟨scan, -, hsettled⟩
  · rw [hrefused]
    rfl
  · rw [hsettled]
    rcases scan.next c.keeps (s.bytesOf scan) with b | step <;> rfl

/-- A command does its act with the cells. -/
theorem step_stored (s : State E) (c : Command) :
    (s.step c).state.stored = (s.act? c).toList.foldl MatchStore.after s.stored := by
  cases c with
  | test owner input =>
    exact s.withPattern_stored owner input fun _ p subject => s.test_stored input p subject
  | find owner input into =>
    exact s.withPattern_stored owner input fun _ p subject => s.find_stored input into p subject
  | takeOverMatch source target =>
    by_cases hne : source = target
    · simp [step, act?, hne, refuse]
    · rw [step, if_neg hne, showCells_state, act?, if_neg hne]
      rfl
  | exchangeMatch source target =>
    rw [step, showCells_state]
    rfl
  | takeOver source target =>
    rw [step]
    split_ifs <;> rfl
  | createBuffer buffer text =>
    rw [step]
    rcases s.buffers.get? buffer with _ | old <;> rfl
  | overwrite buffer offset text =>
    rw [step]
    rcases s.buffers.get? buffer with _ | old
    · rfl
    · dsimp only
      split_ifs <;> rfl
  | openWhole scan owner input =>
    rcases withPattern_cases s owner input _ with ⟨r, hr⟩ | ⟨h, p, subject, -, -, hgo⟩
    · rw [step, hr]
      rfl
    · rw [step, hgo]
      rfl
  | openGroup scan owner input =>
    rcases withPattern_cases s owner input _ with ⟨r, hr⟩ | ⟨h, p, subject, -, -, hgo⟩
    · rw [step, hr]
      rfl
    · rw [step, hgo]
      rfl
  | next scan =>
    have hsteps : (Command.next scan).steps scan = true := beq_self_eq_true scan
    exact advanced_stored hsteps s
  | nextText scan =>
    have hsteps : (Command.nextText scan).steps scan = true := beq_self_eq_true scan
    exact advanced_stored hsteps s
  | position scan =>
    rw [step]
    rcases s.scans.get? scan with _ | scan <;> rfl
  | reread scan =>
    rw [step]
    rcases s.scans.get? scan with _ | scan <;> rfl
  | showMatch cell =>
    rw [step, showCell_state]
    rfl
  | setLevel | checkLevel | log | logFormatted | compile | inspect | drop | exchange => rfl

/-- The cells after a session are what its acts make of them. -/
theorem run_stored (s : State E) (cs : List Command) :
    (s.run cs).2.stored = (s.acts cs).foldl MatchStore.after s.stored := by
  induction cs generalizing s with
  | nil => rfl
  | cons c cs ih =>
    show ((s.step c).state.run cs).2.stored = _
    rw [ih, step_stored, ← List.foldl_append]
    rfl

/-! ### What cells read as -/

/-- The cell of a name reads as a value: it counts as a match iff the value is one, and then its
size, the offsets and texts of all its groups and what is shown of it are those of that match, over
the bytes that its subject has at this moment. -/
structure CellReads (s : State E) (name : Name) (value : Option (Input × Match)) : Prop where
  isMatch_eq : (s.stored.cell name).isMatch = value.isSome
  content?_eq : s.stored.content? (s.stored.cell name) = value
  nothing : value = none → (s.step (.showMatch name)).answer = .matched none
  stored : ∀ input m, value = some (input, m) → (s.stored.cell name).size = m.size ∧
    ∃ bytes, s.read? input = some bytes ∧
      (s.step (.showMatch name)).answer = .matched (some (m.slots.map (Slot.read · bytes))) ∧
      ∀ i < m.size, ∃ slot ∈ m.slots[i]?, m.start i = .ok slot.start ∧ m.stop i = .ok slot.stop ∧
        m.text bytes i = .ok (slot.read bytes).text

lemma Safe.cellReads (hs : s.Safe) {values : Values Input} (h : s.stored.Represents values)
    (name : Name) : s.CellReads name (values name) := by
  have hcontent := (h.stands name).content?_eq
  refine ⟨(h.stands name).isMatch_eq, hcontent, fun hnone => ?_, fun input m hvalue => ?_⟩
  · rw [hnone] at hcontent
    rw [State.step, State.showCell, recordOf, record, hcontent]
    rfl
  · rw [hvalue] at hcontent
    obtain ⟨bytes, groups, hread, hfits⟩ := (hs.legible name).exists_fits hcontent
    have hstands := h.stands name
    rw [hvalue] at hstands
    refine ⟨hstands.size_eq, bytes, hread, ?_, fun i hi => ?_⟩
    · rw [State.step, State.showCell, recordOf, record, hcontent]
      simp only [hread, Option.getD_some, hfits.record_eq]
      rfl
    · -- a match that fits has a slot for each group that it counts
      have hlt : i < m.slots.length := by rw [hfits.slots_length, ← hfits.size_eq]; exact hi
      have hslot := hfits.slot_eq hlt
      refine ⟨m.slots[i], List.getElem?_eq_getElem hlt, Match.start_of_slot hslot,
        Match.stop_of_slot hslot, ?_⟩
      exact Match.text_of_slot hslot (hfits.within _ (List.getElem_mem hlt)) bytes

/-- Whatever a session does, its cells are told from values in nothing: a search that is kept sets
the value of a cell, unless it fails; a move hands the value of the source on and leaves nothing
there; an exchange swaps two values, or one with itself. Each cell counts as a match iff its value
is one, and holds exactly that match, whatever the engine answers; with an engine that keeps its
promise it reads as that match. Every test and every search for one match was given a block of its
own, also one that failed or found nothing; at each moment, a block is held by one cell and was not
freed, or is held by none and was freed once; and when the cells are destroyed, each block is freed
once. The blocks of the searches that scans make are not among these: a step gives its block back
before it answers, and no cell ever has it. -/
theorem cells_simulate_values (cs : List Command) :
    let s := (({} : State E).run cs).2
    let acts := ({} : State E).acts cs
    let values : Values Input := acts.foldl MatchStore.Act.apply fun _ => none
    (∀ name, (s.stored.cell name).isMatch = (values name).isSome ∧
      s.stored.content? (s.stored.cell name) = values name) ∧
    ((∀ code, E.Sound code (E.groups code + 1)) →
      (∀ c ∈ cs, ∀ text ∈ c.text?, text.length < npos.toNat) →
      ∀ name, s.CellReads name (values name)) ∧
    s.stored.blocks.length = acts.countP MatchStore.Act.isSearch ∧
    (∀ b < s.stored.blocks.length,
      ((∃! name, s.stored.held name = some b) ∧ s.stored.freed.count b = 0) ∨
      ((∀ name, s.stored.held name ≠ some b) ∧ s.stored.freed.count b = 1)) ∧
    ∀ names : List Name, names.Nodup →
      (∀ name, (s.stored.held name).isSome = true → name ∈ names) →
      ∀ b < s.stored.blocks.length, (s.stored.destroyed names).freed.count b = 1 := by
  intro s acts values
  have hstored : s.stored = acts.foldl MatchStore.after {} := run_stored {} cs
  have hrepresents : s.stored.Represents values := by
    rw [hstored]
    exact MatchStore.Represents.empty.afterAll fun a ha => allowed_of_mem_acts ha
  refine ⟨fun name => ?_, fun hE hcs => ?_, ?_, fun b hb => hrepresents.ledger.held_or_freed hb, ?_⟩
  · exact ⟨(hrepresents.stands name).isMatch_eq, (hrepresents.stands name).content?_eq⟩
  · exact (Safe.empty.run hE hcs).1.cellReads hrepresents
  · rw [hstored, MatchStore.length_blocks_afterAll]
    exact Nat.zero_add _
  · intro names hnames hheld b hb
    exact hrepresents.count_freed_destroyed hnames hheld hb

/-- A match is moved and exchanged, and what it leaves behind is exchanged on; a search that finds
nothing, one that fails, one that is not kept and a test come after. -/
theorem cells_simulate_values_after_moves :
    let cs : List Command := [.compile [1] (Bytes.ascii "(*UTF)(?s).") {},
      .find [1] (.text (Bytes.ascii "ab")) (some [3]),
      .find [1] (.text (.bytes [0xc3, 0xa9])) (some [4]),
      .takeOverMatch [3] [5], .exchangeMatch [3] [4], .exchangeMatch [3] [3],
      .find [1] (.text .null) (some [5]), .find [1] (.text (.bytes [0x80])) (some [3]),
      .find [1] (.text (Bytes.ascii "a")) none, .test [1] (.text (Bytes.ascii "a"))]
    let s := (({} : State oneCharacter).run cs).2
    let m : Match := ⟨[⟨0, 2⟩], 1⟩
    (∀ code, oneCharacter.Sound code (oneCharacter.groups code + 1)) ∧
    (∀ c ∈ cs, ∀ text ∈ c.text?, text.length < npos.toNat) ∧
    s.CellReads [3] (some (.text (.bytes [0xc3, 0xa9]), m)) ∧
    (s.CellReads [4] none ∧
      s.stored.cell [4] = ⟨none, some (.text (Bytes.ascii "ab")), some 0, 1⟩) ∧
    s.CellReads [5] none ∧
    (s.stored.blocks.length = 6 ∧ (∃! name, s.stored.held name = some 1) ∧
      ∀ b ∈ [0, 2, 3, 4, 5], s.stored.freed.count b = 1) ∧
    [[3]].Nodup ∧ (∀ name, (s.stored.held name).isSome = true → name ∈ [[3]]) ∧
    (s.stored.destroyed [[3]]).freed.count 1 = 1 := by
  intro cs s m
  have hE : ∀ code, oneCharacter.Sound code (oneCharacter.groups code + 1) := fun _ =>
    oneCharacter_sound _
  have hcs : ∀ c ∈ cs, ∀ text ∈ c.text?, text.length < npos.toNat := by decide
  obtain ⟨-, hread, hsearches, hblocks, hdestroyed⟩ := cells_simulate_values (E := oneCharacter) cs
  have hreads := hread hE hcs
  have hlength : s.stored.blocks.length = 6 := hsearches
  have hfreed : s.stored.freed = [5, 4, 3, 0, 2] := rfl
  have hone : 1 < s.stored.blocks.length := by rw [hlength]; decide
  have hcells : s.stored.cells.entries
      = [([5], {}), ([3], ⟨some 1, some (.text (.bytes [0xc3, 0xa9])), some 1, 1⟩),
        ([4], ⟨none, some (.text (Bytes.ascii "ab")), some 0, 1⟩)] := rfl
  have hheld : ∀ name, (s.stored.held name).isSome = true → name ∈ [[3]] := by
    intro name hname
    by_contra hnot
    have h3 : ([3] == name) = false := by simpa using fun e => hnot (by simp [e])
    unfold MatchStore.held MatchStore.cell Shelf.get? at hname
    rw [hcells] at hname
    cases h5 : ([5] == name) <;> cases h4 : ([4] == name) <;> simp [h3, h4, h5] at hname
  refine ⟨hE, hcs, hreads [3], ⟨hreads [4], rfl⟩, hreads [5], ⟨hlength, ?_, ?_⟩, by decide, hheld,
    hdestroyed [[3]] (by decide) hheld 1 hone⟩
  · rcases hblocks 1 hone with ⟨hunique, -⟩ | ⟨-, hcount⟩
    · exact hunique
    · rw [hfreed] at hcount
      cases hcount
  · rw [hfreed]
    decide

end State

end Session

end PatternScan
