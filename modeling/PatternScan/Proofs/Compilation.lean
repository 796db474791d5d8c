import PatternScan.Proofs.Interleaving

/-!
# A compilation is all or nothing

A pattern that is empty or that the engine rejects leaves a session as it was, so whatever is done
later is answered as if it had never been handed in. A pattern that is accepted goes to its owner
together with its number of groups and takes the place of the old one, which is freed. Three things
live here:

* `State.Refused` and `State.Replaced`, the two ways in which a compilation ends;
* `State.run_without_rejected`, which strikes the rejected compilations from a run;
* `State.compile_all_or_nothing`, which says when a compilation ends in which way.
-/

namespace PatternScan

variable {E : Engine}

/-! ## Patterns as they are handed over -/

namespace Engine

variable {pattern : Bytes} {mask : UInt32}

lemma compiled_nil (E : Engine) (mask : UInt32) : E.compiled [] mask = .error .ofEmpty := rfl

lemma compiled_of_error (hne : pattern ≠ []) {code : ℤ} {offset : UInt64}
    (h : E.compile pattern mask = .error (code, offset)) :
    E.compiled pattern mask = .error (.ofCode code offset) := by
  rw [compiled, if_neg (by simpa using hne), h]

lemma compiled_of_ok (hne : pattern ≠ []) {code : E.Code}
    (h : E.compile pattern mask = .ok code) : E.compiled pattern mask = .ok (.ofCode code) := by
  rw [compiled, if_neg (by simpa using hne), h]

end Engine

namespace Session

/-- Whether the command compiles a pattern that is rejected. -/
def Command.isRejected (E : Engine) : Command → Bool
  | .compile _ pattern options => !(E.compiled pattern options.mask).isOk
  | _ => false

namespace State

variable {s : State E}

/-! ## The two ends of a compilation -/

/-- A step that changes nothing, leaves no message and tells why. -/
structure Refused (s : State E) (owner : Name) (rejection : Rejection) (step : Step E) : Prop where
  answer_eq : step.answer = .owner (s.registry.owner owner) (some rejection)
  state_eq : step.state = s
  messages_eq : step.messages = []

/-- Without a message nothing is written, at any level. -/
lemma Refused.logged_eq {owner : Name} {rejection : Rejection} {step : Step E}
    (h : Refused s owner rejection step) : s.logged step = [] := by
  rw [logged, h.messages_eq]
  exact Log.written_nil s.level

/-- A step that gives an owner a newly compiled pattern in place of what it has. -/
structure Replaced (s : State E) (owner : Name) (pattern : Bytes) (code : E.Code)
    (step : Step E) : Prop where
  /-- The owner holds the next handle, with the pattern's own number of groups. -/
  owner_eq : step.state.registry.owner owner = ⟨some s.registry.issued.length, E.groups code⟩
  pattern?_eq : step.state.registry.pattern? owner = some (s.registry.issued.length, .ofCode code)
  answer_eq : step.answer = .owner (step.state.registry.owner owner) none
  /-- The handle is a new one. -/
  unheld : ∀ name, (s.registry.owner name).handle ≠ some s.registry.issued.length
  unfreed : s.registry.issued.length ∉ step.state.registry.freed
  issued_eq : step.state.registry.issued = s.registry.issued ++ [code]
  /-- The old handle, if there is one, is freed, and no other is. -/
  freed_eq : step.state.registry.freed = (s.registry.owner owner).handle.toList ++ s.registry.freed
  /-- What is freed here was not freed before and is not freed again later. -/
  freed_once : ∀ h, (s.registry.owner owner).handle = some h → s.registry.freed.count h = 0 ∧
    ∀ later, (step.state.run later).2.registry.freed.count h = 1
  /-- Nothing else changes. -/
  others_eq : ∀ name, name ≠ owner → step.state.registry.owner name = s.registry.owner name
  state_eq : step.state = { s with registry := step.state.registry }
  messages_eq : step.messages = [Registry.compiledMessage pattern (E.groups code)]
  logged_eq : s.logged step
    = if 5 ≤ s.level then (Registry.compiledMessage pattern (E.groups code)).line else []

lemma step_refused (s : State E) {owner : Name} {pattern : Bytes} {options : Options}
    {rejection : Rejection} (h : E.compiled pattern options.mask = .error rejection) :
    Refused s owner rejection (s.step (.compile owner pattern options)) := by
  rw [step_compile_of_error s h]
  exact ⟨rfl, rfl, rfl⟩

/-- What is freed stays freed. -/
lemma count_freed_run (hs : s.registry.Accounted) {h : Handle} (hfreed : h ∈ s.registry.freed)
    (later : List Command) : (s.run later).2.registry.freed.count h = 1 := by
  refine List.count_eq_one_of_mem (run_accounted hs later).ledger.freed_nodup ?_
  by_contra hnot
  exact Registry.isLive_iff.mp (isLive_of_run (Registry.isLive_iff.mpr hnot)) hfreed

lemma step_replaced (hs : s.registry.Accounted) (owner : Name) {pattern : Bytes}
    {options : Options} {code : E.Code}
    (h : E.compiled pattern options.mask = .ok (.ofCode code)) :
    Replaced s owner pattern code (s.step (.compile owner pattern options)) := by
  rw [step_compile_of_ok s h]
  have hissued := hs.issue owner code
  have howner : (s.registry.issue owner (.ofCode code)).owner owner
      = ⟨some s.registry.issued.length, E.groups code⟩ := by
    rw [Registry.owner_issue, Function.update_self]
    rfl
  refine ⟨howner, ?_, rfl, ?_, ?_, rfl, rfl, ?_, ?_, rfl, rfl, ?_⟩
  · show (s.registry.issue owner (.ofCode code)).pattern? owner = _
    unfold Registry.pattern?
    rw [howner]
    show ((s.registry.issued ++ [code])[s.registry.issued.length]?).bind _ = _
    rw [List.getElem?_concat_length]
    rfl
  · -- a handle that is held was issued before
    intro name hheld
    exact Nat.lt_irrefl _ (hs.ledger.held_issued name _ hheld)
  · refine hissued.ledger.held_not_freed owner _ ?_
    show ((s.registry.issue owner (.ofCode code)).owner owner).handle = _
    rw [howner]
  · -- the handle was not freed as long as it was held, and there is no way back from now on
    intro old hold
    refine ⟨List.count_eq_zero.mpr (hs.ledger.held_not_freed owner old hold), fun later => ?_⟩
    refine count_freed_run hissued ?_ later
    show old ∈ (s.registry.owner owner).handle.toList ++ s.registry.freed
    rw [hold]
    exact List.mem_cons_self
  · intro name hne
    show (s.registry.issue owner (.ofCode code)).owner name = _
    rw [Registry.owner_issue, Function.update_of_ne hne]
  · -- the one message is written or not, as its level says
    show Log.written s.level [Registry.compiledMessage pattern (E.groups code)] = _
    unfold Log.written Log.admits
    by_cases hlevel : 5 ≤ s.level
    · simp [hlevel, Registry.compiledMessage, Log.Message.formatted, Registry.logLevel]
    · simp [hlevel, Registry.compiledMessage, Log.Message.formatted, Registry.logLevel]

/-! ## Runs without what was rejected -/

/-- The bytes that a run leaves in the log. -/
def runLogged (s : State E) : List Command → Bytes
  | [] => []
  | c :: cs => s.logged (s.step c) ++ (s.step c).state.runLogged cs

lemma refused_of_isRejected {c : Command} (hc : c.isRejected E = true) (s : State E) :
    ∃ owner rejection, Refused s owner rejection (s.step c) := by
  cases c with
  | compile owner pattern options =>
    rcases hp : E.compiled pattern options.mask with rejection | p
    · exact ⟨owner, rejection, step_refused s hp⟩
    · rw [Command.isRejected, hp] at hc
      cases hc
  | _ => cases hc

/-- Rejected compilations can be struck from a run: the other commands are answered alike, the log
reads the same, and the run ends in the same state. -/
theorem run_without_rejected (s : State E) (cs : List Command) :
    let kept := cs.filter fun c => !c.isRejected E
    s.answersTo (fun c => !c.isRejected E) cs = (s.run kept).1 ∧
      (s.run cs).2 = (s.run kept).2 ∧ s.runLogged cs = s.runLogged kept := by
  -- the induction is on the commands; after a rejected one, both runs go on from the same state
  induction cs generalizing s with
  | nil => exact ⟨rfl, rfl, rfl⟩
  | cons c cs ih =>
    by_cases hc : c.isRejected E = true
    · obtain ⟨owner, rejection, hrefused⟩ := refused_of_isRejected hc s
      have hnot : (!c.isRejected E) = false := by rw [hc]; rfl
      obtain ⟨hanswers, hstate, hlogged⟩ := ih s
      intro kept
      have hkept : kept = cs.filter fun c => !c.isRejected E :=
        List.filter_cons_of_neg (by rw [hnot]; exact Bool.false_ne_true)
      rw [hkept, answersTo_cons_of_neg hnot, run_cons, runLogged, hrefused.state_eq,
        hrefused.logged_eq, List.nil_append]
      exact ⟨hanswers, hstate, hlogged⟩
    · have hkeep : (!c.isRejected E) = true := by simpa using hc
      obtain ⟨hanswers, hstate, hlogged⟩ := ih (s.step c).state
      intro kept
      have hkept : kept = c :: cs.filter fun c => !c.isRejected E :=
        List.filter_cons_of_pos hkeep
      rw [hkept, answersTo_cons_of_pos hkeep, run_cons, run_cons, runLogged, runLogged, hanswers,
        hstate, hlogged]
      exact ⟨rfl, rfl, rfl⟩

/-! ## Compilations -/

/-- Whatever a session did, to compile for one of its owners is all or nothing. The null view and
the empty text are rejected with code 0 at offset 0, a text that the engine rejects with the
engine's code and offset; then nothing changes at all, and whatever is done later is answered and
logged as if the rejected patterns had not been handed in. A text that the engine accepts replaces
what the owner has, with one line in the log if the level is at least 5. -/
theorem compile_all_or_nothing (cs : List Command) (owner : Name) (view : View)
    (options : Options) :
    let s := (({} : State E).run cs).2
    let step := s.step (.compile owner view.text options)
    (view = .null ∨ view = .bytes [] →
      Refused s owner ⟨0, 0, Bytes.ascii "Empty regex"⟩ step) ∧
    (view.text ≠ [] → ∀ code offset, E.compile view.text options.mask = .error (code, offset) →
      Refused s owner ⟨code, offset, (Rejection.ofCode code offset).message⟩ step) ∧
    (view.text ≠ [] → ∀ code, E.compile view.text options.mask = .ok code →
      Replaced s owner view.text code step) ∧
    ∀ later,
      let kept := later.filter fun c => !c.isRejected E
      s.answersTo (fun c => !c.isRejected E) later = (s.run kept).1 ∧
        (s.run later).2 = (s.run kept).2 ∧ s.runLogged later = s.runLogged kept := by
  intro s step
  have hs : s.registry.Accounted := run_accounted .empty cs
  refine ⟨fun hempty => ?_, fun hne code offset herror => ?_, fun hne code hok => ?_,
    s.run_without_rejected⟩
  · have htext : view.text = [] := View.text_eq_nil_iff.mpr hempty
    have hofEmpty : Rejection.ofEmpty = ⟨0, 0, Bytes.ascii "Empty regex"⟩ := by decide
    rw [← hofEmpty]
    refine step_refused s ?_
    rw [htext]
    exact E.compiled_nil options.mask
  · exact step_refused s (Engine.compiled_of_error hne herror)
  · exact step_replaced hs owner (Engine.compiled_of_ok hne hok)

/-- While a scan for `(x)*` goes on, the owner of that pattern is handed no text, then `(x`, whose
parenthesis is left open, and in the end `x|\z`, which alone is accepted. -/
theorem compile_all_or_nothing_during_scan :
    let cs : List Command := [.setLevel 5, .compile [1] (Bytes.ascii "(x)*") {},
      .createBuffer [5] (Bytes.ascii "xxa"), .openGroup [7] [1] (.buffer [5])]
    let s := (({} : State sample).run cs).2
    let unclosed : Rejection := ⟨114, 2,
      Bytes.ascii "Error in regex at offset 2: missing closing parenthesis"⟩
    let later : List Command := [.next [7], .compile [1] (Bytes.ascii "(x") {}, .next [7],
      .compile [1] [] {}, .test [1] (.buffer [5])]
    let step := s.step (.compile [1] (Bytes.ascii "x|\\z") {})
    Refused s [1] ⟨0, 0, Bytes.ascii "Empty regex"⟩ (s.step (.compile [1] [] {})) ∧
    (Bytes.ascii "(x" ≠ [] ∧ sample.compile (Bytes.ascii "(x") ({} : Options).mask
        = .error (114, 2) ∧
      Refused s [1] unclosed (s.step (.compile [1] (Bytes.ascii "(x") {}))) ∧
    (Bytes.ascii "x|\\z" ≠ [] ∧ sample.compile (Bytes.ascii "x|\\z") ({} : Options).mask
        = .ok (.orEnd 120) ∧
      Replaced s [1] (Bytes.ascii "x|\\z") (.orEnd 120) step) ∧
    s.registry.owner [1] = ⟨some 0, 1⟩ ∧ step.state.registry.owner [1] = ⟨some 1, 0⟩ ∧
    step.state.registry.freed = [0] ∧
    s.logged step = Bytes.ascii "[pcre] compiled 'x|\\z' with 0 captures\n" ∧
    s.answersTo (fun c => !c.isRejected sample) later
      = (s.run [.next [7], .next [7], .test [1] (.buffer [5])]).1 := by
  intro cs s unclosed later step
  obtain ⟨hempty, -, -, hlater⟩ := compile_all_or_nothing (E := sample) cs [1] .null {}
  obtain ⟨-, herror, -, -⟩ :=
    compile_all_or_nothing (E := sample) cs [1] (.bytes (Bytes.ascii "(x")) {}
  obtain ⟨-, -, hok, -⟩ :=
    compile_all_or_nothing (E := sample) cs [1] (.bytes (Bytes.ascii "x|\\z")) {}
  have hopen : Bytes.ascii "(x" ≠ [] := by decide
  have hx : Bytes.ascii "x|\\z" ≠ [] := by decide
  have hrejected : sample.compile (Bytes.ascii "(x") ({} : Options).mask = .error (114, 2) := rfl
  have haccepted : sample.compile (Bytes.ascii "x|\\z") ({} : Options).mask
      = .ok (.orEnd 120) := rfl
  have hreplaced := hok hx _ haccepted
  refine ⟨hempty (.inl rfl), ⟨hopen, hrejected, ?_⟩, ⟨hx, haccepted, hreplaced⟩, rfl,
    hreplaced.owner_eq, hreplaced.freed_eq, ?_, (hlater later).1⟩
  · have hmessage : unclosed = ⟨114, 2, (Rejection.ofCode 114 2).message⟩ := by
      decide +kernel
    rw [hmessage]
    exact herror hopen 114 2 hrejected
  · refine hreplaced.logged_eq.trans ?_
    decide +kernel

end State

end Session

end PatternScan
