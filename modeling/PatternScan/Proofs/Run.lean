import PatternScan.Proofs.Step
import PatternScan.Session

/-!
# Runs of scans

A run makes calls on a scan one after the other; a drain makes calls until one yields no result.
Five things live here:

* `Scan.run` and `Scan.drain`, for any kind of step;
* `Scan.Kind`, what the two kinds of scans have in common, with `WholeScan.kind` and
  `GroupScan.kind`;
* `Scan.Turn.Settled`, by which a step asks the engine once or does nothing;
* `Scan.Report`, what the caller learns from one call;
* `Scan.Reaches`, the scans that calls lead to.
-/

namespace PatternScan

namespace Scan

open Session (Finding)

variable {σ κ α β : Type}

/-! ## Calls in a row -/

/-- A call on a scan, with the scan it was made on and the step that came of it. -/
structure Turn (σ κ α : Type) where
  scan : σ
  call : κ
  step : Step σ α

/-- The turn with its result changed, as the scan and the call say. -/
def Turn.map (f : σ → κ → α → β) (t : Turn σ κ α) : Turn σ κ β :=
  ⟨t.scan, t.call, t.step.map (f t.scan t.call)⟩

/-- Makes calls in order, each on the scan that the one before it left. -/
def run (next : σ → κ → Except Breach (Step σ α)) (s : σ) :
    List κ → Except Breach (List (Turn σ κ α))
  | [] => .ok []
  | call :: calls => do
    let step ← next s call
    return ⟨s, call, step⟩ :: (← run next step.scan calls)

/-- A scan after it was drained: its results with the scans they left, the failure if the drain
ended on one, and the scan at the end. -/
structure Drained (σ α : Type) where
  yields : List (α × σ)
  failure : Option Failure
  scan : σ

/-- The drain with one more result in front. -/
def Drained.cons (y : α × σ) (d : Drained σ α) : Drained σ α :=
  { d with yields := y :: d.yields }

/-- Makes calls until one yields no result; none if `limit` calls all yield one. -/
def drain (next : σ → Except Breach (Step σ α)) (limit : ℕ) (s : σ) :
    Except Breach (Option (Drained σ α)) :=
  match limit with
  | 0 => .ok none
  | limit + 1 => do
    let step ← next s
    match step.outcome with
    | .found a =>
      let drained ← drain next limit step.scan
      return drained.map (Drained.cons (a, step.scan))
    | .nothing => return some ⟨[], none, step.scan⟩
    | .failed failure => return some ⟨[], some failure, step.scan⟩

/-- The scans that allowed calls lead to. -/
inductive Reaches (next : σ → κ → Except Breach (Step σ α)) (Allowed : κ → Prop) (s : σ) : σ → Prop
  | refl : Reaches next Allowed s s
  | call {t : σ} {call : κ} {step : Step σ α} (reached : Reaches next Allowed s t)
      (allowed : Allowed call) (stepped : next t call = .ok step) : Reaches next Allowed s step.scan

section
variable {next : σ → κ → Except Breach (Step σ α)} {s : σ} {call : κ} {step : Step σ α}

lemma run_cons (h : next s call = .ok step) (calls : List κ) :
    run next s (call :: calls)
      = (run next step.scan calls).map (⟨s, call, step⟩ :: ·) := by
  rw [run, h]
  rfl

/-- A run of calls that change only the result goes the same way. -/
lemma run_map {next' : σ → κ → Except Breach (Step σ β)} {f : σ → κ → α → β}
    (h : ∀ s call, next' s call = (next s call).map (Step.map (f s call))) (s : σ)
    (calls : List κ) :
    run next' s calls = (run next s calls).map (List.map (Turn.map f)) := by
  induction calls generalizing s with
  | nil => rfl
  | cons call calls ih =>
    rw [run, h]
    -- a broken promise stops both runs at the same call
    rcases hstep : next s call with b | step
    · rw [run, hstep]
      rfl
    · rw [run_cons hstep]
      show (do return _ :: (← run next' step.scan calls)) = _
      rw [ih]
      rcases run next step.scan calls with b | turns <;> rfl

end

section
variable {next : σ → Except Breach (Step σ α)} {s t : σ} {messages : List Log.Message}

lemma drain_found {a : α} {limit : ℕ} {d : Drained σ α}
    (h : next s = .ok ⟨.found a, t, messages⟩) (hd : drain next limit t = .ok (some d)) :
    drain next (limit + 1) s = .ok (some (d.cons (a, t))) := by
  rw [drain, h]
  show (do return Option.map _ (← drain next limit t)) = _
  rw [hd]
  rfl

lemma drain_nothing (h : next s = .ok ⟨.nothing, t, messages⟩) (limit : ℕ) :
    drain next (limit + 1) s = .ok (some ⟨[], none, t⟩) := by
  rw [drain, h]
  rfl

lemma drain_failed {failure : Failure} (h : next s = .ok ⟨.failed failure, t, messages⟩)
    (limit : ℕ) : drain next (limit + 1) s = .ok (some ⟨[], some failure, t⟩) := by
  rw [drain, h]
  rfl

end

/-! ## The two kinds of scans -/

/-- What the two kinds of scans have in common. -/
structure Kind (σ κ α : Type) where
  /-- A call, with what it tells its caller. -/
  call : σ → κ → Except Breach (Step σ Finding)
  /-- The step that the call takes. -/
  next : σ → κ → Except Breach (Step σ α)
  /-- What that step has the engine search, if it asks the engine. -/
  rest? : σ → κ → Except Breach (Option Bytes)
  /-- The engine's answer to a search. -/
  find : σ → Bytes → Except Failure (Option Match)
  /-- What that step makes of the answer. -/
  settle : σ → κ → Except Failure (Option Match) → Except Breach (Step σ α)
  /-- What the call tells of a result. -/
  tell : σ → κ → α → Finding
  /-- The span of the whole match. -/
  whole : α → Span Extent
  /-- Where the next search starts. -/
  position : σ → UInt64
  /-- Whether the scan has ended. -/
  isExhausted : σ → Bool
  call_eq : ∀ s c, call s c = (next s c).map (Step.map (tell s c))
  /-- A step makes one search, or none and then does nothing. -/
  next_eq : ∀ s c, next s c = (do
    match ← rest? s c with
    | none => return ⟨.nothing, s, []⟩
    | some rest => settle s c (find s rest))

/-- What the caller learns from a call. -/
structure Report where
  outcome : Outcome Finding
  position : UInt64
  isExhausted : Bool
deriving DecidableEq

namespace Kind

/-- What the caller learns from a turn. -/
def report (K : Kind σ κ α) (t : Turn σ κ Finding) : Report :=
  ⟨t.step.outcome, K.position t.step.scan, K.isExhausted t.step.scan⟩

/-- What the caller learns from a list of calls. -/
def observe (K : Kind σ κ α) (s : σ) (calls : List κ) : Except Breach (List Report) :=
  (run K.call s calls).map (List.map K.report)

/-- A call does what its step does, and tells of the result. -/
lemma call_of_next (K : Kind σ κ α) {s : σ} {c : κ} {step : Step σ α}
    (h : K.next s c = .ok step) : K.call s c = .ok (step.map (K.tell s c)) := by
  rw [K.call_eq, h]
  rfl

lemma observe_cons (K : Kind σ κ α) {s : σ} {c : κ} {step : Step σ Finding}
    (h : K.call s c = .ok step) (calls : List κ) :
    K.observe s (c :: calls)
      = (K.observe step.scan calls).map (K.report ⟨s, c, step⟩ :: ·) := by
  rw [observe, observe, run_cons h]
  rcases run K.call step.scan calls with b | turns <;> rfl

lemma run_call (K : Kind σ κ α) (s : σ) (calls : List κ) :
    run K.call s calls = (run K.next s calls).map (List.map (Turn.map K.tell)) :=
  run_map K.call_eq s calls

/-- A step that has nothing to search does nothing. -/
lemma next_of_none (K : Kind σ κ α) {s : σ} {c : κ} (h : K.rest? s c = .ok none) :
    K.next s c = .ok ⟨.nothing, s, []⟩ := by
  rw [K.next_eq, h]
  rfl

/-- A step that has something to search is what one search of it comes to. -/
lemma next_of_some (K : Kind σ κ α) {s : σ} {c : κ} {rest : Bytes}
    (h : K.rest? s c = .ok (some rest)) : K.next s c = K.settle s c (K.find s rest) := by
  rw [K.next_eq, h]
  rfl

/-- Whether a turn asks the engine. -/
def searches (K : Kind σ κ α) (t : Turn σ κ α) : Bool :=
  match K.rest? t.scan t.call with
  | .ok (some _) => true
  | _ => false

end Kind

/-- A turn that is what one search comes to if it asks the engine, and nothing if it does not. -/
structure Turn.Settled (K : Kind σ κ α) (t : Turn σ κ α) : Prop where
  of_searches : K.searches t = true → ∃ rest, K.rest? t.scan t.call = .ok (some rest) ∧
    K.settle t.scan t.call (K.find t.scan rest) = .ok t.step
  of_not_searches : K.searches t = false → t.step = ⟨.nothing, t.scan, []⟩

lemma Turn.Settled.of_next {K : Kind σ κ α} {t : Turn σ κ α}
    (h : K.next t.scan t.call = .ok t.step) : t.Settled K := by
  rcases hrest : K.rest? t.scan t.call with b | _ | rest
  · rw [K.next_eq, hrest] at h
    cases h
  · have hsearches : K.searches t = false := by rw [Kind.searches, hrest]
    rw [K.next_of_none hrest] at h
    refine ⟨fun hasks => ?_, fun _ => (Except.ok.inj h).symm⟩
    rw [hsearches] at hasks
    cases hasks
  · have hsearches : K.searches t = true := by rw [Kind.searches, hrest]
    rw [K.next_of_some hrest] at h
    refine ⟨fun _ => ⟨rest, hrest, h⟩, fun hnot => ?_⟩
    rw [hsearches] at hnot
    cases hnot

end Scan

open Session (Finding)

variable {E : Engine}

namespace WholeScan

/-- The two calls of a scan for whole matches. -/
inductive Call
  | next
  | nextText
deriving DecidableEq

/-- What a call tells of a span. -/
def tell (s : WholeScan E) : Call → Span Extent → Finding
  | .next, span => .span (s.read span)
  | .nextText, span => .text (s.read span).text

/-- One call, by the function it is a call of. -/
def call (s : WholeScan E) : Call → Except Breach (Scan.Step (WholeScan E) Finding)
  | .next => s.next.map (Scan.Step.map fun span => .span (s.read span))
  | .nextText => s.nextText.map (Scan.Step.map Finding.text)

/-- Both calls take the same step. -/
lemma call_eq (s : WholeScan E) (c : Call) :
    s.call c = s.next.map (Scan.Step.map (s.tell c)) := by
  cases c with
  | next => rfl
  | nextText =>
    show (s.next.map _).map _ = s.next.map _
    rcases s.next with b | ⟨outcome, t, messages⟩
    · rfl
    · cases outcome <;> rfl

/-- Scans for whole matches. -/
def kind : Scan.Kind (WholeScan E) Call (Span Extent) where
  call := call
  next s _ := s.next
  rest? s _ := s.rest?
  find s rest := s.pattern.find rest
  settle s _ := s.settle
  tell := tell
  whole := id
  position := position
  isExhausted := isExhausted
  call_eq := call_eq
  next_eq _ _ := rfl

end WholeScan

namespace GroupScan

/-- What a call tells of a record: its spans with their texts. -/
def tell (_ : GroupScan E) (buffer : Bytes) (record : Record Extent) : Finding :=
  .record (Record.read record buffer)

/-- Scans for groups; a call brings the buffer as it is then. -/
def kind : Scan.Kind (GroupScan E) Bytes (Record Extent) where
  call s buffer := (s.next buffer).map (Scan.Step.map (s.tell buffer))
  next := next
  rest? := rest?
  find s rest := s.pattern.find rest
  settle := settle
  tell := tell
  whole record := record.headD .unset
  position := position
  isExhausted := isExhausted
  call_eq _ _ := rfl
  next_eq _ _ := rfl

end GroupScan

end PatternScan
