import PatternScan.Proofs.Exhaustion
import PatternScan.Proofs.LogLine

/-!
# A scan gives one reason for its end

A scan says in the log why it ended if it ended at a search in vain or, for groups, at an empty
match; it says nothing if a match took it to the end of the buffer, if the buffer is empty, or if
the engine failed. No other call leaves a line. Three things live here:

* `Scan.Reason`, what there is to say, and `Scan.Kind.because?`, which reads it off the engine's
  answer, in `WholeScan.because?` and `GroupScan.because?`;
* `Scan.Turn.Explained`, a call that leaves the message of its reason and no other one;
* `Scan.Accountable`, a run that leaves one line at most.
-/

namespace PatternScan

namespace Scan

variable {σ κ α : Type}

/-! ## Reasons and their lines -/

/-- Why a scan ended, where there is something to say. -/
inductive Reason
  /-- The search from a position found no match. -/
  | noMatch (position : ℕ)
  /-- The match that starts at a byte of the buffer is empty. -/
  | emptyMatch (start : ℕ)
deriving DecidableEq

namespace Reason

/-- The offset that is told. -/
def offset : Reason → ℕ
  | noMatch position => position
  | emptyMatch start => start

/-- The words in front of the offset. -/
def words : Reason → Bytes
  | noMatch _ => Bytes.ascii "no match after offset "
  | emptyMatch _ => Bytes.ascii "empty match at offset "

/-- The line that tells the reason: the domain in brackets, the words and the offset in decimal. -/
def line (domain : Bytes) (r : Reason) : Bytes :=
  Bytes.ascii "[" ++ domain ++ Bytes.ascii "] " ++ (r.words ++ Bytes.ofNat r.offset) ++
    Bytes.ascii "\n"

/-- The message that a scan leaves. -/
def message (domain : Bytes) (r : Reason) : Log.Message :=
  .formatted logLevel domain (r.words ++ Bytes.ofNat r.offset)

variable {domain : Bytes} {r : Reason}

lemma line_ne_nil (domain : Bytes) (r : Reason) : r.line domain ≠ [] := by
  unfold line
  exact List.append_ne_nil_of_right_ne_nil _ (by decide)

/-- The words are short and an offset in a buffer has twenty digits at most, so the text is not
cut. -/
lemma shown_text (hr : r.offset < npos.toNat) :
    Log.shown (r.words ++ Bytes.ofNat r.offset) = r.words ++ Bytes.ofNat r.offset := by
  have hlt : r.offset < 10 ^ 20 := Nat.lt_trans hr (by decide)
  have hdigits : (Bytes.ofNat r.offset).length ≤ 20 := Bytes.length_ofNat_le (by decide) hlt
  have hwords : r.words.length = 22 := by cases r <;> rfl
  have hnul : 0 ∉ r.words := by
    cases r <;> simp only [words] <;> decide
  rw [Log.shown_eq_self_iff, List.length_append, List.mem_append]
  refine ⟨by omega, ?_⟩
  rintro (hmem | hmem)
  · exact hnul hmem
  · exact Bytes.nul_not_mem_ofNat _ hmem

/-- What the message leaves in the log. -/
lemma written_message (hdomain : domain ≠ []) (hr : r.offset < npos.toNat) (level : Log.Level) :
    Log.written level [r.message domain] = if 6 ≤ level then r.line domain else [] := by
  have hline : (r.message domain).line = r.line domain := by
    unfold message
    rw [Log.line_formatted, shown_text hr, Log.tag_eq, if_neg hdomain, line]
  rw [Log.written_singleton, hline]
  rfl

/-- The messages of a scan are those of the reasons. -/
lemma noMatchMessage_eq {position : ℕ} (h : position < npos.toNat) :
    noMatchMessage domain (UInt64.ofNat position) = (noMatch position).message domain := by
  unfold noMatchMessage message
  rw [toNat_ofNat_of_lt_npos h]
  rfl

lemma emptyMatchMessage_eq {start : ℕ} (h : start < npos.toNat) :
    emptyMatchMessage domain (UInt64.ofNat start) = (emptyMatch start).message domain := by
  unfold emptyMatchMessage message
  rw [toNat_ofNat_of_lt_npos h]
  rfl

end Reason

/-- What the calls of a run leave in the log, each call under a level of its own. -/
def logged (levels : List Log.Level) (turns : List (Turn σ κ α)) : Bytes :=
  (List.zipWith (fun level t => Log.written level t.step.messages) levels turns).flatten

/-- The reasons that the calls of a run have. -/
def reasons (because? : σ → κ → Option Reason) (turns : List (Turn σ κ α)) : List Reason :=
  turns.filterMap fun t => because? t.scan t.call

/-! ## Calls and runs with reasons -/

/-- A call that leaves the message of its reason, if it has one, and no other message. It has one
iff it yields nothing on a scan that has not ended. -/
structure Turn.Explained (K : Kind σ κ α) (because? : σ → κ → Option Reason) (domain : Bytes)
    (t : Turn σ κ α) : Prop where
  messages_eq : t.step.messages = (because? t.scan t.call).toList.map (Reason.message domain)
  offset_lt : ∀ r ∈ because? t.scan t.call, r.offset < npos.toNat
  isSome_iff : (because? t.scan t.call).isSome = true ↔
    K.isExhausted t.scan = false ∧ t.step.outcome = .nothing

/-- A call that ends a scan. -/
def Turn.Ends (K : Kind σ κ α) (t : Turn σ κ α) : Prop :=
  K.isExhausted t.scan = false ∧ K.isExhausted t.step.scan = true

/-- A run of calls over `n` bytes that leaves one line at most, which tells why the scan ended. -/
structure Accountable (K : Kind σ κ α) (because? : σ → κ → Option Reason) (domain : Bytes) (n : ℕ)
    (turns : List (Turn σ κ α)) : Prop where
  reasons_length_le : (reasons because? turns).length ≤ 1
  /-- A call has a reason iff it yields nothing on a scan that has not ended: not if it yields a
  match or fails, and not after the end. -/
  isSome_iff : ∀ t ∈ turns, (because? t.scan t.call).isSome = true ↔
    K.isExhausted t.scan = false ∧ t.step.outcome = .nothing
  /-- From level 6 on, a call writes the line of its reason, and it writes nothing without one. -/
  written_eq : ∀ t ∈ turns, ∀ level, Log.written level t.step.messages
    = if 6 ≤ level then (because? t.scan t.call).elim [] (Reason.line domain) else []
  /-- The line of the one call with a reason is all that is written. -/
  logged_eq_line : ∀ t ∈ turns, ∀ r, because? t.scan t.call = some r →
    ∀ levels, levels.length = turns.length → (∀ level ∈ levels, 6 ≤ level) →
      logged levels turns = r.line domain
  /-- Something is written iff a call has a reason. -/
  logged_ne_nil_iff : ∀ levels, levels.length = turns.length → (∀ level ∈ levels, 6 ≤ level) →
    (logged levels turns ≠ [] ↔ ∃ t ∈ turns, (because? t.scan t.call).isSome = true)
  /-- Nothing is written if a match or a failure took the scan to its end. -/
  logged_of_ended : ∀ t ∈ turns, K.isExhausted t.step.scan = true → t.step.outcome ≠ .nothing →
    ∀ levels, logged levels turns = []
  logged_of_empty : n = 0 → ∀ levels, logged levels turns = []
  /-- Below level 6, nothing is written. -/
  logged_of_lt : ∀ levels, (∀ level ∈ levels, level < 6) → logged levels turns = []

section
variable {K : Kind σ κ α} {because? : σ → κ → Option Reason} {domain : Bytes} {n : ℕ}
  {t : Turn σ κ α} {turns : List (Turn σ κ α)} {levels : List Log.Level}

namespace Turn.Explained

/-- A call without a message and without a reason, as it yields a match, fails, or finds the scan at
its end. -/
lemma of_none (hmessages : t.step.messages = []) (hnone : because? t.scan t.call = none)
    (hquiet : K.isExhausted t.scan = true ∨ t.step.outcome ≠ .nothing) :
    t.Explained K because? domain where
  messages_eq := by
    rw [hmessages, hnone]
    rfl
  offset_lt := by
    intro r hr
    rw [hnone] at hr
    cases hr
  isSome_iff := by
    rw [hnone]
    constructor
    · intro hsome
      cases hsome
    · rintro ⟨hopen, hnothing⟩
      rcases hquiet with hover | hne
      · rw [hover] at hopen
        cases hopen
      · exact absurd hnothing hne

/-- A call with the message of its reason. -/
lemma of_some {r : Reason} {m : Log.Message} (hmessages : t.step.messages = [m])
    (hm : m = r.message domain) (hsome : because? t.scan t.call = some r)
    (hr : r.offset < npos.toNat) (hopen : K.isExhausted t.scan = false)
    (hnothing : t.step.outcome = .nothing) : t.Explained K because? domain where
  messages_eq := by
    rw [hmessages, hm, hsome]
    rfl
  offset_lt := by
    intro r' hr'
    rw [hsome] at hr'
    cases hr'
    exact hr
  isSome_iff := by
    rw [hsome]
    exact ⟨fun _ => ⟨hopen, hnothing⟩, fun _ => rfl⟩

lemma written_eq (h : t.Explained K because? domain) (hdomain : domain ≠ [])
    (level : Log.Level) :
    Log.written level t.step.messages
      = if 6 ≤ level then (because? t.scan t.call).elim [] (Reason.line domain) else [] := by
  rw [h.messages_eq]
  rcases hbecause : because? t.scan t.call with _ | r
  · exact (ite_self _).symm
  · exact Reason.written_message hdomain (h.offset_lt r hbecause) level

/-- A call that yields a match, fails, or finds the scan at its end has no reason. -/
lemma eq_none (h : t.Explained K because? domain)
    (hquiet : K.isExhausted t.scan = true ∨ t.step.outcome ≠ .nothing) :
    because? t.scan t.call = none := by
  rw [← Option.not_isSome_iff_eq_none, h.isSome_iff]
  rintro ⟨hopen, hnothing⟩
  rcases hquiet with hover | hne
  · rw [hover] at hopen
    cases hopen
  · exact hne hnothing

/-- A call with a reason ends the scan. -/
lemma ends (h : t.Explained K because? domain) (hfinal : Final K n turns) (ht : t ∈ turns)
    (hsome : (because? t.scan t.call).isSome = true) : t.Ends K := by
  obtain ⟨hopen, hnothing⟩ := h.isSome_iff.mp hsome
  have hnot : t.step.outcome.isFound = false := by rw [hnothing]; rfl
  exact ⟨hopen, (hfinal.stops t ht hnot).2⟩

end Turn.Explained

/-! ## The log of a run -/

lemma logged_eq_nil
    (h : ∀ level ∈ levels, ∀ t ∈ turns, Log.written level t.step.messages = []) :
    logged levels turns = [] := by
  induction turns generalizing levels with
  | nil =>
    unfold logged
    rw [List.zipWith_nil_right]
    rfl
  | cons t turns ih =>
    cases levels with
    | nil => rfl
    | cons level levels =>
      have hfirst := h level List.mem_cons_self t List.mem_cons_self
      have hrest := ih fun level' hlevel' t' ht' =>
        h level' (List.mem_cons_of_mem _ hlevel') t' (List.mem_cons_of_mem _ ht')
      unfold logged at hrest ⊢
      rw [List.zipWith_cons_cons, List.flatten_cons, hfirst, hrest]
      rfl

/-- From level 6 on, the log of a run is made of the lines of its reasons. -/
lemma logged_eq_lines (hturns : ∀ t ∈ turns, t.Explained K because? domain)
    (hdomain : domain ≠ []) (hlength : levels.length = turns.length)
    (hlevels : ∀ level ∈ levels, 6 ≤ level) :
    logged levels turns = (reasons because? turns).flatMap (Reason.line domain) := by
  -- each call writes the line of its own reason, so the lines add up along the run
  induction turns generalizing levels with
  | nil =>
    rw [List.eq_nil_of_length_eq_zero hlength]
    rfl
  | cons t turns ih =>
    cases levels with
    | nil => cases hlength
    | cons level levels =>
      have hwritten := (hturns t List.mem_cons_self).written_eq hdomain level
      rw [if_pos (hlevels level List.mem_cons_self)] at hwritten
      have hrest := ih (fun t' ht' => hturns t' (List.mem_cons_of_mem _ ht'))
        (Nat.succ.inj hlength) fun level' hlevel' => hlevels level' (List.mem_cons_of_mem _ hlevel')
      unfold logged reasons at hrest ⊢
      rw [List.zipWith_cons_cons, List.flatten_cons, hwritten, hrest, List.filterMap_cons]
      cases because? t.scan t.call <;> rfl

/-- The one call that ends the scan tells the reasons of the whole run. -/
lemma reasons_of_ends (hturns : ∀ t ∈ turns, t.Explained K because? domain)
    (hfinal : Final K n turns) (ht : t ∈ turns) (hends : t.Ends K) :
    reasons because? turns = (because? t.scan t.call).toList := by
  have hnone : ∀ u ∈ turns, ¬u.Ends K → because? u.scan u.call = none := by
    intro u hu hnot
    rw [← Option.not_isSome_iff_eq_none]
    intro hsome
    exact hnot ((hturns u hu).ends hfinal hu hsome)
  -- the run is split at the call; neither side of it has a reason
  obtain ⟨front, back, rfl⟩ := List.append_of_mem ht
  obtain ⟨-, hback, hfront⟩ := List.pairwise_append.mp hfinal.lasts
  -- a call before this one has not ended the scan, or else this one would find it at its end
  have hbefore : front.filterMap (fun u => because? u.scan u.call) = [] := by
    refine List.filterMap_eq_nil_iff.mpr fun u hu => hnone u (List.mem_append_left _ hu) ?_
    rintro ⟨-, hover⟩
    have hscan := (hfront u hu t List.mem_cons_self hover).1
    rw [← hscan, hends.1] at hover
    exact absurd hover Bool.false_ne_true
  -- and a call behind it finds the scan as this one left it
  have hafter : back.filterMap (fun u => because? u.scan u.call) = [] := by
    refine List.filterMap_eq_nil_iff.mpr fun u hu =>
      hnone u (List.mem_append_right _ (List.mem_cons_of_mem _ hu)) ?_
    rintro ⟨hopen, -⟩
    have hscan := ((List.pairwise_cons.mp hback).1 u hu hends.2).1
    rw [hscan, hends.2] at hopen
    exact absurd hopen.symm Bool.false_ne_true
  unfold reasons
  rw [List.filterMap_append, hbefore, List.filterMap_cons, hafter]
  cases because? t.scan t.call <;> rfl

/-- A run with a reason has no other one. -/
lemma reasons_of_some (hturns : ∀ t ∈ turns, t.Explained K because? domain)
    (hfinal : Final K n turns) (ht : t ∈ turns) {r : Reason}
    (hr : because? t.scan t.call = some r) : reasons because? turns = [r] := by
  have hsome : (because? t.scan t.call).isSome = true := by rw [hr]; rfl
  rw [reasons_of_ends hturns hfinal ht ((hturns t ht).ends hfinal ht hsome), hr]
  rfl

/-- A run without a reason writes nothing, at whatever levels. -/
lemma logged_of_reasons_nil (hturns : ∀ t ∈ turns, t.Explained K because? domain)
    (hdomain : domain ≠ []) (hnone : reasons because? turns = []) (levels : List Log.Level) :
    logged levels turns = [] := by
  apply logged_eq_nil
  intro level _ t ht
  rw [(hturns t ht).written_eq hdomain, List.filterMap_eq_nil_iff.mp hnone t ht]
  exact ite_self _

/-- A run whose calls are explained and that is over for good gives one reason at most. -/
lemma Accountable.of_final (hturns : ∀ t ∈ turns, t.Explained K because? domain)
    (hdomain : domain ≠ []) (hfinal : Final K n turns)
    (hempty : n = 0 → ∀ t ∈ turns, K.isExhausted t.scan = true) :
    Accountable K because? domain n turns := by
  have hmem : ∀ r ∈ reasons because? turns, ∃ t ∈ turns, because? t.scan t.call = some r :=
    fun r => List.mem_filterMap.mp
  exact {
    reasons_length_le := by
      rcases hreasons : reasons because? turns with _ | ⟨r, rest⟩
      · exact Nat.zero_le 1
      · obtain ⟨t, ht, hr⟩ := hmem r (hreasons ▸ List.mem_cons_self)
        rw [← hreasons, reasons_of_some hturns hfinal ht hr]
        exact Nat.le_refl 1
    isSome_iff := fun t ht => (hturns t ht).isSome_iff
    written_eq := fun t ht => (hturns t ht).written_eq hdomain
    logged_eq_line := by
      intro t ht r hr levels hlength hlevels
      rw [logged_eq_lines hturns hdomain hlength hlevels, reasons_of_some hturns hfinal ht hr]
      exact List.append_nil _
    logged_ne_nil_iff := by
      intro levels hlength hlevels
      constructor
      · intro hne
        obtain ⟨r, hr⟩ : ∃ r, r ∈ reasons because? turns := by
          apply List.exists_mem_of_ne_nil
          intro hnil
          exact hne (logged_of_reasons_nil hturns hdomain hnil levels)
        obtain ⟨t, ht, hbecause⟩ := hmem r hr
        exact ⟨t, ht, by rw [hbecause]; rfl⟩
      · rintro ⟨t, ht, hsome⟩
        obtain ⟨r, hr⟩ := Option.isSome_iff_exists.mp hsome
        rw [logged_eq_lines hturns hdomain hlength hlevels, reasons_of_some hturns hfinal ht hr]
        exact List.append_ne_nil_of_left_ne_nil (Reason.line_ne_nil domain r) _
    logged_of_ended := by
      intro t ht hover hne
      have hopen : K.isExhausted t.scan = false := by
        rw [← Bool.not_eq_true]
        intro hexhausted
        rw [(hfinal.inert t ht hexhausted).step_eq] at hne
        exact hne rfl
      -- the call that ended the scan tells the reasons of the run, and it has none
      have hreasons := reasons_of_ends hturns hfinal ht ⟨hopen, hover⟩
      rw [(hturns t ht).eq_none (.inr hne)] at hreasons
      exact logged_of_reasons_nil hturns hdomain hreasons
    logged_of_empty := by
      intro hzero
      apply logged_of_reasons_nil hturns hdomain
      apply List.filterMap_eq_nil_iff.mpr
      intro t ht
      exact (hturns t ht).eq_none (.inl (hempty hzero t ht))
    logged_of_lt := by
      intro levels hlevels
      apply logged_eq_nil
      intro level hlevel t ht
      rw [(hturns t ht).written_eq hdomain, if_neg (UInt32.not_le.mpr (hlevels level hlevel))] }

end

/-! ## Reasons read off the engine's answers -/

/-- Why a call ends the scan, read off the engine's answer for what is left of a text; there is
nothing to say if the scan has ended. -/
def Kind.because? (K : Kind σ κ α) (text : σ → κ → Bytes)
    (reasonFor : ℕ → Except Failure (Option Match) → Option Reason) (s : σ) (c : κ) :
    Option Reason :=
  if K.isExhausted s then none
  else reasonFor (K.position s).toNat (K.find s ((text s c).drop (K.position s).toNat))

namespace Course

variable {K : Kind σ κ α} {Shape : Span Extent → Prop} {place : ℕ → σ} {Allowed : κ → Prop}
  {n k : ℕ}

section
variable {text : σ → κ → Bytes} {reasonFor : ℕ → Except Failure (Option Match) → Option Reason}

lemma because?_at_end (h : Course K Shape place Allowed n) (c : κ) :
    K.because? text reasonFor (place n) c = none := by
  rw [Kind.because?, h.isExhausted_at_end]
  rfl

lemma because?_of_lt (h : Course K Shape place Allowed n) (hk : k < n) (c : κ) :
    K.because? text reasonFor (place k) c
      = reasonFor k (K.find (place k) ((text (place k) c).drop k)) := by
  rw [Kind.because?, h.isExhausted_of_lt hk, h.position_eq k (Nat.le_of_lt hk)]
  rfl

/-- A call at the end has nothing to say. -/
lemma explained_at_end (h : Course K Shape place Allowed n) (domain : Bytes) {c : κ}
    (hc : Allowed c) {step : Step σ α} (hnext : K.next (place n) c = .ok step) :
    Turn.Explained K (K.because? text reasonFor) domain ⟨place n, c, step⟩ := by
  rw [h.next_at_end hc] at hnext
  cases hnext
  exact .of_none rfl (h.because?_at_end c) (.inl h.isExhausted_at_end)

/-- A run from the start is accountable if every call from before the end is explained. -/
lemma accountable {domain : Bytes} (h : Course K Shape place Allowed n)
    (hexplained : ∀ k < n, ∀ c, Allowed c → ∀ step, K.next (place k) c = .ok step →
      Turn.Explained K (K.because? text reasonFor) domain ⟨place k, c, step⟩)
    (hdomain : domain ≠ []) {calls : List κ} (hcalls : ∀ c ∈ calls, Allowed c) :
    ∃ turns, Scan.run K.next (place 0) calls = .ok turns ∧
      Accountable K (K.because? text reasonFor) domain n turns := by
  obtain ⟨turns, hrun, hfinal⟩ := h.final hcalls (Nat.zero_le n)
  refine ⟨turns, hrun, .of_final ?_ hdomain hfinal ?_⟩
  · rintro ⟨scan, call, step⟩ ht
    obtain ⟨k, hk, rfl, hcall, hnext⟩ := h.turn_place hcalls (Nat.zero_le n) hrun ht
    rcases Nat.lt_or_eq_of_le hk with hlt | rfl
    · exact hexplained k hlt call hcall step hnext
    · exact h.explained_at_end domain hcall hnext
  · intro hzero t ht
    obtain ⟨k, hk, hscan, -, -⟩ := h.turn_place hcalls (Nat.zero_le n) hrun ht
    obtain rfl : k = n := by omega
    rw [hscan, h.isExhausted_at_end]

end

end Course

end Scan

/-! ## The two kinds of scans -/

variable {E : Engine} {code : E.Code}

namespace WholeScan

/-- Why a scan for whole matches ends at the engine's answer for the rest from a position. -/
def reasonFor (position : ℕ) : Except Failure (Option Match) → Option Scan.Reason
  | .ok none => some (.noMatch position)
  | _ => none

/-- Why a call ends the scan, by what is left of its text. -/
def because? : WholeScan E → Call → Option Scan.Reason :=
  kind.because? (fun s _ => s.text) reasonFor

variable {text : Bytes} {k : ℕ}

/-- Every call from before the end is explained by the answer that decides its step. -/
lemma explained (hE : E.Sound code (E.groups code + 1)) (hk : k < text.length)
    (hn : text.length < npos.toNat) (c : Call) {step : Scan.Step (WholeScan E) (Span Extent)}
    (hnext : next (ofPosition (.ofCode code) text k) = .ok step) :
    Scan.Turn.Explained kind because? domain ⟨ofPosition (.ofCode code) text k, c, step⟩ := by
  have hopen := (course hE hn).isExhausted_of_lt hk
  have hoffset : k < npos.toNat := Nat.lt_trans hk hn
  have hbecause : because? (ofPosition (.ofCode code) text k) c
      = reasonFor k ((Compiled.ofCode code).find (text.drop k)) :=
    (course hE hn).because?_of_lt hk c
  rw [next_of_lt hE hk hn] at hnext
  cases hnext
  rcases hfind : (Compiled.ofCode code).find (text.drop k) with failure | _ | m
  · rw [hfind] at hbecause
    exact .of_none rfl hbecause (.inr (by simp [stepFrom]))
  · rw [hfind] at hbecause
    exact .of_some rfl (Scan.Reason.noMatchMessage_eq hoffset) hbecause hoffset hopen rfl
  · rw [hfind] at hbecause
    exact .of_none rfl hbecause (.inr (by simp [stepFrom]))

end WholeScan

namespace GroupScan

/-- Why a scan for groups ends at the engine's answer for the rest from a position. -/
def reasonFor (position : ℕ) : Except Failure (Option Match) → Option Scan.Reason
  | .ok none => some (.noMatch position)
  | .ok (some m) =>
    if m.whole.start = m.whole.stop then some (.emptyMatch (position + m.whole.start.toNat))
    else none
  | .error _ => none

/-- Why a call ends the scan, by what is left of the buffer as it is then. -/
def because? : GroupScan E → Bytes → Option Scan.Reason :=
  kind.because? (fun _ buffer => buffer) reasonFor

variable {buffer : Bytes} {k : ℕ}

/-- Every call from before the end is explained by the answer that decides its step. -/
lemma explained (hE : E.Sound code (E.groups code + 1)) (hk : k < buffer.length)
    (hn : buffer.length < npos.toNat) {step : Scan.Step (GroupScan E) (Record Extent)}
    (hnext : next (ofPosition (.ofCode code) buffer.length k) buffer = .ok step) :
    Scan.Turn.Explained kind because? domain
      ⟨ofPosition (.ofCode code) buffer.length k, buffer, step⟩ := by
  have hopen := (course hE hn).isExhausted_of_lt hk
  have hoffset : k < npos.toNat := Nat.lt_trans hk hn
  have hbecause : because? (ofPosition (.ofCode code) buffer.length k) buffer
      = reasonFor k ((Compiled.ofCode code).find (buffer.drop k)) :=
    (course hE hn).because?_of_lt hk buffer
  rw [next_of_lt hE hk hn] at hnext
  cases hnext
  rcases hfind : (Compiled.ofCode code).find (buffer.drop k) with failure | _ | m
  · rw [hfind] at hbecause
    exact .of_none rfl hbecause (.inr (by simp [stepFrom]))
  · rw [hfind] at hbecause
    exact .of_some rfl (Scan.Reason.noMatchMessage_eq hoffset) hbecause hoffset hopen rfl
  · rw [hfind] at hbecause
    by_cases hempty : m.whole.start = m.whole.stop
    · -- the empty match lies in the buffer, so its start is an offset
      have hwhole := (Compiled.find_drop_fits hE hn hfind).wholeFits
      obtain ⟨hle, hstop⟩ := hwhole.within.bounds hwhole.isSet
      have hstart : k + m.whole.start.toNat < npos.toNat := by omega
      rw [reasonFor, if_pos hempty] at hbecause
      rw [stepFrom, if_pos hempty]
      exact .of_some rfl (Scan.Reason.emptyMatchMessage_eq hstart) hbecause hstart hopen rfl
    · rw [reasonFor, if_neg hempty] at hbecause
      rw [stepFrom, if_neg hempty]
      exact .of_none rfl hbecause (.inr (by simp))

end GroupScan

/-! ## Runs of both kinds of scans -/

namespace Scan

/-- Whatever the engine answers, a scan leaves one line in the log at most, and at levels below 6
none. The line tells the position whose search found nothing or, in a scan for groups, the place in
the buffer at which a match is empty, and it is there iff this is how the scan ended; calls that
yield a match, failures, matches that end the scan, and calls after the end write nothing. -/
theorem one_reason_logged {n : ℕ} (hE : E.Sound code (E.groups code + 1)) (hn : n < npos.toNat) :
    (∀ text : Bytes, text.length = n → ∀ calls, ∃ turns,
      run WholeScan.kind.next (WholeScan.ofText (.ofCode code) text) calls = .ok turns ∧
      run WholeScan.kind.call (WholeScan.ofText (.ofCode code) text) calls
        = .ok (turns.map (Turn.map WholeScan.kind.tell)) ∧
      Accountable WholeScan.kind WholeScan.because? (Bytes.ascii "pcre/stream") n turns) ∧
    ∀ buffers : List Bytes, (∀ b ∈ buffers, b.length = n) → ∃ turns,
      run GroupScan.kind.next (GroupScan.ofLength (.ofCode code) n) buffers = .ok turns ∧
      run GroupScan.kind.call (GroupScan.ofLength (.ofCode code) n) buffers
        = .ok (turns.map (Turn.map GroupScan.kind.tell)) ∧
      Accountable GroupScan.kind GroupScan.because? (Bytes.ascii "pcre/group_stream") n turns := by
  refine ⟨?_, fun buffers hbuffers => ?_⟩
  · rintro text rfl calls
    have hcalls : ∀ c ∈ calls, True := fun _ _ => trivial
    obtain ⟨turns, hrun, haccountable⟩ := (WholeScan.course hE hn).accountable
      (fun k hk c _ step hnext => WholeScan.explained hE hk hn c hnext) (by decide) hcalls
    exact ⟨turns, hrun, run_call_of_run hrun, haccountable⟩
  · obtain ⟨turns, hrun, haccountable⟩ := (GroupScan.course hE hn).accountable
      (fun k hk buffer hbuffer step hnext => by
        subst hbuffer
        exact GroupScan.explained hE hk hn hnext) (by decide) hbuffers
    exact ⟨turns, hrun, run_call_of_run hrun, haccountable⟩

/-- In `abcd`, an engine that looks ahead finds nothing from position 2 on; in `xa`, the second
match of `x|\z` is empty, at the end; in `C3 A9` and `61`, the second search for a character
fails. -/
theorem one_reason_logged_in_abcd :
    lookahead.Sound () (lookahead.groups () + 1) ∧ 4 < npos.toNat ∧
    (∃ turns, run WholeScan.kind.next
        (WholeScan.ofText (E := lookahead) (.ofCode ()) (Bytes.ascii "abcd"))
        [.next, .nextText, .next, .next] = .ok turns ∧
      logged [6, 6, 6, 6] turns = Bytes.ascii "[pcre/stream] no match after offset 2\n" ∧
      logged [5, 5, 5, 5] turns = []) ∧
    sample.Sound (.orEnd 120) (sample.groups (.orEnd 120) + 1) ∧ 2 < npos.toNat ∧
    (∀ b ∈ [Bytes.ascii "xa", Bytes.ascii "xa", Bytes.ascii "xa"], b.length = 2) ∧
    (∃ turns, run GroupScan.kind.next (GroupScan.ofLength (E := sample) (.ofCode (.orEnd 120)) 2)
        [Bytes.ascii "xa", Bytes.ascii "xa", Bytes.ascii "xa"] = .ok turns ∧
      logged [6, 7, 8] turns = Bytes.ascii "[pcre/group_stream] empty match at offset 2\n") ∧
    oneCharacter.Sound () (oneCharacter.groups () + 1) ∧ 3 < npos.toNat ∧
    ∃ turns, run WholeScan.kind.next
        (WholeScan.ofText (E := oneCharacter) (.ofCode ()) (.bytes [0xc3, 0xa9, 0x61]))
        [.next, .next, .next] = .ok turns ∧
      turns.map (·.step.outcome) = [.found ⟨0, 2, some ⟨0, 2⟩⟩, .failed (.ofCode (-22)), .nothing] ∧
      logged [6, 6, 6] turns = [] := by
  have hlookahead := lookahead_sound (lookahead.groups () + 1)
  have hsample := sample_sound (.orEnd 120) (sample.groups (.orEnd 120) + 1)
  have hcharacter := oneCharacter_sound (oneCharacter.groups () + 1)
  have hbuffers : ∀ b ∈ [Bytes.ascii "xa", Bytes.ascii "xa", Bytes.ascii "xa"], b.length = 2 := by
    decide
  obtain ⟨hwhole, -⟩ := one_reason_logged hlookahead (by decide : 4 < npos.toNat)
  obtain ⟨-, hgroup⟩ := one_reason_logged hsample (by decide : 2 < npos.toNat)
  obtain ⟨hfails, -⟩ := one_reason_logged hcharacter (by decide : 3 < npos.toNat)
  obtain ⟨turns, hrun, -, hlog⟩ := hwhole (Bytes.ascii "abcd") rfl [.next, .nextText, .next, .next]
  obtain ⟨turns', hrun', -, hlog'⟩ := hgroup _ hbuffers
  obtain ⟨turns'', hrun'', -, hlog''⟩ := hfails [0xc3, 0xa9, 0x61] rfl [.next, .next, .next]
  refine ⟨hlookahead, by decide, ⟨turns, hrun, ?_, hlog.logged_of_lt _ (by simp)⟩, hsample,
    by decide, hbuffers, ⟨turns', hrun', ?_⟩, hcharacter, by decide, turns'', hrun'', ?_, ?_⟩
  · cases hrun
    -- the third call has the reason
    exact hlog.logged_eq_line _ (List.mem_of_getElem? (i := 2) rfl) (.noMatch 2) rfl _ rfl
      (by simp)
  · cases hrun'
    exact hlog'.logged_eq_line _ (List.mem_of_getElem? (i := 1) rfl) (.emptyMatch 2) rfl _ rfl
      (by simp)
  · cases hrun''
    decide +kernel
  · cases hrun''
    exact hlog''.logged_of_ended _ (List.mem_of_getElem? (i := 1) rfl) rfl nofun _

end Scan

end PatternScan
