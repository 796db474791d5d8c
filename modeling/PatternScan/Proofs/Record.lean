import PatternScan.Proofs.Progress

/-!
# Records tell what the engine reported

A record has a span for each group, in order, and each span tells its slot of the engine's reply:
unset if the group took no part in the match, and otherwise the offsets of the slot behind the
position of the search, with the bytes between them. Three things live here:

* `Span.reread`, a span with the bytes that lie between its ends in a buffer;
* `Span.Tells`, what a span has to say about a slot;
* `lookahead`, a small engine whose matches have groups outside the whole match and unset groups on
  both sides of set ones.
-/

namespace PatternScan

variable {E : Engine} {code : E.Code}

/-! ## Spans over a buffer -/

/-- The span with the bytes that lie between its ends in a buffer, unless it is unset. -/
def Span.reread {α : Type} (buffer : Bytes) (s : Span α) : Span Bytes :=
  if s.isDefined then ⟨s.start, s.stop, some (buffer.slice s.start.toNat s.stop.toNat)⟩ else .unset

/-- What a span of `buffer` tells of a slot for a search from position `k`. -/
structure Span.Tells (span : Span Bytes) (slot : Slot) (buffer : Bytes) (k : ℕ) : Prop where
  unset_iff : span = .unset ↔ slot.isSet = false
  start_eq : slot.isSet = true → span.start.toNat = k + slot.start.toNat
  stop_eq : slot.isSet = true → span.stop.toNat = k + slot.stop.toNat
  bounds : slot.isSet = true → span.start ≤ span.stop ∧ span.stop.toNat ≤ buffer.length
  text_eq : slot.isSet = true →
    span.text = some (buffer.slice span.start.toNat span.stop.toNat)

/-- A slice of the rest from `k` on is a slice of the whole. -/
lemma Bytes.slice_drop (buffer : Bytes) (k start stop : ℕ) :
    Bytes.slice (buffer.drop k) start stop = buffer.slice (k + start) (k + stop) := by
  rw [slice, slice, List.drop_drop, Nat.add_sub_add_left]

namespace Slot

variable {s : Slot} {buffer : Bytes} {k n : ℕ}

lemma isDefined_behind (hset : s.isSet = true) (hs : s.Within (n - k)) (hk : k ≤ n)
    (hn : n < npos.toNat) : (s.behind k).isDefined = true := by
  obtain ⟨hle, hstop⟩ := hs.bounds hset
  have hne : UInt64.ofNat (k + s.start.toNat) ≠ npos := ofNat_ne_npos (by omega)
  rw [behind_of_isSet hset]
  simpa [Span.isDefined] using hne

/-- The span of a slot reads the bytes between its ends, of whichever buffer. -/
lemma read_behind (hs : s.Within (n - k)) (hk : k ≤ n) (hn : n < npos.toNat) (buffer : Bytes) :
    (s.behind k).read buffer = (s.behind k).reread buffer := by
  by_cases hset : s.isSet = true
  · obtain ⟨hle, hstop⟩ := hs.bounds hset
    obtain ⟨hstarts, hstops⟩ := behind_bounds hset hs hk hn
    have hsize : k + s.start.toNat + (s.stop.toNat - s.start.toNat) = k + s.stop.toNat := by omega
    rw [Span.reread, if_pos (isDefined_behind hset hs hk hn), hstarts, hstops,
      behind_of_isSet hset, Span.read, Span.map, Option.map_some, Extent.read, hsize]
  · rw [behind, if_neg hset]
    rfl

/-- The span of a slot tells of it. -/
lemma tells_behind (hs : s.Within (buffer.length - k)) (hk : k ≤ buffer.length)
    (hn : buffer.length < npos.toNat) : ((s.behind k).read buffer).Tells s buffer k := by
  by_cases hset : s.isSet = true
  · obtain ⟨hle, hstop⟩ := hs.bounds hset
    obtain ⟨hstarts, hstops⟩ := behind_bounds hset hs hk hn
    have hover : (s.behind k).read buffer = ⟨(s.behind k).start, (s.behind k).stop,
        some (buffer.slice (s.behind k).start.toNat (s.behind k).stop.toNat)⟩ := by
      rw [read_behind hs hk hn, Span.reread, if_pos (isDefined_behind hset hs hk hn)]
    rw [hover]
    refine ⟨?_, fun _ => hstarts, fun _ => hstops, fun _ => ⟨?_, ?_⟩, fun _ => rfl⟩
    · -- a set slot has a text, and the unset span has none
      rw [hset]
      simp [Span.unset]
    · rw [UInt64.le_iff_toNat_le, hstarts, hstops]
      omega
    · rw [hstops]
      omega
  · have hunset : (s.behind k).read buffer = .unset := by
      rw [behind, if_neg hset]
      rfl
    exact {
      unset_iff := ⟨fun _ => Bool.not_eq_true _ ▸ hset, fun _ => hunset⟩
      start_eq := fun h => absurd h hset
      stop_eq := fun h => absurd h hset
      bounds := fun h => absurd h hset
      text_eq := fun h => absurd h hset }

end Slot

/-- What a match tells of a group is what the span behind the position tells. -/
lemma Match.text_drop {m : Match} {buffer : Bytes} {k i : ℕ} {s : Slot}
    (hslot : m.slot i = .ok s) (hs : s.Within (buffer.length - k)) :
    m.text (buffer.drop k) i = .ok ((s.behind k).read buffer).text := by
  rw [Match.text, hslot]
  by_cases hset : s.isSet = true
  · obtain ⟨hle, hstop⟩ := hs.bounds hset
    have hcheck : decide (s.start ≤ s.stop) = true := by
      rw [decide_eq_true_iff, UInt64.le_iff_toNat_le]
      exact hle
    have hsize : k + s.start.toNat + (s.stop.toNat - s.start.toNat) = k + s.stop.toNat := by omega
    show (if s.isSet = true then _ else _) = _
    rw [if_pos hset, hcheck, Bytes.slice_drop, Slot.behind_of_isSet hset, Span.read, Span.map,
      Option.map_some, Extent.read, hsize]
    rfl
  · show (if s.isSet = true then _ else _) = _
    rw [if_neg hset, Slot.behind, if_neg hset]
    rfl

/-- The span of a slot in the subject that was searched, or in another one. -/
def Slot.read (s : Slot) (subject : Bytes) : Span Bytes :=
  ⟨s.start, s.stop, if s.isSet then some (subject.slice s.start.toNat s.stop.toNat) else none⟩

namespace Match.Fits

variable {m : Match} {buffer : Bytes} {k i : ℕ}

/-- A match that fits may be shown over any subject, one span for each slot. -/
lemma record_eq {groups n : ℕ} (hm : m.Fits groups n) (subject : Bytes) :
    m.record subject = .ok (m.slots.map (Slot.read · subject)) := by
  rw [Match.record, hm.size_eq, ← hm.slots_length]
  refine mapM_range_eq_ok_map fun i hi => ?_
  have hwithin := hm.within _ (List.getElem_mem hi)
  unfold Match.span Match.text
  rw [hm.slot_eq hi]
  by_cases hset : m.slots[i].isSet = true
  · have hcheck : decide (m.slots[i].start ≤ m.slots[i].stop) = true :=
      decide_eq_true (hwithin hset).1
    simp only [bind, Except.bind, pure, Except.pure, hset, hcheck, if_true, Breach.check_true,
      Slot.read]
  · simp only [bind, Except.bind, pure, Except.pure, hset, Slot.read]
    rfl

/-- What a match that fits tells of a group, behind the position of its search. -/
lemma tells (hm : m.Fits (E.groups code) (buffer.length - k)) (hk : k ≤ buffer.length)
    (hn : buffer.length < npos.toNat) (hi : i < E.groups code + 1) :
    ∃ slot, m.slots[i]? = some slot ∧ ((slot.behind k).read buffer).Tells slot buffer k ∧
      m.text (buffer.drop k) i = .ok ((slot.behind k).read buffer).text := by
  have hi' : i < m.slots.length := by rw [hm.slots_length]; exact hi
  have hwithin := hm.within _ (List.getElem_mem hi')
  exact ⟨m.slots[i], List.getElem?_eq_getElem hi', Slot.tells_behind hwithin hk hn,
    Match.text_drop (hm.slot_eq hi') hwithin⟩

end Match.Fits

/-- The slots of a match that was found are those of the engine's reply. -/
lemma Compiled.slots_of_find {subject : Bytes} {m : Match}
    (hm : (Compiled.ofCode code).find subject = .ok (some m)) :
    m.slots = (E.search code subject (E.groups code + 1)).slots := by
  obtain ⟨-, rfl⟩ := Match.settle_eq_some_iff.mp hm
  rfl

/-- The match that was found in the rest of `buffer` from `k` on tells of its groups what the record
behind `k` tells. -/
structure Record.TellsMatch (r : Record Bytes) (m : Match) (code : E.Code) (buffer : Bytes)
    (k : ℕ) : Prop where
  found : (Compiled.ofCode code).find (buffer.drop k) = .ok (some m)
  slots_eq : m.slots = (E.search code (buffer.drop k) (E.groups code + 1)).slots
  length_eq : r.length = E.groups code + 1
  tells : ∀ i < E.groups code + 1, ∃ slot span, m.slots[i]? = some slot ∧ r[i]? = some span ∧
    span.Tells slot buffer k ∧ m.text (buffer.drop k) i = .ok span.text

/-- The record of a match that was found tells of it. -/
lemma Record.TellsMatch.of_find {buffer : Bytes} {k : ℕ} {m : Match}
    (hE : E.Sound code (E.groups code + 1)) (hk : k ≤ buffer.length)
    (hn : buffer.length < npos.toNat)
    (hfind : (Compiled.ofCode code).find (buffer.drop k) = .ok (some m)) :
    (Record.read (m.slots.map (Slot.behind · k)) buffer).TellsMatch m code buffer k := by
  have hm := Compiled.find_drop_fits hE hn hfind
  refine ⟨hfind, Compiled.slots_of_find hfind, ?_, fun i hi => ?_⟩
  · rw [Record.read, List.length_map, List.length_map, hm.slots_length]
  · obtain ⟨slot, hslot, htells, htext⟩ := hm.tells hk hn hi
    refine ⟨slot, _, hslot, ?_, htells, htext⟩
    rw [Record.read, List.getElem?_map, List.getElem?_map, hslot]
    rfl

/-! ## Turns of a run -/

namespace Scan

variable {σ κ α : Type}

lemma Outcome.map_eq_found {β : Type} {o : Outcome α} {f : α → β} {b : β}
    (h : o.map f = .found b) : ∃ a, o = .found a ∧ f a = b := by
  cases o with
  | found a =>
    cases h
    exact ⟨a, rfl, rfl⟩
  | nothing => cases h
  | failed failure => cases h

/-- Every turn of a run is an allowed call from one of its places. -/
lemma Course.turn_place {K : Kind σ κ α} {Shape : Span Extent → Prop} {place : ℕ → σ}
    {Allowed : κ → Prop} {n k : ℕ} (h : Course K Shape place Allowed n) {calls : List κ}
    (hcalls : ∀ c ∈ calls, Allowed c) (hk : k ≤ n) {turns : List (Turn σ κ α)}
    (hrun : Scan.run K.next (place k) calls = .ok turns) {t : Turn σ κ α} (ht : t ∈ turns) :
    ∃ j ≤ n, t.scan = place j ∧ Allowed t.call ∧ K.next (place j) t.call = .ok t.step := by
  induction calls generalizing k turns with
  | nil =>
    cases hrun
    exact absurd ht List.not_mem_nil
  | cons c calls ih =>
    have hc := hcalls c List.mem_cons_self
    obtain ⟨step, hstep, hmoves⟩ := h.moves k hk c hc
    obtain ⟨j, hj, hplace⟩ := hmoves.exists_place
    rw [run_cons hstep, hplace] at hrun
    rcases hrest : Scan.run K.next (place j) calls with b | rest
    · rw [hrest] at hrun
      cases hrun
    · rw [hrest] at hrun
      cases hrun
      rcases List.mem_cons.mp ht with rfl | hmem
      · exact ⟨k, hk, rfl, hc, hstep⟩
      · exact ih (fun c' hc' => hcalls c' (List.mem_cons_of_mem c hc')) hj hrest hmem

end Scan

/-! ## The two kinds of scans -/

namespace GroupScan

variable {buffer : Bytes} {k : ℕ}

/-- A record is yielded for a match only. -/
lemma found_of_next (hE : E.Sound code (E.groups code + 1)) (hk : k ≤ buffer.length)
    (hn : buffer.length < npos.toNat) {step : Scan.Step (GroupScan E) (Record Extent)}
    (hnext : next (ofPosition (.ofCode code) buffer.length k) buffer = .ok step)
    {record : Record Extent} (hfound : step.outcome = .found record) :
    ∃ m, (Compiled.ofCode code).find (buffer.drop k) = .ok (some m) ∧
      record = m.slots.map (Slot.behind · k) := by
  rcases Nat.lt_or_eq_of_le hk with hlt | rfl
  · rw [next_of_lt hE hlt hn] at hnext
    cases hnext
    rcases hfind : (Compiled.ofCode code).find (buffer.drop k) with failure | _ | m
    · rw [hfind] at hfound
      cases hfound
    · rw [hfind] at hfound
      cases hfound
    · rw [hfind, stepFrom] at hfound
      split_ifs at hfound
      cases hfound
      exact ⟨m, rfl, rfl⟩
  · rw [next_at_end buffer hn] at hnext
    cases hnext
    cases hfound

end GroupScan

namespace WholeScan

variable {text : Bytes} {k : ℕ}

/-- A span is yielded for a match only. -/
lemma found_of_next (hE : E.Sound code (E.groups code + 1)) (hk : k ≤ text.length)
    (hn : text.length < npos.toNat) {step : Scan.Step (WholeScan E) (Span Extent)}
    (hnext : next (ofPosition (.ofCode code) text k) = .ok step) {span : Span Extent}
    (hfound : step.outcome = .found span) :
    ∃ m, (Compiled.ofCode code).find (text.drop k) = .ok (some m) ∧
      span = m.whole.behind k := by
  rcases Nat.lt_or_eq_of_le hk with hlt | rfl
  · rw [next_of_lt hE hlt hn] at hnext
    cases hnext
    rcases hfind : (Compiled.ofCode code).find (text.drop k) with failure | _ | m
    · rw [hfind] at hfound
      cases hfound
    · rw [hfind] at hfound
      cases hfound
    · rw [hfind] at hfound
      cases hfound
      exact ⟨m, rfl, rfl⟩
  · rw [next_at_end hn] at hnext
    cases hnext
    cases hfound

end WholeScan

namespace Scan

open Session (Finding)

/-- The turns of a run of calls are those of the run of its steps, with their results told. -/
lemma run_call_of_run {σ κ α : Type} {K : Kind σ κ α} {s : σ} {calls : List κ}
    {turns : List (Turn σ κ α)} (hrun : run K.next s calls = .ok turns) :
    run K.call s calls = .ok (turns.map (Turn.map K.tell)) := by
  rw [K.run_call, hrun]
  rfl

/-- Every record of a run tells of all groups, in order, what the engine reported for the rest of
the buffer from the position of its call, and every span of a run tells so of the whole match. -/
theorem findings_tell_groups {n : ℕ} (hE : E.Sound code (E.groups code + 1))
    (hn : n < npos.toNat) :
    (∀ buffers : List Bytes, (∀ b ∈ buffers, b.length = n) → ∃ turns,
      run GroupScan.kind.call (GroupScan.ofLength (.ofCode code) n) buffers = .ok turns ∧
      ∀ t ∈ turns, ∀ r, t.step.outcome = .found (.record r) →
        ∃ m, r.TellsMatch m code t.call t.scan.position.toNat) ∧
    ∀ text : Bytes, text.length = n → ∀ calls, ∃ turns,
      run WholeScan.kind.call (WholeScan.ofText (.ofCode code) text) calls = .ok turns ∧
      ∀ t ∈ turns, ∀ span, t.step.outcome = .found (.span span) →
        ∃ m slot, (Compiled.ofCode code).find (text.drop t.scan.position.toNat) = .ok (some m) ∧
          (E.search code (text.drop t.scan.position.toNat) (E.groups code + 1)).slots.head?
            = some slot ∧ slot.isSet = true ∧
          span.Tells slot text t.scan.position.toNat ∧
          m.text (text.drop t.scan.position.toNat) 0 = .ok span.text := by
  refine ⟨fun buffers hbuffers => ?_, ?_⟩
  · have hcourse := GroupScan.course hE hn
    obtain ⟨turns, hrun, -⟩ := hcourse.run hbuffers (Nat.zero_le n)
    refine ⟨turns.map (Turn.map GroupScan.kind.tell), run_call_of_run hrun, ?_⟩
    intro t' ht' r hr
    obtain ⟨t, ht, rfl⟩ := List.mem_map.mp ht'
    obtain ⟨k, hk, hplace, hlength, hnext⟩ :=
      hcourse.turn_place hbuffers (Nat.zero_le n) hrun ht
    obtain ⟨record, hfound, hread⟩ := Outcome.map_eq_found hr
    cases hread
    show ∃ m, (Record.read record t.call).TellsMatch m code t.call t.scan.position.toNat
    rw [hplace, GroupScan.position_ofPosition hk hn]
    subst hlength
    obtain ⟨m, hfind, rfl⟩ := GroupScan.found_of_next hE hk hn hnext hfound
    exact ⟨m, .of_find hE hk hn hfind⟩
  · rintro text rfl calls
    have hcourse := WholeScan.course hE hn
    have hcalls : ∀ call ∈ calls, True := fun _ _ => trivial
    obtain ⟨turns, hrun, -⟩ := hcourse.run hcalls (Nat.zero_le text.length)
    refine ⟨turns.map (Turn.map WholeScan.kind.tell), run_call_of_run hrun, ?_⟩
    intro t' ht' span hspan
    obtain ⟨t, ht, rfl⟩ := List.mem_map.mp ht'
    obtain ⟨k, hk, hplace, -, hnext⟩ :=
      hcourse.turn_place hcalls (Nat.zero_le text.length) hrun ht
    obtain ⟨found, hfound, hread⟩ := Outcome.map_eq_found hspan
    obtain ⟨m, hfind, rfl⟩ := WholeScan.found_of_next hE hk hn hnext hfound
    -- of the two calls, only one tells a span
    have hspan' : span = (m.whole.behind k).read text := by
      change WholeScan.tell t.scan t.call (m.whole.behind k) = .span span at hread
      rw [hplace] at hread
      rcases hcall : t.call with _ | _
      · rw [hcall] at hread
        cases hread
        rfl
      · rw [hcall] at hread
        cases hread
    have hm := Compiled.find_drop_fits hE hn hfind
    have hwhole := hm.wholeFits
    have hhead : m.slots.head? = some m.whole := by
      obtain ⟨w, rest, hslots, -, -⟩ := hm.exists_slots
      rw [Match.whole, hslots]
      rfl
    rw [show (t.map WholeScan.kind.tell).scan = t.scan from rfl, hplace,
      WholeScan.position_ofPosition hk hn, hspan']
    refine ⟨m, m.whole, hfind, ?_, hwhole.isSet, Slot.tells_behind hwhole.within hk hn,
      Match.text_drop hwhole.slot_eq hwhole.within⟩
    rw [← Compiled.slots_of_find hfind, hhead]

end Scan

/-! ## An engine that looks ahead

It knows one pattern, `(?s)(\b\B)?.(\b\B)?(?=(..))(\b\B)?`. It matches one byte wherever two more
follow: these are the third group, which so lies outside the whole match; no other group takes part.
-/

namespace Lookahead

/-- The slot of a group of a match. -/
def slot : ℕ → Slot
  | 0 => ⟨0, 1⟩
  | 3 => ⟨1, 3⟩
  | _ => .unset

/-- The reply for a subject. -/
def search (subject : Bytes) (count : ℕ) : Reply :=
  if 3 ≤ subject.length then SamplePattern.reply 4 count slot
  else ⟨Reply.noMatchCode, List.replicate count .unset⟩

lemma slot_within {n : ℕ} (hn : 3 ≤ n) (i : ℕ) : (slot i).Within n := by
  intro hset
  unfold slot at hset ⊢
  split at hset
  · exact ⟨by decide, Nat.le_trans (by decide) hn⟩
  · exact ⟨by decide, Nat.le_trans (by decide) hn⟩
  · cases hset

lemma search_sound (subject : Bytes) (count : ℕ) :
    (search subject count).Sound subject.length count := by
  by_cases hlength : 3 ≤ subject.length
  · rw [search, if_pos hlength]
    exact SamplePattern.reply_sound rfl (slot_within hlength)
  · rw [search, if_neg hlength]
    exact Reply.without_sound (by decide) _ _

end Lookahead

/-- The engine that looks ahead. -/
def lookahead : Engine where
  Code := Unit
  compile pattern _ :=
    if pattern = Bytes.ascii "(?s)(\\b\\B)?.(\\b\\B)?(?=(..))(\\b\\B)?" then .ok ()
    else .error (186, 0)
  groups _ := 4
  search _ subject count := Lookahead.search subject count

lemma lookahead_sound (count : ℕ) : lookahead.Sound () count :=
  fun subject _ => Lookahead.search_sound subject count

namespace Scan

/-- In `abcd`, two records and two spans tell of a group behind the whole match. -/
theorem findings_tell_groups_of_abcd :
    lookahead.Sound () (lookahead.groups () + 1) ∧ 4 < npos.toNat ∧
      (∀ b ∈ [Bytes.ascii "abcd", Bytes.ascii "abcd"], b.length = 4) ∧
      (∃ turns, run GroupScan.kind.call (GroupScan.ofLength (E := lookahead) (.ofCode ()) 4)
          [Bytes.ascii "abcd", Bytes.ascii "abcd"] = .ok turns ∧
        turns.map (·.step.outcome)
          = [.found (.record [⟨0, 1, some (Bytes.ascii "a")⟩, .unset, .unset,
                ⟨1, 3, some (Bytes.ascii "bc")⟩, .unset]),
              .found (.record [⟨1, 2, some (Bytes.ascii "b")⟩, .unset, .unset,
                ⟨2, 4, some (Bytes.ascii "cd")⟩, .unset])] ∧
        ∀ t ∈ turns, ∀ r, t.step.outcome = .found (.record r) →
          ∃ m, r.TellsMatch (E := lookahead) m () t.call t.scan.position.toNat) ∧
      ∃ turns, run WholeScan.kind.call
          (WholeScan.ofText (E := lookahead) (.ofCode ()) (Bytes.ascii "abcd")) [.next, .next]
            = .ok turns ∧
        turns.map (·.step.outcome)
          = [.found (.span ⟨0, 1, some (Bytes.ascii "a")⟩),
              .found (.span ⟨1, 2, some (Bytes.ascii "b")⟩)] ∧
        ∀ t ∈ turns, ∀ span, t.step.outcome = .found (.span span) →
          ∃ m slot, (Compiled.ofCode (E := lookahead) ()).find
              ((Bytes.ascii "abcd").drop t.scan.position.toNat) = .ok (some m) ∧
            (lookahead.search () ((Bytes.ascii "abcd").drop t.scan.position.toNat) 5).slots.head?
              = some slot ∧ slot.isSet = true ∧
            span.Tells slot (Bytes.ascii "abcd") t.scan.position.toNat ∧
            m.text ((Bytes.ascii "abcd").drop t.scan.position.toNat) 0 = .ok span.text := by
  have hE := lookahead_sound (lookahead.groups () + 1)
  have hn : 4 < npos.toNat := by decide
  have hbuffers : ∀ b ∈ [Bytes.ascii "abcd", Bytes.ascii "abcd"], b.length = 4 := by decide
  obtain ⟨hgroup, hwhole⟩ := findings_tell_groups hE hn
  obtain ⟨turns, hrun, hrecords⟩ := hgroup _ hbuffers
  obtain ⟨turns', hrun', hspans⟩ := hwhole (Bytes.ascii "abcd") rfl [.next, .next]
  refine ⟨hE, hn, hbuffers, ⟨turns, hrun, ?_, hrecords⟩, turns', hrun', ?_, hspans⟩
  · cases hrun
    rfl
  · cases hrun'
    rfl

end Scan

end PatternScan
