import PatternScan.Proofs.Interleaving
import PatternScan.Proofs.Record
import PatternScan.Proofs.Restart

/-!
# Buffers that change under a scan

A scan for whole matches reads a copy of its text and a scan for groups the buffer itself, so they
react in opposite ways to a buffer that is overwritten. To the first it makes no difference, neither
to its steps nor to what it told before. The second keeps all offsets it told, reads the texts
between them anew, and goes on as a new scan of what is left of the buffer by then would. Three
things live here:

* `State.run_tells`, the induction over a run that keeps track of what was told;
* `State.Ignores`, what overwriting means to a scan for whole matches;
* `State.Follows`, what it means to a scan for groups.
-/

namespace PatternScan

variable {E : Engine} {code : E.Code}

/-! ## Spans read anew -/

/-- The texts of a span do not matter to what lies between its ends. -/
lemma Span.reread_reread {α : Type} (s : Span α) (old new : Bytes) :
    (s.reread old).reread new = s.reread new := by
  by_cases hdefined : s.isDefined = true
  · have hold : s.reread old = ⟨s.start, s.stop, some (old.slice s.start.toNat s.stop.toNat)⟩ :=
      if_pos hdefined
    rw [hold, reread, reread, if_pos hdefined]
    exact if_pos hdefined
  · have hold : s.reread old = .unset := if_neg hdefined
    have hnew : s.reread new = .unset := if_neg hdefined
    rw [hold, hnew]
    rfl

namespace Record

/-- Where the whole match of a record starts. -/
def start {α : Type} (r : Record α) : ℕ := (r.headD .unset).start.toNat

lemma start_read (r : Record Extent) (buffer : Bytes) : (Record.read r buffer).start = r.start := by
  cases r <;> rfl

/-- A record of a match reads anew what lies between the ends that it told. -/
lemma read_behind {slots : List Slot} {k n : ℕ} (hslots : ∀ s ∈ slots, s.Within (n - k))
    (hk : k ≤ n) (hn : n < npos.toNat) (old new : Bytes) :
    Record.read (slots.map (Slot.behind · k)) new
      = List.map (Span.reread new) (Record.read (slots.map (Slot.behind · k)) old) := by
  rw [Record.read, Record.read, List.map_map, List.map_map, List.map_map]
  refine List.map_congr_left fun s hs => ?_
  show (s.behind k).read new = ((s.behind k).read old).reread new
  rw [Slot.read_behind (hslots s hs) hk hn, Slot.read_behind (hslots s hs) hk hn,
    Span.reread_reread]

end Record

namespace WholeScan

variable {scan : WholeScan E} {step : Scan.Step (WholeScan E) (Span Extent)}

lemma text_settle {answer : Except Failure (Option Match)}
    (h : scan.settle answer = .ok step) : step.scan.text = scan.text := by
  rcases answer with failure | _ | m
  · cases h
    rfl
  · cases h
    rfl
  · rw [settle] at h
    rcases hspan : scan.cursor.span scan.text m 0 with b | span
    · rw [hspan] at h
      cases h
    · rcases hstart : m.start 0 with b | start
      · rw [hspan, hstart] at h
        cases h
      · rw [hspan, hstart] at h
        cases h
        rfl

/-- A step keeps the text. -/
lemma text_next (h : scan.next = .ok step) : step.scan.text = scan.text := by
  rw [next] at h
  rcases hrest : scan.rest? with b | _ | rest
  · rw [hrest] at h
    cases h
  · rw [hrest] at h
    cases h
    rfl
  · rw [hrest] at h
    exact text_settle h

end WholeScan

namespace Session

/-! ## Commands that work on scans -/

namespace Command

/-- Whether the command overwrites a buffer. -/
def isOverwrite : Command → Bool
  | .overwrite _ _ _ => true
  | _ => false

lemma overwrites_none (c : Command) : c.overwrites none = false := by
  cases c <;> rfl

lemma not_isOverwrite_of_concerns {c : Command} {name : Name} (h : c.concerns name = true) :
    c.isOverwrite = false := by
  cases c <;> first | rfl | cases h

end Command

namespace Answer

/-- The span that a step told. -/
def span? : Answer → Option (Span Bytes)
  | .stepped (.found (.span span)) _ _ => some span
  | _ => none

/-- The record that a step told. -/
def record? : Answer → Option (Record Bytes)
  | .stepped (.found (.record r)) _ _ => some r
  | _ => none

/-- The answer to a step of which a report tells. -/
def ofReport (r : Scan.Report) : Answer := .stepped r.outcome r.position r.isExhausted

end Answer

namespace State

variable {s : State E} {c : Command} {cs : List Command} {name buffer : Name} {h : Handle}

/-- Whatever is done, a buffer keeps its length. -/
lemma Effect.exists_buffer {s' : State E} (heffect : Effect s c s') {old : Bytes}
    (hold : s.buffers.get? buffer = some old) :
    ∃ current, s'.buffers.get? buffer = some current ∧ current.length = old.length := by
  by_cases hkept : c.overwrites (some (.buffer buffer)) = false
  · exact ⟨old, heffect.buffer_eq hold hkept, rfl⟩
  · cases heffect with
    | @overwritten other offset text old' found inside =>
      have hother : buffer = other := by
        simpa [Command.overwrites] using hkept
      subst hother
      rw [hold] at found
      cases found
      exact ⟨_, Shelf.get?_put_self _ _ _, Bytes.overwrite_length inside⟩
    | created => exact absurd rfl hkept
    | none | level | compiled | dropped | tookOver | exchanged | stored | opened | advanced =>
      exact ⟨old, hold, rfl⟩

/-- Nothing that works on scans keeps one with a text of its own from going on. -/
lemma spared_of_isScanWork {asks : Command → Bool} (hcs : ∀ c ∈ cs, c.isScanWork = true)
    (hlive : s.registry.isLive h = true) : Spared s asks name h none cs := by
  intro i _ _
  have htake : ∀ d ∈ cs.take i, d.isScanWork = true := fun d hd => hcs d (List.mem_of_mem_take hd)
  refine ⟨?_, fun d hd => ⟨Command.opens_of_isScanWork (htake d hd) name, d.overwrites_none⟩⟩
  refine run_preserves (P := fun t => t.registry.isLive h = true) hlive fun t ht d hd => ?_
  rw [(step_effect t d).registry_eq (htake d hd)]
  exact ht

/-! ## What a run tells -/

/-- A relation between a state and what was told so far holds after a run if each command that is
asked about adds what its answer tells and no other command matters. -/
lemma run_tells {α : Type} {P : State E → List α → Prop} {asks : Command → Bool}
    {tell? : Answer → Option α} {told : List α} (hs : P s told)
    (hasks : ∀ s told, P s told → ∀ c ∈ cs, asks c = true →
      P (s.step c).state (told ++ (tell? (s.step c).answer).toList))
    (hother : ∀ s told, P s told → ∀ c ∈ cs, asks c = false → P (s.step c).state told) :
    P (s.run cs).2 (told ++ (s.answersTo asks cs).filterMap tell?) := by
  induction cs generalizing s told with
  | nil =>
    show P s (told ++ [])
    rw [List.append_nil]
    exact hs
  | cons c cs ih =>
    have hrest : ∀ told, P (s.step c).state told → P ((s.step c).state.run cs).2
        (told ++ ((s.step c).state.answersTo asks cs).filterMap tell?) := fun told hs =>
      ih hs (fun s told hs d hd => hasks s told hs d (List.mem_cons_of_mem c hd))
        fun s told hs d hd => hother s told hs d (List.mem_cons_of_mem c hd)
    by_cases hc : asks c = true
    · -- what the command tells stands in front of what the rest tells
      have hnext := hrest _ (hasks s told hs c List.mem_cons_self hc)
      have htold : ((s.step c).answer :: (s.step c).state.answersTo asks cs).filterMap tell?
          = (tell? (s.step c).answer).toList
              ++ ((s.step c).state.answersTo asks cs).filterMap tell? := by
        rw [List.filterMap_cons]
        rcases tell? (s.step c).answer with _ | a <;> rfl
      rw [answersTo_cons_of_pos hc, htold, ← List.append_assoc]
      exact hnext
    · have hc' : asks c = false := eq_false_of_ne_true hc
      rw [answersTo_cons_of_neg hc']
      exact hrest told (hother s told hs c List.mem_cons_self hc')

/-! ## A scan with a copy of its own -/

/-- A scan for whole matches that is open and still has all spans that it told. -/
structure Remembers (s : State E) (name : Name) (h : Handle) (told : List (Span Bytes)) : Prop where
  isLive : s.registry.isLive h = true
  exists_scan : ∃ scan kept, s.scans.get? name = some (.whole h scan kept) ∧
    kept.map scan.read = told

namespace Remembers

variable {told : List (Span Bytes)}

/-- A step of the scan remembers the span that it tells. -/
lemma step (hs : Remembers s name h told) (hc : c.steps name = true) :
    Remembers (s.step c).state name h (told ++ (Answer.span? (s.step c).answer).toList) := by
  obtain ⟨hlive, scan, kept, hscan, rfl⟩ := hs
  rw [step_eq_settle hc hscan hlive, OpenScan.next]
  rcases hnext : scan.next with b | ⟨outcome, scan', messages⟩
  · exact ⟨hlive, scan, kept, hscan, (List.append_nil _).symm⟩
  · have htext : scan'.text = scan.text := WholeScan.text_next hnext
    have hread : scan'.read = scan.read := by
      funext span
      rw [WholeScan.read, WholeScan.read, htext]
    refine ⟨hlive, scan', _, Shelf.get?_put_self _ _ _, ?_⟩
    rw [hread]
    -- a step that tells the text only tells no span and remembers none
    cases outcome with
    | found span =>
      cases c.keeps with
      | true =>
        show (kept ++ [span]).map scan.read = kept.map scan.read ++ [scan'.read span]
        rw [List.map_append, hread]
        rfl
      | false => exact (List.append_nil _).symm
    | nothing => cases c.keeps <;> exact (List.append_nil _).symm
    | failed failure => cases c.keeps <;> exact (List.append_nil _).symm

/-- Other commands do not matter. -/
lemma other (hs : Remembers s name h told) (hc : c.isScanWork = true)
    (hsteps : c.steps name = false) : Remembers (s.step c).state name h told := by
  refine ⟨?_, ?_⟩
  · rw [(step_effect s c).registry_eq hc]
    exact hs.isLive
  · rw [(step_effect s c).scan_eq (Command.opens_of_isScanWork hc name) hsteps]
    exact hs.exists_scan

lemma run (hs : Remembers s name h told) (hcs : ∀ c ∈ cs, c.isScanWork = true) :
    Remembers (s.run cs).2 name h
      (told ++ (s.answersTo (Command.steps name) cs).filterMap Answer.span?) :=
  run_tells (P := fun s told => Remembers s name h told) hs
    (fun _ _ hs _ _ hsteps => hs.step hsteps) fun _ _ hs c hc hsteps => hs.other (hcs c hc) hsteps

lemma reread_eq (hs : Remembers s name h told) :
    (s.step (.reread name)).answer = .reread (told.map .span) := by
  obtain ⟨-, scan, kept, hscan, rfl⟩ := hs
  rw [State.step, hscan, List.map_map]
  rfl

end Remembers

/-- A scan goes on as if nothing were overwritten and still has each span as it told it. -/
structure Ignores (s : State E) (name : Name) (cs : List Command) : Prop where
  answers_eq : s.answersTo (Command.concerns name) cs
    = s.answersTo (Command.concerns name) (cs.filter (!·.isOverwrite))
  reread_eq : ((s.run cs).2.step (.reread name)).answer
    = .reread (((s.answersTo (Command.steps name) cs).filterMap Answer.span?).map .span)

/-- A scan for whole matches that has told nothing yet ignores what is overwritten. -/
lemma ignores_of_whole {scan : WholeScan E}
    (hscan : s.scans.get? name = some (.whole h scan []))
    (hlive : s.registry.isLive h = true) (hcs : ∀ c ∈ cs, c.isScanWork = true) :
    Ignores s name cs where
  answers_eq := by
    have halone : ∀ cs' : List Command, (∀ c ∈ cs', c.isScanWork = true) →
        s.answersTo (Command.concerns name) cs'
          = (s.run (cs'.filter (Command.concerns name))).1 := by
      intro cs' hcs'
      refine answersTo_eq_run_self (fun _ => Command.concerns_of_steps) (fun _ hc => hc) hscan ?_
        (spared_of_isScanWork hcs' hlive)
      intro input hinput
      cases hinput
    have hfilter : (cs.filter (!·.isOverwrite)).filter (Command.concerns name)
        = cs.filter (Command.concerns name) := by
      rw [List.filter_filter]
      refine List.filter_congr fun c _ => ?_
      by_cases hc : c.concerns name = true
      · rw [hc, Command.not_isOverwrite_of_concerns hc]
        rfl
      · rw [eq_false_of_ne_true hc, Bool.false_and]
    rw [halone cs hcs, halone _ fun c hc => hcs c (List.mem_of_mem_filter hc), hfilter]
  reread_eq := by
    have hopened : Remembers s name h [] := ⟨hlive, scan, [], hscan, rfl⟩
    exact (hopened.run hcs).reread_eq

/-! ## A scan of the buffer itself -/

/-- A scan for groups that is open at position `k` of a buffer, which is `current` by now, with the
records that it told and what it kept of them to read them anew. -/
structure Tracks (s : State E) (name : Name) (h : Handle) (code : E.Code) (buffer : Name)
    (current : Bytes) (k : ℕ) (kept : List (Record Extent)) (told : List (Record Bytes)) :
    Prop where
  isLive : s.registry.isLive h = true
  buffer_eq : s.buffers.get? buffer = some current
  scan_eq : s.scans.get? name
    = some (.group h (.ofPosition (.ofCode code) current.length k) (.buffer buffer) kept)
  le : k ≤ current.length
  reads : ∀ new, kept.map (Record.read · new) = told.map (List.map (Span.reread new))
  starts_lt : ∀ r ∈ told, r.start < k
  starts_increasing : (told.map Record.start).Pairwise (· < ·)
  length_le : told.length ≤ k

namespace Tracks

variable {current : Bytes} {k : ℕ} {kept : List (Record Extent)} {told : List (Record Bytes)}

/-- The scan reads what the buffer holds at this moment. -/
lemma read?_eq (hs : Tracks s name h code buffer current k kept told) :
    s.read? (.buffer buffer) = some current := by
  rw [State.read?_buffer]
  exact hs.buffer_eq

/-- What a step does for which the scan is asked. -/
lemma step_eq (hs : Tracks s name h code buffer current k kept told)
    (hc : c.steps name = true) {step : Scan.Step (GroupScan E) (Record Extent)}
    (hnext : (GroupScan.ofPosition (.ofCode code) current.length k).next current = .ok step) :
    s.step c = ⟨s.setScan name (.group h step.scan (.buffer buffer) (step.outcome.addTo kept)),
      .stepped (step.outcome.map fun r => .record (Record.read r current)) step.scan.position
        step.scan.isExhausted,
      step.messages⟩ := by
  have hbytes : s.bytesOf (.group h (.ofPosition (.ofCode code) current.length k) (.buffer buffer)
      kept) = current := by
    show (s.read? (.buffer buffer)).getD [] = current
    rw [hs.read?_eq]
    rfl
  rw [step_eq_settle hc hs.scan_eq hs.isLive, hbytes, OpenScan.next, hnext]
  rfl

/-- After a record was told, the scan is right behind its start. -/
lemma yields (hs : Tracks s name h code buffer current k kept told) {record : Record Extent}
    (hreads : ∀ new, Record.read record new
      = List.map (Span.reread new) (Record.read record current))
    (hge : k ≤ record.start) (hlt : record.start < current.length) :
    Tracks (s.setScan name (.group h
        (.ofPosition (.ofCode code) current.length (min (record.start + 1) current.length))
        (.buffer buffer) (kept ++ [record])))
      name h code buffer current (min (record.start + 1) current.length) (kept ++ [record])
      (told ++ [Record.read record current]) := by
  have hplace : min (record.start + 1) current.length = record.start + 1 := Nat.min_eq_left hlt
  rw [hplace]
  exact {
    isLive := hs.isLive
    buffer_eq := hs.buffer_eq
    scan_eq := Shelf.get?_put_self _ _ _
    le := hlt
    reads := fun new => by
      rw [List.map_append, List.map_append, hs.reads new, List.map_singleton, List.map_singleton,
        hreads new]
    starts_lt := fun r hr => by
      rcases List.mem_append.mp hr with hr | hr
      · exact Nat.lt_succ_of_lt (Nat.lt_of_lt_of_le (hs.starts_lt r hr) hge)
      · rw [List.mem_singleton.mp hr, Record.start_read]
        exact Nat.lt_succ_self _
    starts_increasing := by
      rw [List.map_append, List.pairwise_append]
      refine ⟨hs.starts_increasing, List.pairwise_singleton _ _, fun i hi j hj => ?_⟩
      obtain ⟨r, hr, rfl⟩ := List.mem_map.mp hi
      rw [List.mem_singleton.mp hj, Record.start_read]
      exact Nat.lt_of_lt_of_le (hs.starts_lt r hr) hge
    length_le := by
      have hle := hs.length_le
      rw [List.length_append, List.length_singleton]
      omega }

/-- After a step that told nothing, the scan is at the end. -/
lemma ends (hs : Tracks s name h code buffer current k kept told) :
    Tracks (s.setScan name (.group h
        (.ofPosition (.ofCode code) current.length current.length) (.buffer buffer) kept))
      name h code buffer current current.length kept (told ++ []) where
  isLive := hs.isLive
  buffer_eq := hs.buffer_eq
  scan_eq := Shelf.get?_put_self _ _ _
  le := Nat.le_refl _
  reads := by
    rw [List.append_nil]
    exact hs.reads
  starts_lt r hr := by
    rw [List.append_nil] at hr
    exact Nat.lt_of_lt_of_le (hs.starts_lt r hr) hs.le
  starts_increasing := by
    rw [List.append_nil]
    exact hs.starts_increasing
  length_le := by
    rw [List.append_nil]
    exact Nat.le_trans hs.length_le hs.le

/-- A step of the scan leads on, and what it tells it will read anew. -/
lemma step (hs : Tracks s name h code buffer current k kept told)
    (hE : E.Sound code (E.groups code + 1)) (hn : current.length < npos.toNat)
    (hc : c.steps name = true) :
    ∃ k' kept', Tracks (s.step c).state name h code buffer current k' kept'
      (told ++ (Answer.record? (s.step c).answer).toList) := by
  obtain ⟨step, hnext, hmoves⟩ := (GroupScan.course hE hn).moves k hs.le current rfl
  rw [hs.step_eq hc hnext]
  cases hmoves with
  | @yields record messages lt ge le shape =>
    obtain ⟨m, hfind, hrecord⟩ := GroupScan.found_of_next hE hs.le hn hnext rfl
    have hfits := Compiled.find_drop_fits hE hn hfind
    -- the match is not empty, so it starts before the end
    have hlt : Record.start record < current.length :=
      Nat.lt_of_lt_of_le (UInt64.lt_iff_toNat_lt.mp shape.1) shape.2
    refine ⟨_, _, hs.yields (fun new => ?_) ge hlt⟩
    rw [hrecord]
    exact Record.read_behind hfits.within hs.le hn current new
  | nothing => exact ⟨_, _, hs.ends⟩
  | failed => exact ⟨_, _, hs.ends⟩

/-- Other commands may change the buffer, but nothing else. -/
lemma other (hs : Tracks s name h code buffer current k kept told) (hc : c.isScanWork = true)
    (hsteps : c.steps name = false) : ∃ current', current'.length = current.length ∧
      Tracks (s.step c).state name h code buffer current' k kept told := by
  obtain ⟨current', hbuffer, hlength⟩ := (step_effect s c).exists_buffer hs.buffer_eq
  refine ⟨current', hlength, ?_⟩
  exact {
    isLive := by
      rw [(step_effect s c).registry_eq hc]
      exact hs.isLive
    buffer_eq := hbuffer
    scan_eq := by
      rw [(step_effect s c).scan_eq (Command.opens_of_isScanWork hc name) hsteps, hlength]
      exact hs.scan_eq
    le := by
      rw [hlength]
      exact hs.le
    reads := hs.reads
    starts_lt := hs.starts_lt
    starts_increasing := hs.starts_increasing
    length_le := hs.length_le }

lemma run (hs : Tracks s name h code buffer current k kept told)
    (hE : E.Sound code (E.groups code + 1)) (hn : current.length < npos.toNat)
    (hcs : ∀ c ∈ cs, c.isScanWork = true) :
    ∃ current' k' kept', current'.length = current.length ∧
      Tracks (s.run cs).2 name h code buffer current' k' kept'
        (told ++ (s.answersTo (Command.steps name) cs).filterMap Answer.record?) := by
  -- only the length of the buffer is the same all along
  refine run_tells (P := fun s told => ∃ current' k kept, current'.length = current.length ∧
    Tracks s name h code buffer current' k kept told) ⟨current, k, kept, rfl, hs⟩ ?_ ?_
  · rintro s told ⟨current', k, kept, hlength, hs⟩ c _ hsteps
    obtain ⟨k', kept', hs'⟩ := hs.step hE (by rw [hlength]; exact hn) hsteps
    exact ⟨current', k', kept', hlength, hs'⟩
  · rintro s told ⟨current', k, kept, hlength, hs⟩ c hc hsteps
    obtain ⟨current'', hlength', hs'⟩ := hs.other (hcs c hc) hsteps
    exact ⟨current'', k, kept, hlength'.trans hlength, hs'⟩

end Tracks

/-- What a scan for groups comes to once its buffer is `current`: it stands at a position, reads
what it told with the texts that the buffer has now, and goes on as a new scan of the rest. -/
structure Follows (s : State E) (name : Name) (code : E.Code) (current : Bytes)
    (position : UInt64) (told : List (Record Bytes)) : Prop where
  position_eq : (s.step (.position name)).answer
    = .position position (decide (position.toNat = current.length))
  position_le : position.toNat ≤ current.length
  reread_eq : (s.step (.reread name)).answer
    = .reread (told.map fun r => .record (List.map (Span.reread current) r))
  next_eq : position.toNat < current.length → ∃ report,
    GroupScan.kind.observe
      (.ofLength (.ofCode code) (current.drop position.toNat).length)
      [current.drop position.toNat] = .ok [report] ∧
    (s.step (.next name)).answer = .ofReport (report.shift position)
  starts_increasing : (told.map Record.start).Pairwise (· < ·)
  length_le : told.length ≤ current.length

namespace Tracks

variable {current : Bytes} {k : ℕ} {kept : List (Record Extent)} {told : List (Record Bytes)}

/-- The next step tells what the first step of a new scan of the rest tells, moved. -/
lemma next_eq (hs : Tracks s name h code buffer current k kept told)
    (hE : E.Sound code (E.groups code + 1)) (hn : current.length < npos.toNat) :
    ∃ report, GroupScan.kind.observe (.ofLength (.ofCode code) (current.drop k).length)
        [current.drop k] = .ok [report] ∧
      (s.step (.next name)).answer = .ofReport (report.shift (UInt64.ofNat k)) := by
  obtain ⟨step, hnext, -⟩ := (GroupScan.course hE hn).moves k hs.le current rfl
  have hobserve := GroupScan.kind.observe_cons (GroupScan.kind.call_of_next hnext) []
  have hcalls : ∀ b ∈ [current], b.length = current.length := by simp
  obtain ⟨reports, hnear, hfar⟩ := (GroupScan.shift hE hn hs.le).observe (j := 0)
    hcalls (Nat.zero_le _)
  rw [Nat.add_zero, hobserve] at hfar
  -- one call makes one report
  obtain ⟨report, rfl, hreport⟩ := List.map_eq_singleton_iff.mp (Except.ok.inj hfar).symm
  refine ⟨report, ?_, ?_⟩
  · rw [List.length_drop]
    exact hnear
  · have hnamed : Command.steps name (.next name) = true := beq_self_eq_true name
    rw [hs.step_eq hnamed hnext, hreport]
    rfl

lemma follows (hs : Tracks s name h code buffer current k kept told)
    (hE : E.Sound code (E.groups code + 1)) (hn : current.length < npos.toNat) :
    Follows s name code current (UInt64.ofNat k) told := by
  have hk : (UInt64.ofNat k).toNat = k := toNat_ofNat_of_lt_npos (Nat.lt_of_le_of_lt hs.le hn)
  refine ⟨?_, ?_, ?_, ?_, hs.starts_increasing, Nat.le_trans hs.length_le hs.le⟩
  · rw [State.step, hs.scan_eq, hk, ← GroupScan.isExhausted_ofPosition (p := .ofCode code) hs.le hn]
    rfl
  · rw [hk]
    exact hs.le
  · rw [State.step, hs.scan_eq]
    show Answer.reread (kept.map fun r =>
      .record (Record.read r ((s.read? (.buffer buffer)).getD []))) = _
    have hreads := congrArg (List.map Finding.record) (hs.reads current)
    rw [List.map_map, List.map_map] at hreads
    rw [hs.read?_eq]
    exact congrArg Answer.reread hreads
  · rw [hk]
    exact fun _ => hs.next_eq hE hn

end Tracks

/-! ## Scans of a buffer that is overwritten -/

/-- However steps of scans and questions about them are mixed with overwriting: a scan for whole
matches that was opened on a buffer goes on as if nothing had been overwritten, and a scan for
groups follows what the buffer has become. -/
theorem scans_under_overwriting {owner : Name} {text : Bytes} (name : Name)
    (hp : s.registry.pattern? owner = some (h, .ofCode code))
    (hlive : s.registry.isLive h = true) (htext : s.buffers.get? buffer = some text)
    (hE : E.Sound code (E.groups code + 1)) (hn : text.length < npos.toNat)
    (hcs : ∀ c ∈ cs, c.isScanWork = true) :
    Ignores (s.step (.openWhole name owner (.buffer buffer))).state name cs ∧
    ∃ current position,
      ((s.step (.openGroup name owner (.buffer buffer))).state.run cs).2.buffers.get? buffer
        = some current ∧
      current.length = text.length ∧
      Follows ((s.step (.openGroup name owner (.buffer buffer))).state.run cs).2 name code current
        position (((s.step (.openGroup name owner (.buffer buffer))).state.answersTo
          (Command.steps name) cs).filterMap Answer.record?) := by
  have hview : s.view? (.buffer buffer) = some text := view?_buffer htext
  rw [step_openWhole hp hview, step_openGroup hp hview]
  refine ⟨?_, ?_⟩
  · exact ignores_of_whole (Shelf.get?_put_self _ _ _) hlive hcs
  · have hopened : Tracks (s.openScan name
        (.group h (.ofLength (.ofCode code) text.length) (.buffer buffer) [])).state
        name h code buffer text 0 [] [] := {
      isLive := hlive
      buffer_eq := htext
      scan_eq := Shelf.get?_put_self _ _ _
      le := Nat.zero_le _
      reads := fun _ => rfl
      starts_lt := fun _ hr => absurd hr List.not_mem_nil
      starts_increasing := List.Pairwise.nil
      length_le := Nat.le_refl _ }
    obtain ⟨current, k, kept, hlength, hlast⟩ := hopened.run hE hn hcs
    exact ⟨current, _, hlast.buffer_eq, hlength, hlast.follows hE (by rw [hlength]; exact hn)⟩

/-- `xxa` is overwritten with `axa` after one step and with `abx` after two. -/
theorem scans_under_overwriting_of_xxa :
    let s := (({} : State sample).run
      [.compile [1] (Bytes.ascii "(x)*") {}, .createBuffer [5] (Bytes.ascii "xxa")]).2
    let cs := [.next [7], .overwrite [5] 0 (Bytes.ascii "a"), .reread [7], .next [7],
      .overwrite [5] 1 (Bytes.ascii "bx")]
    s.registry.pattern? [1] = some (0, sampleStar) ∧ s.registry.isLive 0 = true ∧
    s.buffers.get? [5] = some (Bytes.ascii "xxa") ∧
    sample.Sound (.star 120) (sample.groups (.star 120) + 1) ∧
    (Bytes.ascii "xxa").length < npos.toNat ∧ (∀ c ∈ cs, c.isScanWork = true) ∧
    (Ignores (s.step (.openWhole [7] [1] (.buffer [5]))).state [7] cs ∧
      ((s.step (.openWhole [7] [1] (.buffer [5]))).state.answersTo (Command.steps [7])
          cs).filterMap Answer.span?
        = [⟨0, 2, some (Bytes.ascii "xx")⟩, ⟨1, 2, some (Bytes.ascii "x")⟩]) ∧
    Follows ((s.step (.openGroup [7] [1] (.buffer [5]))).state.run cs).2 [7] (.star 120)
      (Bytes.ascii "abx") 2
      [[⟨0, 2, some (Bytes.ascii "xx")⟩, ⟨1, 2, some (Bytes.ascii "x")⟩],
        [⟨1, 2, some (Bytes.ascii "x")⟩, ⟨1, 2, some (Bytes.ascii "x")⟩]] := by
  intro s cs
  have hp : s.registry.pattern? [1] = some (0, sampleStar) := rfl
  have hlive : s.registry.isLive 0 = true := rfl
  have htext : s.buffers.get? [5] = some (Bytes.ascii "xxa") := rfl
  have hE := sample_sound (.star 120) (sample.groups (.star 120) + 1)
  have hn : (Bytes.ascii "xxa").length < npos.toNat := by decide
  have hcs : ∀ c ∈ cs, c.isScanWork = true := by decide
  obtain ⟨hwhole, current, position, hcurrent, -, hgroup⟩ :=
    scans_under_overwriting [7] hp hlive htext hE hn hcs
  refine ⟨hp, hlive, htext, hE, hn, hcs, ⟨hwhole, by decide⟩, ?_⟩
  -- the run itself says of which buffer, which position and which records there was talk
  have hbuffer : ((s.step (.openGroup [7] [1] (.buffer [5]))).state.run cs).2.buffers.get? [5]
      = some (Bytes.ascii "abx") := by decide
  have htold : ((s.step (.openGroup [7] [1] (.buffer [5]))).state.answersTo (Command.steps [7])
      cs).filterMap Answer.record?
        = [[⟨0, 2, some (Bytes.ascii "xx")⟩, ⟨1, 2, some (Bytes.ascii "x")⟩],
          [⟨1, 2, some (Bytes.ascii "x")⟩, ⟨1, 2, some (Bytes.ascii "x")⟩]] := by decide
  have hposition : (((s.step (.openGroup [7] [1] (.buffer [5]))).state.run cs).2.step
      (.position [7])).answer = .position 2 false := by decide
  rw [hbuffer] at hcurrent
  cases hcurrent
  rw [htold] at hgroup
  have hplace := hgroup.position_eq
  rw [hposition] at hplace
  cases hplace
  exact hgroup

end State

end Session

end PatternScan
