import PatternScan.Proofs.Run

/-!
# Both kinds of scans agree

Over the same text, a scan for groups yields the same whole matches as a scan for whole matches,
up to the first empty one, which ends it. The two drains move in step as long as no match is empty,
and end in the same way if none is (`Scan.Agree`).
-/

namespace PatternScan

variable {E : Engine}

/-- What is seen of a result by both kinds of scans: the span of the whole match with its text, and
how the scan stands afterwards. -/
structure Sight where
  whole : Option (Span Bytes)
  position : UInt64
  isExhausted : Bool
deriving DecidableEq

/-- Whether the whole match is empty. -/
def Sight.isEmpty (s : Sight) : Bool := s.whole.any Span.isEmpty

/-- What is seen of a span. -/
def WholeScan.sight (y : Span Extent × WholeScan E) : Sight :=
  ⟨some (y.2.read y.1), y.2.position, y.2.isExhausted⟩

/-- What is seen of a record over a buffer. -/
def GroupScan.sight (buffer : Bytes) (y : Record Extent × GroupScan E) : Sight :=
  ⟨(Record.read y.1 buffer).head?, y.2.position, y.2.isExhausted⟩

namespace Scan

/-- The drain of a scan for groups of a buffer, as the drain of a scan for whole matches of the
same text tells it. -/
structure Agree (buffer : Bytes) (whole : Drained (WholeScan E) (Span Extent))
    (group : Drained (GroupScan E) (Record Extent)) : Prop where
  /-- The results agree up to the first empty match. -/
  yields : group.yields.map (GroupScan.sight buffer)
    = (whole.yields.map WholeScan.sight).takeWhile (!·.isEmpty)
  /-- An empty match ends the scan for groups, without a failure. -/
  stops : (∃ y ∈ whole.yields, (WholeScan.sight y).isEmpty = true) →
    group.failure = none ∧ group.scan.isExhausted = true
  /-- Without an empty match, both end in the same way. -/
  ends : (∀ y ∈ whole.yields, (WholeScan.sight y).isEmpty = false) →
    group.failure = whole.failure ∧ group.scan.position = whole.scan.position ∧
      group.scan.isExhausted = whole.scan.isExhausted

namespace Agree

variable {buffer : Bytes} {whole : Drained (WholeScan E) (Span Extent)}
  {group : Drained (GroupScan E) (Record Extent)}

/-- Both end here. -/
lemma of_end {p : Compiled E} {failure : Option Failure} :
    Agree buffer ⟨[], failure, WholeScan.ofPosition p buffer buffer.length⟩
      ⟨[], failure, GroupScan.ofPosition p buffer.length buffer.length⟩ where
  yields := rfl
  stops := by
    rintro ⟨y, hy, -⟩
    exact absurd hy List.not_mem_nil
  ends := fun _ => ⟨rfl, rfl, rfl⟩

/-- A match that is not empty is yielded by both. -/
lemma cons (h : Agree buffer whole group) {y : Span Extent × WholeScan E}
    {z : Record Extent × GroupScan E} (hsight : GroupScan.sight buffer z = WholeScan.sight y)
    (hy : (WholeScan.sight y).isEmpty = false) : Agree buffer (whole.cons y) (group.cons z) where
  yields := by
    show GroupScan.sight buffer z :: group.yields.map (GroupScan.sight buffer)
      = (WholeScan.sight y :: whole.yields.map WholeScan.sight).takeWhile (!·.isEmpty)
    rw [List.takeWhile_cons_of_pos (by simp [hy]), hsight, h.yields]
  stops := by
    rintro ⟨y', hy', hempty⟩
    rcases List.mem_cons.mp hy' with rfl | hmem
    · rw [hy] at hempty
      exact absurd hempty Bool.false_ne_true
    · exact h.stops ⟨y', hmem, hempty⟩
  ends := fun hall => h.ends fun y' hy' => hall y' (List.mem_cons_of_mem y hy')

/-- An empty match is yielded by the scan for whole matches only. -/
lemma of_empty {p : Compiled E} {y : Span Extent × WholeScan E}
    (hy : (WholeScan.sight y).isEmpty = true) (hn : buffer.length < npos.toNat) :
    Agree buffer (whole.cons y)
      ⟨[], none, GroupScan.ofPosition p buffer.length buffer.length⟩ where
  yields := by
    show [] = (WholeScan.sight y :: whole.yields.map WholeScan.sight).takeWhile (!·.isEmpty)
    rw [List.takeWhile_cons_of_neg (by simp [hy])]
  stops := fun _ =>
    ⟨rfl, by simp [GroupScan.isExhausted_ofPosition (Nat.le_refl _) hn]⟩
  ends := by
    intro hall
    rw [hall y List.mem_cons_self] at hy
    exact absurd hy Bool.false_ne_true

end Agree

/-! ## In step -/

section
variable {code : E.Code} {buffer : Bytes} {k : ℕ} {m : Match}

/-- What both see of a match. -/
lemma sight_eq (hm : m.Fits (E.groups code) (buffer.length - k)) (j : ℕ) :
    GroupScan.sight buffer (m.slots.map (Slot.behind · k),
        GroupScan.ofPosition (.ofCode code) buffer.length j)
      = WholeScan.sight (m.whole.behind k, WholeScan.ofPosition (.ofCode code) buffer j) := by
  obtain ⟨w, rest, hslots, -, -⟩ := hm.exists_slots
  rw [Match.whole, hslots]
  rfl

/-- Both see the same emptiness that the engine reports. -/
lemma sight_isEmpty (hm : m.Fits (E.groups code) (buffer.length - k)) (hk : k ≤ buffer.length)
    (hn : buffer.length < npos.toNat) (s : WholeScan E) :
    (WholeScan.sight (m.whole.behind k, s)).isEmpty
      = decide (m.whole.start = m.whole.stop) := by
  have hwhole := hm.wholeFits
  rw [← Slot.behind_isEmpty hwhole.isSet hwhole.within hk hn]
  rfl

/-- Both drains from a position end, and they agree. -/
lemma drains_agree_from (hE : E.Sound code (E.groups code + 1))
    (hn : buffer.length < npos.toNat) {limit : ℕ} (hk : k ≤ buffer.length)
    (hlimit : buffer.length - k < limit) :
    ∃ whole group,
      drain WholeScan.next limit (WholeScan.ofPosition (.ofCode code) buffer k)
        = .ok (some whole) ∧
      drain (GroupScan.next · buffer) limit (GroupScan.ofPosition (.ofCode code) buffer.length k)
        = .ok (some group) ∧
      Agree buffer whole group := by
  induction limit generalizing k with
  | zero => omega
  | succ limit ih =>
    rcases Nat.lt_or_eq_of_le hk with hlt | rfl
    · have hwhole := WholeScan.next_of_lt hE hlt hn
      have hgroup := GroupScan.next_of_lt hE hlt hn
      -- the same answer of the engine decides both steps
      rcases hfind : (Compiled.ofCode code).find (buffer.drop k) with failure | _ | m
      · rw [hfind] at hwhole hgroup
        exact ⟨_, _, drain_failed hwhole limit, drain_failed hgroup limit, .of_end⟩
      · rw [hfind] at hwhole hgroup
        exact ⟨_, _, drain_nothing hwhole limit, drain_nothing hgroup limit, .of_end⟩
      · rw [hfind] at hwhole hgroup
        have hfits := Compiled.find_drop_fits hE hn hfind
        obtain ⟨whole, group, hdrain, hdrain', hagree⟩ :=
          ih (k := min (k + m.whole.start.toNat + 1) buffer.length) (by omega) (by omega)
        have hempty := sight_isEmpty hfits hk hn
          (WholeScan.ofPosition (.ofCode code) buffer
            (min (k + m.whole.start.toNat + 1) buffer.length))
        -- the scan for groups looks at the ends alone before it yields anything
        by_cases hsame : m.whole.start = m.whole.stop
        · rw [GroupScan.stepFrom, if_pos hsame] at hgroup
          rw [decide_eq_true hsame] at hempty
          exact ⟨_, _, drain_found hwhole hdrain, drain_nothing hgroup limit,
            .of_empty hempty hn⟩
        · rw [GroupScan.stepFrom, if_neg hsame] at hgroup
          rw [decide_eq_false hsame] at hempty
          exact ⟨_, _, drain_found hwhole hdrain, drain_found hgroup hdrain',
            hagree.cons (sight_eq hfits _) hempty⟩
    · exact ⟨_, _, drain_nothing (WholeScan.next_at_end hn) limit,
        drain_nothing (GroupScan.next_at_end buffer hn) limit, .of_end⟩

end

/-- Draining both kinds of scans over the same text ends, and the drains agree. -/
theorem drains_agree {code : E.Code} {buffer : Bytes} (hE : E.Sound code (E.groups code + 1))
    (hn : buffer.length < npos.toNat) {limit : ℕ} (hlimit : buffer.length < limit) :
    ∃ whole group,
      drain WholeScan.next limit (WholeScan.ofText (.ofCode code) buffer) = .ok (some whole) ∧
      drain (GroupScan.next · buffer) limit (GroupScan.ofLength (.ofCode code) buffer.length)
        = .ok (some group) ∧
      Agree buffer whole group :=
  drains_agree_from hE hn (Nat.zero_le _) (by omega)

/-- In `xxa`, the third match of `(x)*` is empty and ends the scan for groups. -/
theorem drains_agree_on_xxa :
    sample.Sound (.star 120) (sample.groups (.star 120) + 1) ∧
      (Bytes.ascii "xxa").length < npos.toNat ∧ (Bytes.ascii "xxa").length < 4 ∧
      ∃ whole group,
        drain WholeScan.next 4 (WholeScan.ofText sampleStar (Bytes.ascii "xxa"))
          = .ok (some whole) ∧
        drain (GroupScan.next · (Bytes.ascii "xxa")) 4 (GroupScan.ofLength sampleStar 3)
          = .ok (some group) ∧
        Agree (Bytes.ascii "xxa") whole group ∧
        whole.yields.map WholeScan.sight
          = [⟨some ⟨0, 2, some (Bytes.ascii "xx")⟩, 1, false⟩,
            ⟨some ⟨1, 2, some (Bytes.ascii "x")⟩, 2, false⟩, ⟨some ⟨2, 2, some []⟩, 3, true⟩] ∧
        group.yields.map (fun y => (Record.read y.1 (Bytes.ascii "xxa"), y.2.position))
          = [([⟨0, 2, some (Bytes.ascii "xx")⟩, ⟨1, 2, some (Bytes.ascii "x")⟩], 1),
            ([⟨1, 2, some (Bytes.ascii "x")⟩, ⟨1, 2, some (Bytes.ascii "x")⟩], 2)] ∧
        (whole.failure = none ∧ group.failure = none) ∧ group.scan.isExhausted = true := by
  have hE := sample_sound (.star 120) (sample.groups (.star 120) + 1)
  have hn : (Bytes.ascii "xxa").length < npos.toNat := by decide
  have hlimit : (Bytes.ascii "xxa").length < 4 := by decide
  obtain ⟨whole, group, hwhole, hgroup, hagree⟩ := drains_agree hE hn hlimit
  refine ⟨hE, hn, hlimit, whole, group, hwhole, hgroup, hagree, ?_⟩
  cases hwhole
  cases hgroup
  decide

end Scan

end PatternScan
