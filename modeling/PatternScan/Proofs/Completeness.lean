import PatternScan.Proofs.Run
import Mathlib.Data.List.Range
import Mathlib.Data.Nat.Find

/-!
# No match is missed

A scan for whole matches sees the text only through searches of its rests. If those searches find
the first of a fixed set of places where a match starts, draining the scan yields all of these
places, in order and each once. The end of the text is one of them only if the step before did not
already move there.
-/

namespace PatternScan

/-! ## Searches that find the first place -/

/-- The places of a text where a match starts, with the ends of these matches, as the searches of
its rests tell them. -/
structure Engine.Finds (E : Engine) (code : E.Code) (text : Bytes) (Hit : ℕ → Prop)
    (stop : ℕ → ℕ) : Prop where
  bounds : ∀ p ≤ text.length, Hit p → p ≤ stop p ∧ stop p ≤ text.length
  /-- A search finds the first place from the position on. -/
  found : ∀ k < text.length, ∀ p ≤ text.length, k ≤ p → Hit p → (∀ q, k ≤ q → q < p → ¬Hit q) →
    0 ≤ (E.search code (text.drop k) (E.groups code + 1)).code ∧
      (E.search code (text.drop k) (E.groups code + 1)).slots.head?
        = some ⟨UInt64.ofNat (p - k), UInt64.ofNat (stop p - k)⟩
  /-- A search finds nothing if there is no place from the position on. -/
  missed : ∀ k < text.length, (∀ p ≤ text.length, k ≤ p → ¬Hit p) →
    (E.search code (text.drop k) (E.groups code + 1)).code = Reply.noMatchCode

/-- The match that is found if there is a place from the position on. -/
lemma Engine.Finds.find_of_first {E : Engine} {code : E.Code} {text : Bytes} {Hit : ℕ → Prop}
    {stop : ℕ → ℕ} {k p : ℕ} (h : E.Finds code text Hit stop) (hn : text.length < npos.toNat)
    (hk : k < text.length) (hkp : k ≤ p) (hp : p ≤ text.length) (hhit : Hit p)
    (hfirst : ∀ q, k ≤ q → q < p → ¬Hit q) :
    ∃ m, (Compiled.ofCode code).find (text.drop k) = .ok (some m) ∧
      m.whole = ⟨UInt64.ofNat (p - k), UInt64.ofNat (stop p - k)⟩ ∧
      m.WholeFits (text.length - k) := by
  obtain ⟨hcode, hhead⟩ := h.found k hk p hp hkp hhit hfirst
  obtain ⟨hle, hstop⟩ := h.bounds p hp hhit
  set reply := E.search code (text.drop k) (E.groups code + 1)
  set m : Match := ⟨reply.slots, Match.sizeOf (E.groups code) (E.groups code + 1)
    reply.code.toNat⟩
  have hwhole : m.whole = ⟨UInt64.ofNat (p - k), UInt64.ofNat (stop p - k)⟩ := by
    rw [Match.whole, List.headD_eq_head?_getD, hhead]
    rfl
  have hslot : m.slot 0 = .ok m.whole := by
    rw [Match.slot, if_pos (Match.sizeOf_pos (Nat.succ_pos _) _ _), ← List.head?_eq_getElem?, hhead,
      hwhole]
  have hset : m.whole.isSet = true := by
    have hne : UInt64.ofNat (p - k) ≠ npos := ofNat_ne_npos (by omega)
    rw [hwhole]
    simpa [Slot.isSet] using hne
  have hwithin : m.whole.Within (text.length - k) := by
    intro _
    rw [hwhole, UInt64.le_iff_toNat_le, toNat_ofNat_of_lt_npos (by omega),
      toNat_ofNat_of_lt_npos (by omega)]
    omega
  exact ⟨m, Match.settle_eq_some_iff.mpr ⟨hcode, rfl⟩, hwhole, hslot, hset, hwithin⟩

/-- The first `x` of the rest of a text, or the end, told from the text itself. -/
lemma findIdx_drop_eq {byte : UInt8} {text : Bytes} {k p : ℕ} (hkp : k ≤ p)
    (hp : p ≤ text.length) (hhit : text[p]? = some byte ∨ p = text.length)
    (hfirst : ∀ q, k ≤ q → q < p → ¬text[q]? = some byte) :
    (text.drop k).findIdx (· == byte) = p - k := by
  have hbefore : ∀ j, (hj : j < (text.drop k).length) → j < p - k →
      ((text.drop k)[j] == byte) = false := by
    intro j hj hjp
    rw [List.length_drop] at hj
    have hne := hfirst (k + j) (by omega) (by omega)
    rw [List.getElem?_eq_getElem (by omega)] at hne
    simpa using hne
  rcases Nat.lt_or_eq_of_le hp with hlt | rfl
  · have hlength : p - k < (text.drop k).length := by rw [List.length_drop]; omega
    have hat : text[p] = byte := by
      rcases hhit with hsome | hend
      · rw [List.getElem?_eq_getElem hlt] at hsome
        exact Option.some.inj hsome
      · omega
    refine (List.findIdx_eq hlength).mpr ⟨?_, fun j hj => hbefore j (by omega) hj⟩
    simpa [show k + (p - k) = p by omega] using hat
  · rw [← List.length_drop]
    refine List.findIdx_eq_length_of_false fun x hx => ?_
    obtain ⟨j, hj, rfl⟩ := List.mem_iff_getElem.mp hx
    exact hbefore j hj (by rw [List.length_drop] at hj; omega)

/-- The searches for `x|\z` find the places of `x` and the end. -/
lemma sample_orEnd_finds (byte : UInt8) (text : Bytes) :
    sample.Finds (.orEnd byte) text (fun p => text[p]? = some byte ∨ p = text.length)
      (fun p => min (p + 1) text.length) where
  bounds := by
    intro p hp _
    exact ⟨by omega, by omega⟩
  found := by
    intro k hk p hp hkp hhit hfirst
    have hindex := findIdx_drop_eq hkp hp hhit fun q hkq hqp hq => hfirst q hkq hqp (Or.inl hq)
    have hreply : sample.search (.orEnd byte) (text.drop k) 1
        = ⟨1, [⟨UInt64.ofNat (p - k), UInt64.ofNat (min (p + 1) text.length - k)⟩]⟩ := by
      have hstop : min (p + 1) text.length - k = min (p - k + 1) (text.drop k).length := by
        rw [List.length_drop]; omega
      rw [hstop, ← hindex]
      rfl
    show 0 ≤ (sample.search (.orEnd byte) (text.drop k) 1).code ∧
      (sample.search (.orEnd byte) (text.drop k) 1).slots.head? = _
    rw [hreply]
    exact ⟨by simp, rfl⟩
  missed := by
    intro k hk hnone
    exact absurd (Or.inr rfl) (hnone text.length (Nat.le_refl _) (Nat.le_of_lt hk))

namespace Hits

variable (text : Bytes) (Hit : ℕ → Prop) [DecidablePred Hit] (stop : ℕ → ℕ)

/-- The span of the match that starts at a place. -/
def spanAt (p : ℕ) : Span Bytes :=
  ⟨UInt64.ofNat p, UInt64.ofNat (stop p), some (text.slice p (stop p))⟩

/-- The spans of the matches that start from `k` on, before the end of the text. -/
def before (k : ℕ) : List (Span Bytes) :=
  ((List.range' k (text.length - k)).filter (Hit ·)).map (spanAt text stop)

/-- The empty span at the end of the text, if there is a match and the byte before starts none. -/
def atEnd (k : ℕ) : List (Span Bytes) :=
  if k < text.length ∧ Hit text.length ∧ ¬Hit (text.length - 1) then
    [⟨UInt64.ofNat text.length, UInt64.ofNat text.length, some []⟩]
  else []

variable {text Hit stop} {k p : ℕ}

lemma before_of_none (h : ∀ q, k ≤ q → q < text.length → ¬Hit q) :
    before text Hit stop k = [] := by
  have hfilter : (List.range' k (text.length - k)).filter (Hit ·) = [] := by
    refine List.filter_eq_nil_iff.mpr fun q hq => ?_
    rw [List.mem_range'_1] at hq
    simpa using h q hq.1 (by omega)
  rw [before, hfilter]
  rfl

/-- The places from `k` on are the first of them and those behind it. -/
lemma before_of_first (hkp : k ≤ p) (hp : p < text.length) (hhit : Hit p)
    (hfirst : ∀ q, k ≤ q → q < p → ¬Hit q) :
    before text Hit stop k = spanAt text stop p :: before text Hit stop (p + 1) := by
  -- up to the first place nothing is kept
  have hsplit : List.range' k (text.length - k)
      = List.range' k (p - k) ++ p :: List.range' (p + 1) (text.length - (p + 1)) := by
    rw [show text.length - k = (p - k) + (text.length - p) by omega, ← List.range'_append_1,
      show k + (p - k) = p by omega, show text.length - p = text.length - (p + 1) + 1 by omega,
      List.range'_succ]
  have hnone : (List.range' k (p - k)).filter (Hit ·) = [] := by
    refine List.filter_eq_nil_iff.mpr fun q hq => ?_
    rw [List.mem_range'_1] at hq
    simpa using hfirst q hq.1 (by omega)
  rw [before, hsplit, List.filter_append, hnone, List.nil_append,
    List.filter_cons_of_pos (by simpa using hhit)]
  rfl

/-- A place before the end leaves open whether the end is reported, unless it is the last one; then
the end is not reported either way. -/
lemma atEnd_of_first (hkp : k ≤ p) (hp : p < text.length) (hhit : Hit p) :
    atEnd text Hit k = atEnd text Hit (p + 1) := by
  by_cases hlast : p + 1 = text.length
  · have hp' : text.length - 1 = p := by omega
    rw [atEnd, atEnd, hp', if_neg (fun h => h.2.2 hhit), if_neg (fun h => h.2.2 hhit)]
  · have hlt : p + 1 < text.length := by omega
    have hk : k < text.length := by omega
    simp only [atEnd, hlt, hk, true_and]

/-- The place found first, with all that follow it. -/
lemma cons_of_first (hk : k < text.length) (hkp : k ≤ p) (hp : p ≤ text.length) (hhit : Hit p)
    (hfirst : ∀ q, k ≤ q → q < p → ¬Hit q) (hstop : p ≤ stop p ∧ stop p ≤ text.length) :
    spanAt text stop p :: (before text Hit stop (min (p + 1) text.length)
        ++ atEnd text Hit (min (p + 1) text.length))
      = before text Hit stop k ++ atEnd text Hit k := by
  rcases Nat.lt_or_eq_of_le hp with hlt | rfl
  · rw [Nat.min_eq_left (by omega), before_of_first hkp hlt hhit hfirst,
      atEnd_of_first hkp hlt hhit]
    rfl
  · -- the end itself was found, so no place is left behind it and none was before it
    have hstop' : stop text.length = text.length := by omega
    have hnone : before text Hit stop text.length = [] :=
      before_of_none fun q hq hq' => absurd hq (by omega)
    have hend : atEnd text Hit text.length = [] := if_neg fun h => Nat.lt_irrefl _ h.1
    rw [Nat.min_eq_right (by omega), hnone, hend, before_of_none hfirst, atEnd,
      if_pos ⟨hk, hhit, hfirst _ (by omega) (by omega)⟩, spanAt, hstop']
    simp [Bytes.slice]

end Hits

/-! ## Draining -/

namespace WholeScan

variable {E : Engine} {code : E.Code} {text : Bytes} {Hit : ℕ → Prop} {stop : ℕ → ℕ} {k p : ℕ}

/-- The step to the first place from the position on. -/
lemma next_of_first (h : E.Finds code text Hit stop) (hn : text.length < npos.toNat)
    (hk : k < text.length) (hkp : k ≤ p) (hp : p ≤ text.length) (hhit : Hit p)
    (hfirst : ∀ q, k ≤ q → q < p → ¬Hit q) :
    (ofPosition (.ofCode code) text k).next
      = .ok ⟨.found ⟨UInt64.ofNat p, UInt64.ofNat (stop p), some ⟨p, stop p - p⟩⟩,
          ofPosition (.ofCode code) text (min (p + 1) text.length), []⟩ := by
  obtain ⟨hle, hstop⟩ := h.bounds p hp hhit
  obtain ⟨m, hfind, hwhole, hfits⟩ := h.find_of_first hn hk hkp hp hhit hfirst
  have hstart : (UInt64.ofNat (p - k)).toNat = p - k := toNat_ofNat_of_lt_npos (by omega)
  have hend : (UInt64.ofNat (stop p - k)).toNat = stop p - k := toNat_ofNat_of_lt_npos (by omega)
  have hstep := next_eq_stepFrom hk hn (p := .ofCode code) fun m' hm' => by
    rw [hfind] at hm'
    cases hm'
    exact hfits
  rw [hstep, hfind, stepFrom, Slot.behind_of_isSet hfits.isSet, hwhole, hstart, hend,
    show k + (p - k) = p by omega, show k + (stop p - k) = stop p by omega,
    show stop p - k - (p - k) = stop p - p by omega]

/-- The step in vain. -/
lemma next_of_none (h : E.Finds code text Hit stop) (hn : text.length < npos.toNat)
    (hk : k < text.length) (hnone : ∀ p ≤ text.length, k ≤ p → ¬Hit p) :
    (ofPosition (.ofCode code) text k).next
      = .ok ⟨.nothing, ofPosition (.ofCode code) text text.length,
          [Scan.noMatchMessage domain (UInt64.ofNat k)]⟩ := by
  have hfind : (Compiled.ofCode code).find (text.drop k) = .ok none :=
    if_pos (h.missed k hk hnone)
  have hstep := next_eq_stepFrom hk hn (p := .ofCode code) fun m hm => by
    rw [hfind] at hm
    cases hm
  rw [hstep, hfind]
  rfl

/-- Draining from a position yields the places from there on. -/
lemma drain_from [DecidablePred Hit] (h : E.Finds code text Hit stop)
    (hn : text.length < npos.toNat) {limit : ℕ} (hk : k ≤ text.length)
    (hlimit : text.length - k < limit) :
    ∃ d, Scan.drain next limit (ofPosition (.ofCode code) text k) = .ok (some d) ∧
      d.yields.map (fun y => y.2.read y.1)
        = Hits.before text Hit stop k ++ Hits.atEnd text Hit k ∧
      d.failure = none := by
  -- the limit bounds the calls; each call that yields a match moves the position on
  induction limit generalizing k with
  | zero => omega
  | succ limit ih =>
    rcases Nat.lt_or_eq_of_le hk with hlt | rfl
    · by_cases hex : ∃ p, k ≤ p ∧ p ≤ text.length ∧ Hit p
      · obtain ⟨hkp, hp, hhit⟩ := Nat.find_spec hex
        set p := Nat.find hex with hpdef
        have hfirst : ∀ q, k ≤ q → q < p → ¬Hit q := fun q hkq hqp hq =>
          Nat.find_min hex hqp ⟨hkq, by omega, hq⟩
        have hstep := next_of_first h hn hlt hkp hp hhit hfirst
        obtain ⟨d, hdrain, hyields, hfailure⟩ :=
          ih (k := min (p + 1) text.length) (by omega) (by omega)
        have hbounds := h.bounds p hp hhit
        refine ⟨_, Scan.drain_found hstep hdrain, ?_, hfailure⟩
        rw [← Hits.cons_of_first hlt hkp hp hhit hfirst hbounds, ← hyields]
        show read _ _ :: _ = _
        rw [read, Span.read, Span.map, Hits.spanAt, Option.map_some, Extent.read,
          show p + (stop p - p) = stop p by omega]
        rfl
      · have hnone : ∀ p ≤ text.length, k ≤ p → ¬Hit p := fun p hp hkp hhit =>
          hex ⟨p, hkp, hp, hhit⟩
        refine ⟨_, Scan.drain_nothing (next_of_none h hn hlt hnone) limit, ?_, rfl⟩
        rw [Hits.before_of_none fun q hkq hq => hnone q (by omega) hkq, Hits.atEnd,
          if_neg fun hend => hnone _ (Nat.le_refl _) hk hend.2.1]
        rfl
    · refine ⟨_, Scan.drain_nothing (next_at_end hn) limit, ?_, rfl⟩
      rw [Hits.before_of_none fun q hkq hq => absurd hkq (by omega), Hits.atEnd,
        if_neg fun hend => Nat.lt_irrefl _ hend.1]
      rfl

/-- Draining a scan for whole matches yields the match at every place before the end of the text,
in order and each once, and then the empty match at the end if the byte before it starts none. -/
theorem drain_eq_hits [DecidablePred Hit] (h : E.Finds code text Hit stop)
    (hn : text.length < npos.toNat) {limit : ℕ} (hlimit : text.length < limit) :
    ∃ d, Scan.drain next limit (ofText (.ofCode code) text) = .ok (some d) ∧
      d.yields.map (fun y => y.2.read y.1)
        = ((List.range text.length).filter (Hit ·)).map (Hits.spanAt text stop)
          ++ (if 0 < text.length ∧ Hit text.length ∧ ¬Hit (text.length - 1) then
              [⟨UInt64.ofNat text.length, UInt64.ofNat text.length, some []⟩] else []) ∧
      d.failure = none := by
  obtain ⟨d, hdrain, hyields, hfailure⟩ := drain_from h hn (Nat.zero_le _) (by omega)
  refine ⟨d, hdrain, ?_, hfailure⟩
  rw [hyields, Hits.before, Hits.atEnd, List.range_eq_range', Nat.sub_zero]

/-- In `ab`, the matches of `a|\z` are the `a` and the empty one at the end. -/
theorem drain_ab_at_end :
    sample.Finds (.orEnd 97) (Bytes.ascii "ab") (fun p => (Bytes.ascii "ab")[p]? = some 97 ∨ p = 2)
        (fun p => min (p + 1) 2) ∧
      (Bytes.ascii "ab").length < npos.toNat ∧
      ∃ d, Scan.drain next 3 (ofText (E := sample) (.ofCode (.orEnd 97)) (Bytes.ascii "ab"))
          = .ok (some d) ∧
        d.yields.map (fun y => y.2.read y.1)
          = [⟨0, 1, some (Bytes.ascii "a")⟩, ⟨2, 2, some []⟩] ∧
        d.failure = none := by
  have hfinds := sample_orEnd_finds 97 (Bytes.ascii "ab")
  have hn : (Bytes.ascii "ab").length < npos.toNat := by decide
  exact ⟨hfinds, hn, drain_eq_hits hfinds hn (by decide)⟩

end WholeScan

end PatternScan
