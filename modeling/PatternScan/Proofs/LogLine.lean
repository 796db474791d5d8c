import PatternScan.Proofs.BoundedText
import PatternScan.Proofs.Compilation

/-!
# The bytes of a log line

A text is written as one line behind its domain, if its level is not above the one in force. A plain
text is written byte by byte; a formatted one is cut at 1023 bytes first and then at a NUL byte, so
the two lines differ for some texts. The message about a compiled pattern is a formatted one and
holds the pattern itself, whose bytes may cut it.
-/

namespace PatternScan

/-! ## Messages and their lines -/

namespace Log

/-- What is written of a formatted text: of its first 1023 bytes, those before the first NUL
byte. -/
def shown (text : Bytes) : Bytes :=
  Bytes.untilNul (text.take 1023)

lemma line_formatted (level : Level) (domain text : Bytes) :
    (Message.formatted level domain text).line = tag domain ++ shown text ++ Bytes.ascii "\n" := by
  unfold Message.line Message.formatted
  rw [Text.fitted_eq]
  rfl

/-- A formatted text is written as it is iff it has 1023 bytes at most and none of them is NUL. -/
lemma shown_eq_self_iff {text : Bytes} : shown text = text ↔ text.length ≤ 1023 ∧ 0 ∉ text := by
  have hshown : shown text = Text.fitted 1023 text := (Text.fitted_eq 1023 text).symm
  rw [hshown]
  exact Text.fitted_eq_self_iff

/-- A NUL byte cuts off what follows. -/
lemma shown_append_nul {front : Bytes} (hlength : front.length ≤ 1023) (hnul : 0 ∉ front)
    (back : Bytes) : shown (front ++ 0 :: back) = front := by
  unfold shown
  by_cases hfull : front.length = 1023
  · -- the NUL byte is the first one that is cut off
    rw [List.take_left' hfull]
    exact Bytes.untilNul_eq_self_iff.mpr hnul
  · obtain ⟨more, hmore⟩ : ∃ more, 1023 - front.length = more + 1 :=
      ⟨1023 - front.length - 1, by omega⟩
    rw [List.take_append, List.take_of_length_le hlength, hmore, List.take_succ_cons,
      Bytes.untilNul_append_nul]
    exact Bytes.untilNul_eq_self_iff.mpr hnul

lemma tag_eq (domain : Bytes) :
    tag domain = if domain = [] then [] else Bytes.ascii "[" ++ domain ++ Bytes.ascii "] " := by
  unfold tag
  cases domain <;> rfl

/-- One message is one line or nothing. -/
lemma written_singleton (current : Level) (m : Message) :
    written current [m] = if m.level ≤ current then m.line else [] := by
  unfold written admits
  by_cases hlevel : m.level ≤ current <;> simp [hlevel]

end Log

namespace Session.State

variable {E : Engine}

/-! ## Lines of a session -/

lemma logged_log (s : State E) (level : Log.Level) (domain text : Bytes) :
    s.logged (s.step (.log level domain text))
      = if level ≤ s.level then Log.tag domain ++ text ++ Bytes.ascii "\n" else [] :=
  Log.written_singleton s.level ⟨level, domain, text⟩

lemma logged_logFormatted (s : State E) (level : Log.Level) (domain text : Bytes) :
    s.logged (s.step (.logFormatted level domain text))
      = if level ≤ s.level then Log.tag domain ++ Log.shown text ++ Bytes.ascii "\n" else [] := by
  have hwritten := Log.written_singleton s.level (.formatted level domain text)
  rw [Log.line_formatted] at hwritten
  exact hwritten

/-- What is said about a compiled pattern, before it is cut. -/
def compiledText (pattern : Bytes) (groups : ℕ) : Bytes :=
  Bytes.ascii "compiled '" ++ pattern ++ Bytes.ascii "' with " ++ Bytes.ofNat groups ++
    Bytes.ascii " captures"

lemma logged_compile (s : State E) (owner : Name) {pattern : Bytes} {options : Options}
    {code : E.Code} (hne : pattern ≠ []) (h : E.compile pattern options.mask = .ok code) :
    s.logged (s.step (.compile owner pattern options))
      = if 5 ≤ s.level then
          Bytes.ascii "[pcre] " ++ Log.shown (compiledText pattern (E.groups code)) ++
            Bytes.ascii "\n"
        else [] := by
  have hwritten := Log.written_singleton s.level (Registry.compiledMessage pattern (E.groups code))
  have hline : (Registry.compiledMessage pattern (E.groups code)).line
      = Bytes.ascii "[pcre] " ++ Log.shown (compiledText pattern (E.groups code)) ++
        Bytes.ascii "\n" := by
    unfold Registry.compiledMessage
    rw [Log.line_formatted]
    rfl
  rw [hline] at hwritten
  rw [step_compile_of_ok s (Engine.compiled_of_ok hne h)]
  exact hwritten

/-- The ten bytes in front of a pattern leave room for 1013 of its own: there a NUL byte cuts off
the rest of the pattern and all that follows. -/
lemma shown_compiledText_of_nul {front : Bytes} (hlength : front.length ≤ 1013)
    (hnul : 0 ∉ front) (back : Bytes) (groups : ℕ) :
    Log.shown (compiledText (front ++ 0 :: back) groups) = Bytes.ascii "compiled '" ++ front := by
  have hopening : 0 ∉ Bytes.ascii "compiled '" := by decide
  have hnul' : 0 ∉ Bytes.ascii "compiled '" ++ front := by
    rw [List.mem_append]
    rintro (h | h)
    · exact hopening h
    · exact hnul h
  have hlength' : (Bytes.ascii "compiled '" ++ front).length ≤ 1023 := by
    have hten : (Bytes.ascii "compiled '").length = 10 := rfl
    rw [List.length_append, hten]
    omega
  unfold compiledText
  rw [← List.append_assoc, List.append_assoc (_ ++ front), List.append_assoc (_ ++ front),
    List.append_assoc (_ ++ front), List.cons_append]
  exact Log.shown_append_nul hlength' hnul' _

/-- Of a pattern with no NUL byte there, its first 1013 bytes are all that is shown if it has as
many. -/
lemma shown_compiledText_of_long {pattern : Bytes} (hlength : 1013 ≤ pattern.length)
    (hnul : 0 ∉ pattern.take 1013) (groups : ℕ) :
    Log.shown (compiledText pattern groups) = Bytes.ascii "compiled '" ++ pattern.take 1013 := by
  have hopening : 0 ∉ Bytes.ascii "compiled '" := by decide
  have hten : (Bytes.ascii "compiled '").length = 10 := rfl
  have htake : (compiledText pattern groups).take 1023
      = Bytes.ascii "compiled '" ++ pattern.take 1013 := by
    unfold compiledText
    rw [List.append_assoc, List.append_assoc, List.append_assoc, List.take_append, hten,
      List.take_of_length_le (by rw [hten]; omega), List.take_append_of_le_length hlength]
  unfold Log.shown
  rw [htake, Bytes.untilNul_eq_self_iff, List.mem_append]
  rintro (h | h)
  · exact hopening h
  · exact hnul h

/-- Whatever a session did, a text whose level is above the one in force leaves nothing in its log,
and else one line: the domain in brackets unless it is empty, the text, and a line end. A plain text
is there as it is, a formatted one as far as its first 1023 bytes go and the first NUL byte among
them, so the lines are the same iff this cuts nothing or there are none. A pattern that is compiled
leaves a formatted text at level 5, which tells the number of its groups only if the pattern has
less than 1013 bytes and no NUL byte. -/
theorem lines_written (s : State E) (level : Log.Level) (domain text : Bytes) :
    let bracketed : Bytes :=
      if domain = [] then [] else Bytes.ascii "[" ++ domain ++ Bytes.ascii "] "
    let plain := s.logged (s.step (.log level domain text))
    let formatted := s.logged (s.step (.logFormatted level domain text))
    (s.level < level → plain = [] ∧ formatted = []) ∧
    (level ≤ s.level →
      plain = bracketed ++ text ++ Bytes.ascii "\n" ∧
      formatted = bracketed ++ Log.shown text ++ Bytes.ascii "\n") ∧
    (formatted = plain ↔ s.level < level ∨ text.length ≤ 1023 ∧ 0 ∉ text) ∧
    ∀ owner pattern options code, pattern ≠ [] → E.compile pattern options.mask = .ok code →
      let line := s.logged (s.step (.compile owner pattern options))
      (s.level < 5 → line = []) ∧
      (5 ≤ s.level →
        line = Bytes.ascii "[pcre] " ++ Log.shown (compiledText pattern (E.groups code)) ++
          Bytes.ascii "\n" ∧
        (∀ front back, pattern = front ++ 0 :: back → 0 ∉ front → front.length ≤ 1013 →
          line = Bytes.ascii "[pcre] compiled '" ++ front ++ Bytes.ascii "\n") ∧
        (1013 ≤ pattern.length → 0 ∉ pattern.take 1013 →
          line = Bytes.ascii "[pcre] compiled '" ++ pattern.take 1013 ++ Bytes.ascii "\n")) := by
  intro bracketed plain formatted
  have htag : Log.tag domain = bracketed := Log.tag_eq domain
  have hplain := s.logged_log level domain text
  have hformatted := s.logged_logFormatted level domain text
  rw [htag] at hplain hformatted
  refine ⟨fun habove => ?_, fun hle => ?_, ?_, ?_⟩
  · have hnot : ¬level ≤ s.level := UInt32.not_le.mpr habove
    rw [if_neg hnot] at hplain hformatted
    exact ⟨hplain, hformatted⟩
  · rw [if_pos hle] at hplain hformatted
    exact ⟨hplain, hformatted⟩
  · show s.logged (s.step (.logFormatted level domain text))
      = s.logged (s.step (.log level domain text)) ↔ _
    rw [hplain, hformatted, ← UInt32.not_le]
    by_cases hle : level ≤ s.level
    · rw [if_pos hle, if_pos hle, List.append_left_inj, List.append_right_inj,
        Log.shown_eq_self_iff]
      simp [hle]
    · simp [hle]
  · intro owner pattern options code hne hcompile line
    have hline := s.logged_compile owner hne hcompile
    refine ⟨fun hbelow => ?_, fun hle => ?_⟩
    · have hnot : ¬5 ≤ s.level := UInt32.not_le.mpr hbelow
      rw [if_neg hnot] at hline
      exact hline
    · rw [if_pos hle] at hline
      refine ⟨hline, ?_, fun hlength hnul => ?_⟩
      · rintro front back rfl hnul hlength
        rw [shown_compiledText_of_nul hlength hnul] at hline
        exact hline
      · rw [shown_compiledText_of_long hlength hnul] at hline
        exact hline

/-- At level 5, the last of 1024 bytes is left out of a formatted text, 1023 bytes are written
either way, nothing is written at level 6, and the pattern `(x)*` for the byte 0 is cut behind its
first byte. -/
theorem lines_written_with_nul :
    let s : State sample := { level := 5 }
    let bytes (count : ℕ) : Bytes := List.replicate count 120
    let domain := Bytes.ascii "d"
    (5 ≤ s.level ∧
      s.logged (s.step (.log 5 domain (bytes 1024)))
        = Bytes.ascii "[d] " ++ bytes 1024 ++ Bytes.ascii "\n" ∧
      s.logged (s.step (.logFormatted 5 domain (bytes 1024)))
        = Bytes.ascii "[d] " ++ bytes 1023 ++ Bytes.ascii "\n" ∧
      s.logged (s.step (.logFormatted 5 domain (bytes 1024)))
        ≠ s.logged (s.step (.log 5 domain (bytes 1024)))) ∧
    ((bytes 1023).length ≤ 1023 ∧ 0 ∉ bytes 1023 ∧
      s.logged (s.step (.logFormatted 5 [] (bytes 1023)))
        = s.logged (s.step (.log 5 [] (bytes 1023)))) ∧
    (s.level < 6 ∧ s.logged (s.step (.log 6 domain (bytes 1))) = []) ∧
    ([40, 0, 41, 42] : Bytes) ≠ [] ∧
    sample.compile [40, 0, 41, 42] ({} : Options).mask = .ok (.star 0) ∧
    s.logged (s.step (.compile [1] [40, 0, 41, 42] {}))
      = Bytes.ascii "[pcre] compiled '(\n" := by
  intro s bytes domain
  have hlevel : 5 ≤ s.level := by decide
  have hbelow : s.level < 6 := by decide
  have hnul : ∀ count, 0 ∉ bytes count := by
    intro count hmem
    exact absurd (List.eq_of_mem_replicate hmem) (by decide)
  have hshown : Log.shown (bytes 1024) = bytes 1023 := by
    have htake : (bytes 1024).take 1023 = bytes 1023 := List.take_replicate
    unfold Log.shown
    rw [htake]
    exact Bytes.untilNul_eq_self_iff.mpr (hnul 1023)
  have hlength : (bytes 1023).length ≤ 1023 := Nat.le_of_eq List.length_replicate
  have hlength' : ¬(bytes 1024).length ≤ 1023 := by
    rw [List.length_replicate]
    omega
  obtain ⟨-, hlines, hsame, -⟩ := s.lines_written 5 domain (bytes 1024)
  obtain ⟨-, -, hsame', -⟩ := s.lines_written 5 [] (bytes 1023)
  obtain ⟨hnone, -, -, hcompile⟩ := s.lines_written 6 domain (bytes 1)
  have hpattern : ([40, 0, 41, 42] : Bytes) ≠ [] := by decide
  have hcode : sample.compile [40, 0, 41, 42] ({} : Options).mask = .ok (.star 0) := rfl
  obtain ⟨hplain, hformatted⟩ := hlines hlevel
  obtain ⟨-, hcut, -⟩ := (hcompile [1] _ {} _ hpattern hcode).2 hlevel
  refine ⟨⟨hlevel, hplain, ?_, ?_⟩, ⟨hlength, hnul 1023, hsame'.mpr (.inr ⟨hlength, hnul 1023⟩)⟩,
    ⟨hbelow, (hnone hbelow).1⟩, hpattern, hcode, hcut [40] [41, 42] rfl (by decide) (by decide)⟩
  · rw [hformatted, hshown]
    rfl
  · intro hequal
    rcases hsame.mp hequal with habove | ⟨hshort, -⟩
    · exact absurd habove (by decide)
    · exact hlength' hshort

end Session.State

end PatternScan
