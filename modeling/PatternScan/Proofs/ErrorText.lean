import PatternScan.Error
import PatternScan.Proofs.BoundedText
import Mathlib.Data.List.Basic

/-!
# The text of an error tells the error

The message of an error is put together in blocks of bounded size, and the engine fills one of them.
No block is too small for what it gets, so the message is there as a whole and what it was made of
can be read off it again. Three things live here:

* `Bytes.natOf` and `Bytes.intOf`, which read decimal numerals;
* `Code.Texts`, the texts that an engine has, with the promise `Teller.Tells` that it answers with
  them, and the messages that come out of its blocks then;
* `Rejection.read?` and `Code.read?`, which read messages, and `Code.messages_read_back`.
-/

namespace PatternScan

/-! ## Numerals -/

namespace Bytes

/-- Whether a byte is that of a decimal digit. -/
def isDigit (byte : UInt8) : Bool :=
  48 ≤ byte && byte ≤ 57

/-- The number that a row of digits stands for. -/
def natOf (digits : Bytes) : ℕ :=
  Nat.ofDigitChars 10 (digits.map fun byte => Char.ofNat byte.toNat) 0

/-- The integer that a numeral stands for, negative behind a minus sign. -/
def intOf (numeral : Bytes) : ℤ :=
  if numeral.head? = some 45 then -natOf numeral.tail else natOf numeral

lemma natOf_ofNat (n : ℕ) : natOf (ofNat n) = n := by
  have hchars : (ofNat n).map (fun byte => Char.ofNat byte.toNat) = Nat.toDigits 10 n := by
    unfold ofNat
    rw [List.map_map]
    calc (Nat.toDigits 10 n).map _ = (Nat.toDigits 10 n).map id :=
          List.map_congr_left fun c hc => by
            show Char.ofNat (UInt8.ofNat c.toNat).toNat = c
            rw [(digit_of_mem_toDigits hc).1, Char.ofNat_toNat]
      _ = Nat.toDigits 10 n := List.map_id _
  unfold natOf
  rw [hchars]
  exact Nat.ofDigitChars_ten_toDigits

lemma intOf_ofInt (z : ℤ) : intOf (ofInt z) = z := by
  cases z with
  | ofNat n =>
    -- a digit is no minus sign
    have hsign : (ofNat n).head? ≠ some 45 := by
      intro h
      exact absurd (bounds_of_mem_ofNat (List.mem_of_head? h)).1 (by decide)
    show intOf (ofNat n) = n
    rw [intOf, if_neg hsign, natOf_ofNat]
  | negSucc n =>
    show -(natOf (ofNat (n + 1)) : ℤ) = _
    rw [natOf_ofNat]
    rfl

lemma nul_not_mem_ofInt (z : ℤ) : 0 ∉ ofInt z := by
  cases z with
  | ofNat n => exact nul_not_mem_ofNat n
  | negSucc n =>
    show 0 ∉ 45 :: ofNat (n + 1)
    rw [List.mem_cons]
    rintro (h | h)
    · exact absurd h (by decide)
    · exact nul_not_mem_ofNat _ h

/-- A sign takes one byte more than the digits. -/
lemma length_ofInt_le {z : ℤ} {digits : ℕ} (hdigits : 0 < digits) (h : z.natAbs < 10 ^ digits) :
    (ofInt z).length ≤ digits + 1 := by
  cases z with
  | ofNat n => exact Nat.le_succ_of_le (length_ofNat_le hdigits h)
  | negSucc n => exact Nat.succ_le_succ (length_ofNat_le hdigits h)

/-- Digits end at the first byte that is none. -/
lemma span_ofNat_append (n : ℕ) {byte : UInt8} (hbyte : isDigit byte = false) (rest : Bytes) :
    (ofNat n ++ byte :: rest).takeWhile isDigit = ofNat n ∧
      (ofNat n ++ byte :: rest).dropWhile isDigit = byte :: rest := by
  have hdigits : ∀ b ∈ ofNat n, isDigit b = true := by
    intro b hb
    unfold isDigit
    rw [Bool.and_eq_true, decide_eq_true_iff, decide_eq_true_iff]
    exact bounds_of_mem_ofNat hb
  have hnot : ¬isDigit byte = true := by
    rw [hbyte]
    decide
  rw [List.takeWhile_append_of_pos hdigits, List.dropWhile_append_of_pos hdigits,
    List.takeWhile_cons_of_neg hnot, List.dropWhile_cons_of_neg hnot, List.append_nil]
  exact ⟨rfl, rfl⟩

end Bytes

/-! ## Texts that a block has room for -/

namespace Text

/-- A text that a block with room for `room` bytes shows as it is. -/
structure Fits (room : ℕ) (text : Bytes) : Prop where
  length_le : text.length ≤ room
  nul_free : 0 ∉ text

namespace Fits

variable {room : ℕ} {text : Bytes}

lemma fitted_eq (h : Fits room text) : fitted room text = text :=
  fitted_eq_self_iff.mpr ⟨h.length_le, h.nul_free⟩

lemma view_format (h : Fits room text) (block : Bounded room) :
    (block.format text).view = text := by
  rw [block.view_format, ← Text.fitted_eq]
  exact h.fitted_eq

lemma mono (h : Fits room text) {more : ℕ} (hle : room ≤ more) : Fits more text :=
  ⟨h.length_le.trans hle, h.nul_free⟩

/-- A text behind another one takes as much room as both. -/
lemma append (h : Fits room text) {more : ℕ} {behind : Bytes} (hbehind : Fits more behind) :
    Fits (room + more) (text ++ behind) where
  length_le := by
    rw [List.length_append]
    exact Nat.add_le_add h.length_le hbehind.length_le
  nul_free := by
    rw [List.mem_append, not_or]
    exact ⟨h.nul_free, hbehind.nul_free⟩

end Fits

end Text

/-! ## Rejections in words -/

namespace Rejection

/-- The words for a rejection at an offset, whose reason is `text`. -/
def phrase (offset : UInt64) (text : Bytes) : Bytes :=
  Bytes.ascii "Error in regex at offset " ++ Bytes.ofNat offset.toNat ++ Bytes.ascii ": " ++ text

/-- The offset and the reason, read off the words for a rejection. -/
def read? (message : Bytes) : Option (UInt64 × Bytes) := do
  let rest ← message.dropPrefix? (Bytes.ascii "Error in regex at offset ")
  let text ← (rest.dropWhile Bytes.isDigit).dropPrefix? (Bytes.ascii ": ")
  return (.ofNat (Bytes.natOf (rest.takeWhile Bytes.isDigit)), text)

lemma read?_phrase (offset : UInt64) (text : Bytes) :
    read? (phrase offset text) = some (offset, text) := by
  -- the digits of the offset end at the colon behind them
  have hcolon : Bytes.isDigit 58 = false := by decide
  obtain ⟨htake, hdrop⟩ := Bytes.span_ofNat_append offset.toNat hcolon (32 :: text)
  have hopening : (phrase offset text).dropPrefix? (Bytes.ascii "Error in regex at offset ")
      = some (Bytes.ofNat offset.toNat ++ 58 :: 32 :: text) := by
    unfold phrase
    rw [List.append_assoc, List.append_assoc]
    exact List.dropPrefix?_append_of_beq _ BEq.rfl
  have hreason : (Bytes.ascii ": " ++ text).dropPrefix? (Bytes.ascii ": ") = some text :=
    List.dropPrefix?_append_of_beq text BEq.rfl
  unfold read?
  rw [hopening]
  show ((_ : Bytes).dropPrefix? _).bind _ = _
  rw [hdrop]
  show ((Bytes.ascii ": " ++ text).dropPrefix? _).bind _ = _
  rw [hreason]
  show some (UInt64.ofNat (Bytes.natOf _), text) = _
  rw [htake, Bytes.natOf_ofNat, UInt64.ofNat_toNat]

/-- Words for rejections are the same only for the same offset and the same reason. -/
lemma phrase_inj {offset offset' : UInt64} {text text' : Bytes} :
    phrase offset text = phrase offset' text' ↔ offset = offset' ∧ text = text' := by
  constructor
  · intro h
    have hread := congrArg read? h
    rw [read?_phrase, read?_phrase, Option.some.injEq, Prod.mk.injEq] at hread
    exact hread
  · rintro ⟨rfl, rfl⟩
    rfl

/-- An offset has 20 digits at most, so there is room for the words with a reason that had room in a
block of its own. -/
lemma phrase_fits (offset : UInt64) {text : Bytes} (h : Text.Fits Code.textRoom text) :
    Text.Fits Code.messageRoom (phrase offset text) := by
  have hopening : Text.Fits 25 (Bytes.ascii "Error in regex at offset ") :=
    ⟨by decide, by decide⟩
  have hoffset : Text.Fits 20 (Bytes.ofNat offset.toNat) :=
    ⟨Bytes.length_ofNat_le (by decide) (Nat.lt_trans offset.toNat_lt (by decide)),
      Bytes.nul_not_mem_ofNat _⟩
  have hcolon : Text.Fits 2 (Bytes.ascii ": ") := ⟨by decide, by decide⟩
  exact (((hopening.append hoffset).append hcolon).append h).mono (by decide)

end Rejection

namespace Code

/-! ## Texts that name a code -/

/-- The code that a text names, read off the text. -/
def read? (text : Bytes) : Option ℤ :=
  (text.dropPrefix? (Bytes.ascii "PCRE error ")).map Bytes.intOf

lemma read?_fallback (code : ℤ) : read? (fallback code) = some code := by
  unfold read? fallback
  rw [List.dropPrefix?_append_of_beq _ BEq.rfl, Option.map_some, Bytes.intOf_ofInt]

/-- A code has 10 digits and a sign at most. -/
lemma fallback_fits (code : Int32) : Text.Fits textRoom (fallback code.toInt) := by
  have hopening : Text.Fits 11 (Bytes.ascii "PCRE error ") := ⟨by decide, by decide⟩
  have hcode : Text.Fits 11 (Bytes.ofInt code.toInt) := by
    have hle := code.le_toInt
    have hlt := code.toInt_lt
    have habs : code.toInt.natAbs < 10 ^ 10 := by omega
    exact ⟨Bytes.length_ofInt_le (by decide) habs, Bytes.nul_not_mem_ofInt _⟩
  exact (hopening.append hcode).mono (by decide)

/-! ## Asking the engine for a text -/

/-- The texts that an engine has for codes. -/
abbrev Texts := Int32 → Option Bytes

namespace Texts

/-- The text of a code: the engine's, or one that names the code. -/
def textOf (texts : Texts) (code : Int32) : Bytes :=
  (texts code).getD (fallback code.toInt)

/-- Every text is one that its block has room for. -/
def Fit (texts : Texts) : Prop :=
  ∀ code, ∀ text ∈ texts code, Text.Fits textRoom text

lemma Fit.textOf {texts : Texts} (h : texts.Fit) (code : Int32) :
    Text.Fits textRoom (texts.textOf code) := by
  unfold Texts.textOf
  cases htext : texts code with
  | none => exact fallback_fits code
  | some text => exact h code text htext

end Texts

namespace Teller

/-- How an engine that has some texts answers. A text that there is room for goes to the front of
the block, with a terminator behind it, and the answer is not negative; a code without a text is
answered by a negative number. -/
structure Tells (tell : Teller) (texts : Texts) : Prop where
  told : ∀ code block, ∀ text ∈ texts code, text.length ≤ textRoom →
    0 ≤ (tell code block).1 ∧ text ++ [0] <+: (tell code block).2.cells
  refused : ∀ code block, texts code = none → (tell code block).1 < 0

variable {tell : Teller} {texts : Texts}

/-- Whatever the blocks held, the text of the code is what is read. -/
lemma Tells.failure_eq (h : tell.Tells texts) (hfit : texts.Fit) (blocks : Blocks) (code : Int32) :
    tell.failure blocks code = texts.textOf code := by
  unfold failure block Texts.textOf
  cases htext : texts code with
  | none =>
    rw [if_pos (h.refused code blocks.asked htext)]
    exact (fallback_fits code).view_format blocks.spare
  | some text =>
    have hfits := hfit code text htext
    obtain ⟨hanswer, rest, hcells⟩ := h.told code blocks.asked text htext hfits.length_le
    rw [if_neg (Int.not_lt.mpr hanswer)]
    -- reading stops at the terminator, whatever the engine left behind it
    show Bytes.untilNul _ = text
    rw [← hcells, List.append_assoc, List.singleton_append, Bytes.untilNul_append_nul]
    exact Bytes.untilNul_eq_self_iff.mpr hfits.nul_free

lemma Tells.rejection_eq (h : tell.Tells texts) (hfit : texts.Fit) (blocks : Blocks) (code : Int32)
    (offset : UInt64) :
    tell.rejection blocks code offset = Rejection.phrase offset (texts.textOf code) := by
  have htext := h.failure_eq hfit blocks code
  unfold failure at htext
  unfold rejection
  rw [htext]
  exact (Rejection.phrase_fits offset (hfit.textOf code)).view_format blocks.message

end Teller

/-! ## The engine's tables -/

/-- Characters none of which is a NUL byte spell a text that there is room for. -/
lemma fits_ascii_ofList (chars : List Char)
    (h : chars.length ≤ 255 ∧ chars.all (fun c => UInt8.ofNat c.toNat != 0) = true) :
    Text.Fits textRoom (Bytes.ascii (String.ofList chars)) := by
  obtain ⟨hlength, hbytes⟩ := h
  unfold Bytes.ascii
  rw [String.toList_ofList]
  refine ⟨?_, fun hmem => ?_⟩
  · rw [List.length_map]
    exact hlength
  · obtain ⟨c, hc, hnul⟩ := List.mem_map.mp hmem
    exact bne_iff_ne.mp (List.all_eq_true.mp hbytes c hc) hnul

lemma fits_of_mem_rejectionTexts :
    ∀ text ∈ rejectionTexts, Text.Fits textRoom (Bytes.ascii text) := by
  unfold rejectionTexts
  -- each literal is unified with its characters, which is cheaper than computing them
  repeat' refine List.forall_mem_cons.mpr ⟨fits_ascii_ofList _ (by decide +kernel), ?_⟩
  exact List.forall_mem_nil _

lemma fits_of_mem_failureTexts :
    ∀ text ∈ failureTexts, Text.Fits textRoom (Bytes.ascii text) := by
  unfold failureTexts
  repeat' refine List.forall_mem_cons.mpr ⟨fits_ascii_ofList _ (by decide +kernel), ?_⟩
  exact List.forall_mem_nil _

/-- The texts of the tables, as far as codes are words. -/
def tabled : Texts := fun code => known? code.toInt

lemma tabled_fit : tabled.Fit := by
  intro code text htext
  change known? code.toInt = some text at htext
  unfold known? at htext
  split_ifs at htext with hrejected hfailed
  · obtain ⟨s, hs, rfl⟩ := Option.map_eq_some_iff.mp htext
    exact fits_of_mem_rejectionTexts s (List.mem_of_getElem? hs)
  · obtain ⟨s, hs, rfl⟩ := Option.map_eq_some_iff.mp htext
    exact fits_of_mem_failureTexts s (List.mem_of_getElem? hs)

lemma tabledTeller_tells : tabledTeller.Tells tabled where
  told code block text htext hlength := by
    have hknown : known? code.toInt = some text := htext
    have hanswer : tabledTeller code block = ((text.length : ℤ), block.format text) := by
      unfold tabledTeller
      rw [hknown]
      show ((if text.length ≤ textRoom then (text.length : ℤ) else -48), _) = _
      rw [if_pos hlength]
    rw [hanswer]
    refine ⟨Int.natCast_nonneg _, ?_⟩
    rw [block.cells_format, List.take_of_length_le hlength]
    exact ⟨_, (List.append_cons text 0 _).symm⟩
  refused code block hnone := by
    have hknown : known? code.toInt = none := hnone
    unfold tabledTeller
    rw [hknown]
    show (-29 : ℤ) < 0
    decide

end Code

/-- The reason in a rejection's message is the text of the code. -/
lemma Rejection.message_ofCode (code : Int32) (offset : UInt64) :
    (ofCode code.toInt offset).message = phrase offset (Code.tabled.textOf code) := by
  unfold ofCode
  rw [Int32.ofInt_toInt]
  exact Code.tabledTeller_tells.rejection_eq Code.tabled_fit .blank code offset

lemma Failure.message_ofCode (code : Int32) :
    (ofCode code.toInt).message = Code.tabled.textOf code := by
  unfold ofCode
  rw [Int32.ofInt_toInt]
  exact Code.tabledTeller_tells.failure_eq Code.tabled_fit .blank code

namespace Code

/-- Whatever the blocks held, the message of a rejection consists of words, the decimal offset and
the text of the code, and the message of a failure is that text: nothing is cut off. So the offset
and the text can be read off the message of a rejection, and two such messages are the same only if
both are; a code that the engine has no text for can be read off either message. For a text that the
tables have, these are the messages of `Rejection.ofCode` and `Failure.ofCode`. -/
theorem messages_read_back {tell : Teller} {texts : Texts} (htell : tell.Tells texts)
    (hfit : texts.Fit) (blocks : Blocks) (code : Int32) (offset : UInt64) :
    let text := texts.textOf code
    let rejection := tell.rejection blocks code offset
    let failure := tell.failure blocks code
    (rejection = Bytes.ascii "Error in regex at offset " ++ Bytes.ofNat offset.toNat ++
        Bytes.ascii ": " ++ text ∧ rejection.length ≤ messageRoom) ∧
    (failure = text ∧ failure.length ≤ textRoom) ∧
    Rejection.read? rejection = some (offset, text) ∧
    (∀ blocks' code' offset', tell.rejection blocks' code' offset' = rejection ↔
      offset' = offset ∧ texts.textOf code' = text) ∧
    (texts code = none → text = Bytes.ascii "PCRE error " ++ Bytes.ofInt code.toInt ∧
      read? failure = some code.toInt ∧
      (Rejection.read? rejection).bind (fun found => read? found.2) = some code.toInt) ∧
    (texts code = known? code.toInt → (Rejection.ofCode code.toInt offset).message = rejection ∧
      (Failure.ofCode code.toInt).message = failure) := by
  intro text rejection failure
  have hfits : Text.Fits textRoom text := hfit.textOf code
  have hrejection : rejection = Rejection.phrase offset text :=
    htell.rejection_eq hfit blocks code offset
  have hfailure : failure = text := htell.failure_eq hfit blocks code
  have hread : Rejection.read? rejection = some (offset, text) := by
    rw [hrejection]
    exact Rejection.read?_phrase offset text
  refine ⟨⟨hrejection, ?_⟩, ⟨hfailure, ?_⟩, hread, fun blocks' code' offset' => ?_, fun hnone => ?_,
    fun htabled => ?_⟩
  · rw [hrejection]
    exact (Rejection.phrase_fits offset hfits).length_le
  · rw [hfailure]
    exact hfits.length_le
  · rw [htell.rejection_eq hfit, hrejection]
    exact Rejection.phrase_inj
  · have htext : text = fallback code.toInt := by
      show (texts code).getD _ = _
      rw [hnone, Option.getD_none]
    have hcode : read? text = some code.toInt := by
      rw [htext]
      exact read?_fallback code.toInt
    refine ⟨htext, ?_, ?_⟩
    · rw [hfailure]
      exact hcode
    · rw [hread]
      exact hcode
  · have htext : text = tabled.textOf code := by
      show (texts code).getD _ = _
      rw [htabled]
      rfl
    refine ⟨?_, ?_⟩
    · rw [hrejection, htext]
      exact Rejection.message_ofCode code offset
    · rw [hfailure, htext]
      exact Failure.message_ofCode code

/-- The engine has a text for the code 114, here at the offset 4, and none for the code
-2147483647, here at the largest offset. -/
theorem messages_read_back_at_limits :
    let blocks : Blocks :=
      ⟨⟨List.replicate 256 255, List.length_replicate⟩, .zeros textRoom, .zeros messageRoom⟩
    let code : Int32 := 114
    let known := tabledTeller.rejection blocks code 4
    let unknown := tabledTeller.rejection blocks (-2147483647) 18446744073709551615
    tabledTeller.Tells tabled ∧ tabled.Fit ∧
    (known = Bytes.ascii "Error in regex at offset 4: missing closing parenthesis" ∧
      Rejection.read? known = some (4, Bytes.ascii "missing closing parenthesis") ∧
      tabled code = known? code.toInt ∧ (Rejection.ofCode code.toInt 4).message = known) ∧
    (unknown = Bytes.ascii "Error in regex at offset 18446744073709551615: PCRE error -2147483647" ∧
      unknown ≠ known ∧ tabled (-2147483647) = none ∧
      read? (tabledTeller.failure blocks (-2147483647)) = some (-2147483647) ∧
      (Rejection.read? unknown).bind (fun found => read? found.2) = some (-2147483647)) := by
  intro blocks code known unknown
  have htabled : tabled code = known? code.toInt := rfl
  have hnone : tabled (-2147483647) = none := rfl
  obtain ⟨⟨hknown, -⟩, -, hread, hsame, -, hmodel⟩ :=
    messages_read_back tabledTeller_tells tabled_fit blocks code 4
  obtain ⟨⟨hunknown, -⟩, -, -, -, hcode, -⟩ :=
    messages_read_back tabledTeller_tells tabled_fit blocks (-2147483647) 18446744073709551615
  obtain ⟨-, hfailure, hrejection⟩ := hcode hnone
  refine ⟨tabledTeller_tells, tabled_fit, ⟨hknown.trans (by decide +kernel),
    hread.trans (by decide +kernel), htabled, (hmodel htabled).1⟩,
    hunknown.trans (by decide +kernel), fun hequal => ?_, hnone, hfailure, hrejection⟩
  exact absurd ((hsame blocks _ _).mp hequal).1 (by decide)

end Code

end PatternScan
