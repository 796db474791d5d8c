/-!
# Byte strings

Patterns, subjects, log lines and error texts are byte strings without an encoding of their
own. Four things live here:

* `Bytes` and `Bytes.ascii`, which spells a byte string by its characters;
* `Bytes.ofNat` and `Bytes.ofInt`, the decimal numerals that messages contain;
* `Bytes.untilNul` and `Bytes.slice`, the two cuts that everything else is stated with;
* `View`, a text as a caller hands it over.
-/

namespace PatternScan

/-- A string of bytes. -/
abbrev Bytes := List UInt8

namespace Bytes

/-- The bytes of a text whose characters all lie below U+0100. -/
def ascii (s : String) : Bytes :=
  s.toList.map fun c => UInt8.ofNat c.toNat

/-- The decimal numeral of a number. -/
def ofNat (n : Nat) : Bytes :=
  (Nat.toDigits 10 n).map fun c => UInt8.ofNat c.toNat

/-- The decimal numeral of an integer, a minus sign in front of a negative one. -/
def ofInt : Int → Bytes
  | .ofNat n => ofNat n
  | .negSucc n => 45 :: ofNat (n + 1)

/-- The longest NUL-free prefix: what a reader of zero-terminated text sees. -/
def untilNul (b : Bytes) : Bytes :=
  b.takeWhile (· != 0)

/-- The bytes at the offsets `start ≤ i < stop`. -/
def slice (b : Bytes) (start stop : Nat) : Bytes :=
  (b.drop start).take (stop - start)

/-- `b` with the bytes from offset `at` on replaced by `new`, as far as they reach. -/
def overwrite (b : Bytes) (offset : Nat) (new : Bytes) : Bytes :=
  b.take offset ++ new ++ b.drop (offset + new.length)

theorem untilNul_length_le (b : Bytes) : b.untilNul.length ≤ b.length :=
  (List.takeWhile_sublist _).length_le

theorem overwrite_length {b new : Bytes} {offset : Nat} (h : offset + new.length ≤ b.length) :
    (b.overwrite offset new).length = b.length := by
  simp only [overwrite, List.length_append, List.length_take, List.length_drop]
  omega

end Bytes

/-- A text as a caller hands it over: the bytes at some place, or the view of no place at all. -/
inductive View
  | null
  | bytes (b : Bytes)
deriving DecidableEq, Repr

namespace View

instance : Coe Bytes View := ⟨.bytes⟩

/-- The text that is worked on; the view of no place stands for the empty text, which does have a
place. -/
def text : View → Bytes
  | .null => []
  | .bytes b => b

theorem text_eq_nil_iff {view : View} : view.text = [] ↔ view = .null ∨ view = .bytes [] := by
  cases view <;> simp [text]

end View

end PatternScan
