import PatternScan.Bytes

/-!
# UTF-8

Which byte strings are UTF-8, and how characters are read from those that are. Two things live
here:

* `Utf8.flaw?`, the first place at which a byte string is not UTF-8, with the code that says
  why; sequences of five and six bytes are known, and refused as such;
* `Utf8.charAt` and `Utf8.back`, which read valid text and move over its characters, and
  `Utf8.encode`.
-/

namespace PatternScan.Pattern.Utf8

/-! ## Validity -/

/-- Whether a byte continues a sequence. -/
def isContinuation (b : UInt8) : Bool :=
  b &&& 0xc0 == 0x80

/-- The number of bytes that a lead byte of at least 0xc0 announces after itself. -/
def announced (lead : UInt8) : Nat :=
  if lead < 0xe0 then 1 else if lead < 0xf0 then 2 else if lead < 0xf8 then 3
  else if lead < 0xfc then 4 else 5

/-- What is wrong with a sequence whose second byte is a continuation: a too long form, a
surrogate, or a value beyond the last character. -/
def secondFlaw? (lead second : UInt8) : Option Int :=
  if lead < 0xe0 then
    if lead &&& 0x3e == 0 then some (-17) else none
  else if lead < 0xf0 then
    if lead == 0xe0 && second < 0xa0 then some (-18)
    else if lead == 0xed && second ≥ 0xa0 then some (-16) else none
  else if lead < 0xf8 then
    if lead == 0xf0 && second < 0x90 then some (-19)
    else if lead > 0xf4 || (lead == 0xf4 && second > 0x8f) then some (-15) else none
  else if lead < 0xfc then
    if lead == 0xf8 && second < 0x88 then some (-20) else none
  else
    if lead == 0xfc && second < 0x84 then some (-21) else none

/-- The first of some bytes that does not continue the sequence; `place` is the place of the
first of them in the sequence, counted from one. -/
def brokenAt? (place : Nat) : Bytes → Option Int
  | [] => none
  | b :: rest =>
    if isContinuation b then brokenAt? (place + 1) rest else some (-(place : Int) - 6)

/-- What is wrong with a complete sequence: first a byte that does not continue it, then its
value, then a length that is known but refused. -/
def sequenceFlaw? (lead : UInt8) (tail : Bytes) : Option Int :=
  match tail with
  | [] => none
  | second :: rest =>
    if !isContinuation second then some (-8)
    else
      match brokenAt? 3 rest with
      | some code => some code
      | none =>
        match secondFlaw? lead second with
        | some code => some code
        | none => if tail.length = 4 then some (-13) else if tail.length = 5 then some (-14)
          else none

/-- What is wrong with the character at the front of some bytes, or its length. -/
def frontFlaw? : Bytes → Except Int Nat
  | [] => .ok 0
  | lead :: rest =>
    if lead < 0x80 then .ok 1
    else if lead < 0xc0 then .error (-22)
    else if lead ≥ 0xfe then .error (-23)
    else
      let n := announced lead
      if rest.length < n then .error (-(n - rest.length : Nat) - 2)
      else
        match sequenceFlaw? lead (rest.take n) with
        | some code => .error code
        | none => .ok (n + 1)

/-- `flaw?` for the bytes from an offset on. -/
def flawFrom? : Nat → Nat → Bytes → Option (Int × Nat)
  | 0, _, _ => none
  | _, _, [] => none
  | fuel + 1, offset, b =>
    match frontFlaw? b with
    | .error code => some (code, offset)
    | .ok n => flawFrom? fuel (offset + n) (b.drop n)

/-- The code and the offset of the first place where a byte string is not UTF-8. -/
def flaw? (b : Bytes) : Option (Int × Nat) :=
  flawFrom? (b.length + 1) 0 b

/-! ## Reading valid text -/

/-- The bits that a continuation byte carries. -/
def low (b : UInt8) : Nat := (b &&& 0x3f).toNat

/-- The character at an offset of valid text, and the offset behind it. -/
def charAt (s : ByteArray) (i : Nat) : Nat × Nat :=
  let b (k : Nat) : UInt8 := s[i + k]?.getD 0
  let lead := b 0
  if lead < 0x80 then (lead.toNat, i + 1)
  else if lead < 0xe0 then ((lead &&& 0x1f).toNat * 64 + low (b 1), i + 2)
  else if lead < 0xf0 then
    ((lead &&& 0x0f).toNat * 4096 + low (b 1) * 64 + low (b 2), i + 3)
  else
    ((lead &&& 0x07).toNat * 262144 + low (b 1) * 4096 + low (b 2) * 64 + low (b 3), i + 4)

/-- The nearest start of a character at or before an offset; a character has at most four
bytes. -/
def back (s : ByteArray) (i : Nat) : Nat :=
  let follows (k : Nat) : Bool := isContinuation (s[k]?.getD 0)
  if i = 0 || !follows i then i
  else if i = 1 || !follows (i - 1) then i - 1
  else if i = 2 || !follows (i - 2) then i - 2
  else i - 3

/-- The bytes of a character. -/
def encode (c : Nat) : Bytes :=
  let tail (unit : Nat) : UInt8 := UInt8.ofNat (0x80 + c / unit % 64)
  if c < 0x80 then [UInt8.ofNat c]
  else if c < 0x800 then [UInt8.ofNat (0xc0 + c / 64), tail 1]
  else if c < 0x10000 then [UInt8.ofNat (0xe0 + c / 4096), tail 64, tail 1]
  else [UInt8.ofNat (0xf0 + c / 262144), tail 4096, tail 64, tail 1]

end PatternScan.Pattern.Utf8
