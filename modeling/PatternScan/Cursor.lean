import PatternScan.Match

/-!
# The cursor of a scan

A cursor marks how far a buffer has been scanned. Each search of a scan gets the rest of the
buffer as a subject of its own; the cursor hands out that rest and turns offsets in it back
into offsets in the whole buffer. Offsets are 64-bit words and wrap.
-/

namespace PatternScan

/-- A position in a buffer of a known length. -/
structure Cursor where
  position : UInt64
  length : UInt64
deriving DecidableEq, Repr

namespace Cursor

/-- The cursor at the front of a buffer. -/
def ofLength (length : UInt64) : Cursor := ⟨0, length⟩

/-- Whether the whole buffer has been scanned. -/
def isEnd (c : Cursor) : Bool :=
  c.length ≤ c.position

/-- The cursor one byte behind `start`, an offset in the rest of the buffer. -/
def advance (c : Cursor) (start : UInt64) : Cursor :=
  { c with position := min (c.position + start + 1) c.length }

/-- The cursor at the end. -/
def finish (c : Cursor) : Cursor :=
  { c with position := c.length }

/-- The rest of the buffer. -/
def suffix (c : Cursor) (buffer : Bytes) : Except Breach Bytes := do
  Breach.check (buffer.length = c.length.toNat) .bufferLength
  Breach.check (!c.isEnd) .suffixAtEnd
  Breach.check (c.position.toNat ≤ buffer.length) .sliceBeyondEnd
  return buffer.drop c.position.toNat

/-- What the next search goes over: the rest of the buffer, or nothing at its end. -/
def rest? (c : Cursor) (buffer : Bytes) : Except Breach (Option Bytes) :=
  if c.isEnd then .ok none else (c.suffix buffer).map some

/-- The window of `size` bytes on a buffer at `offset`, as far as the buffer reaches. -/
def window (buffer : Bytes) (offset size : UInt64) : Except Breach Extent := do
  Breach.check (offset.toNat ≤ buffer.length) .sliceBeyondEnd
  return ⟨offset.toNat, min size.toNat (buffer.length - offset.toNat)⟩

/-- The span in the whole buffer of a slot for the rest of it. -/
def spanOfSlot (c : Cursor) (buffer : Bytes) (s : Slot) : Except Breach (Span Extent) := do
  if s.isSet then
    Breach.check (s.start ≤ s.stop) .groupReversed
    Breach.check (c.position + s.stop ≤ c.length) .groupBeyondEnd
    let text ← window buffer (c.position + s.start) (s.stop - s.start)
    return ⟨c.position + s.start, c.position + s.stop, some text⟩
  else
    return Span.unset

/-- The span in the whole buffer of a group of a match in the rest of it. -/
def span (c : Cursor) (buffer : Bytes) (m : Match) (group : Nat) :
    Except Breach (Span Extent) := do
  c.spanOfSlot buffer (← m.slot group)

/-- The spans in the whole buffer of the first `count` groups of a match in the rest of it. -/
def spans (c : Cursor) (buffer : Bytes) (m : Match) (count : Nat) :
    Except Breach (Record Extent) :=
  (List.range count).mapM (c.span buffer m)

end Cursor

end PatternScan
