import PatternScan.Bytes

/-!
# Spans and records

A span says where a group matched: its offsets and its text. The text of a span is kept in
one of two forms, hence the parameter `α`:

* `Extent`, a window on a buffer that is read anew whenever the text is asked for;
* `Bytes`, the text itself, as `Span.read` yields it.

A record is the list of all spans of one match, the whole match first.
-/

namespace PatternScan

/-- The offset that stands for "not set". -/
def npos : UInt64 := 0xffffffffffffffff

/-- A window on a buffer: the text there is whatever the buffer holds when it is read. -/
structure Extent where
  offset : Nat
  size : Nat
deriving DecidableEq, Repr

/-- The bytes that a buffer has in a window. -/
def Extent.read (e : Extent) (buffer : Bytes) : Bytes :=
  buffer.slice e.offset (e.offset + e.size)

/-- Where a group matched, and its text unless the group is unset. -/
structure Span (α : Type) where
  start : UInt64 := npos
  stop : UInt64 := npos
  text : Option α := none
deriving DecidableEq, Repr

namespace Span

variable {α β : Type}

/-- The span of a group that took no part in the match. -/
def unset : Span α := {}

/-- Whether the group took part in the match. -/
def isDefined (s : Span α) : Bool :=
  s.start != npos

/-- Whether both ends are equal; so the unset span is empty too. -/
def isEmpty (s : Span α) : Bool :=
  s.start == s.stop

/-- The span with its text changed. -/
def map (f : α → β) (s : Span α) : Span β :=
  ⟨s.start, s.stop, s.text.map f⟩

/-- The span with the text that `buffer` holds now. -/
def read (s : Span Extent) (buffer : Bytes) : Span Bytes :=
  s.map (Extent.read · buffer)

@[simp] theorem map_start (f : α → β) (s : Span α) : (s.map f).start = s.start := rfl

@[simp] theorem map_stop (f : α → β) (s : Span α) : (s.map f).stop = s.stop := rfl

end Span

/-- The spans of one match, the whole match first. -/
abbrev Record (α : Type) := List (Span α)

/-- The record with the texts that `buffer` holds now. -/
def Record.read (r : Record Extent) (buffer : Bytes) : Record Bytes :=
  List.map (Span.read · buffer) r

end PatternScan
