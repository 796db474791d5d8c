import PatternScan.Scan.Step

/-!
# Scanning for all groups

A `GroupScan` goes over a buffer that belongs to its caller and may change between two steps,
so each step takes the buffer as it is then. It yields a record of all groups of each match.
As in a scan for whole matches, the next search starts one byte behind the start of the match
before it; but an empty match ends the scan.
-/

namespace PatternScan

/-- A scan for the groups of all matches. -/
structure GroupScan (E : Engine) where
  pattern : Compiled E
  cursor : Cursor

namespace GroupScan

variable {E : Engine}

/-- The domain of its messages. -/
def domain : Bytes := Bytes.ascii "pcre/group_stream"

/-- The scan over a buffer of a given length, before its first step. -/
def ofLength (pattern : Compiled E) (length : Nat) : GroupScan E :=
  ⟨pattern, .ofLength (UInt64.ofNat length)⟩

/-- The scan over a buffer as its caller hands it over, before its first step. -/
def ofBuffer (pattern : Compiled E) (buffer : View) : GroupScan E :=
  .ofLength pattern buffer.text.length

/-- Where the next search starts. -/
def position (s : GroupScan E) : UInt64 := s.cursor.position

/-- Whether the scan has ended. -/
def isExhausted (s : GroupScan E) : Bool := s.cursor.isEnd

/-- The scan after its end. -/
def finish (s : GroupScan E) : GroupScan E :=
  { s with cursor := s.cursor.finish }

/-- What the next search in `buffer` goes over, if there is one. -/
def rest? (s : GroupScan E) (buffer : Bytes) : Except Breach (Option Bytes) :=
  s.cursor.rest? buffer

/-- The step that a search of the rest of `buffer` leads to. A failure ends the scan, as do a
search in vain and an empty match. -/
def settle (s : GroupScan E) (buffer : Bytes) :
    Except Failure (Option Match) → Except Breach (Scan.Step (GroupScan E) (Record Extent))
  | .error failure => return ⟨.failed failure, s.finish, []⟩
  | .ok none => return ⟨.nothing, s.finish, [Scan.noMatchMessage domain s.position]⟩
  | .ok (some m) => do
    let start ← m.start 0
    if start = (← m.stop 0) then
      return ⟨.nothing, s.finish, [Scan.emptyMatchMessage domain (s.position + start)]⟩
    else
      let count := s.pattern.groups + 1
      Breach.check (m.size = count) .groupCount
      let record ← s.cursor.spans buffer m count
      return ⟨.found record, { s with cursor := s.cursor.advance start }, []⟩

/-- The record of the next match in `buffer`. -/
def next (s : GroupScan E) (buffer : Bytes) :
    Except Breach (Scan.Step (GroupScan E) (Record Extent)) := do
  match ← s.rest? buffer with
  | none => return ⟨.nothing, s, []⟩
  | some rest => s.settle buffer (s.pattern.find rest)

end GroupScan

end PatternScan
