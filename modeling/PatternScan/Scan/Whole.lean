import PatternScan.Scan.Step

/-!
# Scanning for whole matches

A `WholeScan` goes over a text of its own and yields the span of each whole match, empty ones
too. The next search starts one byte behind the start of the match before it, so matches may
overlap; the scan ends at the first search that finds nothing.
-/

namespace PatternScan

/-- A scan for whole matches. -/
structure WholeScan (E : Engine) where
  pattern : Compiled E
  text : Bytes
  cursor : Cursor

namespace WholeScan

variable {E : Engine}

/-- The domain of its messages. -/
def domain : Bytes := Bytes.ascii "pcre/stream"

/-- The scan over a copy of `text`, before its first step. -/
def ofText (pattern : Compiled E) (text : View) : WholeScan E :=
  ⟨pattern, text.text, .ofLength (UInt64.ofNat text.text.length)⟩

/-- Where the next search starts. -/
def position (s : WholeScan E) : UInt64 := s.cursor.position

/-- Whether the scan has ended. -/
def isExhausted (s : WholeScan E) : Bool := s.cursor.isEnd

/-- The scan after its end. -/
def finish (s : WholeScan E) : WholeScan E :=
  { s with cursor := s.cursor.finish }

/-- What the next search goes over, if there is one. -/
def rest? (s : WholeScan E) : Except Breach (Option Bytes) :=
  s.cursor.rest? s.text

/-- The step that a search of the rest of the text leads to. A failure ends the scan, as does a
search in vain. -/
def settle (s : WholeScan E) :
    Except Failure (Option Match) → Except Breach (Scan.Step (WholeScan E) (Span Extent))
  | .error failure => return ⟨.failed failure, s.finish, []⟩
  | .ok none => return ⟨.nothing, s.finish, [Scan.noMatchMessage domain s.position]⟩
  | .ok (some m) => do
    let span ← s.cursor.span s.text m 0
    let start ← m.start 0
    return ⟨.found span, { s with cursor := s.cursor.advance start }, []⟩

/-- The span of the next whole match. -/
def next (s : WholeScan E) : Except Breach (Scan.Step (WholeScan E) (Span Extent)) := do
  match ← s.rest? with
  | none => return ⟨.nothing, s, []⟩
  | some rest => s.settle (s.pattern.find rest)

/-- What a span of this scan reads. -/
def read (s : WholeScan E) (span : Span Extent) : Span Bytes :=
  span.read s.text

/-- The text of the next whole match. -/
def nextText (s : WholeScan E) :
    Except Breach (Scan.Step (WholeScan E) (Option Bytes)) :=
  s.next.map (Scan.Step.map fun span => (s.read span).text)

end WholeScan

end PatternScan
