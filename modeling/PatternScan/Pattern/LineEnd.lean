import PatternScan.Pattern.Setup

/-!
# Line ends

How long the line end is that some characters start with, for every convention.
-/

namespace PatternScan.Pattern.Newline

/-- Whether a character ends a line, by Unicode. -/
def isLineEnd (c : Char) : Bool :=
  ('\n' ≤ c && c ≤ '\r') || c ∈ ['\u0085', '\u2028', '\u2029']

/-- The number of characters of the line end that comes first. -/
def length? (n : Newline) (text : List Char) : Option Nat :=
  match n, text with
  | .cr, '\r' :: _ => some 1
  | .lf, '\n' :: _ => some 1
  | .nul, '\x00' :: _ => some 1
  | .crlf, '\r' :: '\n' :: _ => some 2
  | .anyCrlf, '\r' :: '\n' :: _ => some 2
  | .any, '\r' :: '\n' :: _ => some 2
  | .anyCrlf, c :: _ => if c == '\r' || c == '\n' then some 1 else none
  | .any, c :: _ => if isLineEnd c then some 1 else none
  | _, _ => none

end PatternScan.Pattern.Newline
