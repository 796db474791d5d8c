import PatternScan.Pattern.Syntax
import PatternScan.Pattern.Unicode.Case

/-!
# Classes as sets

The sets that types, named classes and classes in brackets stand for. Types and named classes
know ASCII only; where Unicode properties decide, they are read as properties.
-/

namespace PatternScan.Pattern

/-- The set of some ranges that are given by characters. -/
def CharSet.ofChars (ranges : List (Char × Char)) : CharSet :=
  .ofRanges (ranges.map fun (low, high) => (low.toNat, high.toNat))

/-- The characters of a type. -/
def Kind.set : Kind → CharSet
  | .digit => .ofChars [('0', '9')]
  | .space => .ofChars [('\t', '\r'), (' ', ' ')]
  | .word => .ofChars [('0', '9'), ('A', 'Z'), ('_', '_'), ('a', 'z')]
  | .horizontal =>
    .ofRanges [(0x9, 0x9), (0x20, 0x20), (0xa0, 0xa0), (0x1680, 0x1680), (0x180e, 0x180e),
      (0x2000, 0x200a), (0x202f, 0x202f), (0x205f, 0x205f), (0x3000, 0x3000)]
  | .vertical => .ofRanges [(0xa, 0xd), (0x85, 0x85), (0x2028, 0x2029)]

/-- The characters of a named class. -/
def Posix.set : Posix → CharSet
  | .alpha => .ofChars [('A', 'Z'), ('a', 'z')]
  | .lower => .ofChars [('a', 'z')]
  | .upper => .ofChars [('A', 'Z')]
  | .alnum => .ofChars [('0', '9'), ('A', 'Z'), ('a', 'z')]
  | .ascii => .ofRanges [(0, 0x7f)]
  | .blank => .ofChars [('\t', '\t'), (' ', ' ')]
  | .cntrl => .ofRanges [(0, 0x1f), (0x7f, 0x7f)]
  | .digit => Kind.digit.set
  | .graph => .ofRanges [(0x21, 0x7e)]
  | .print => .ofRanges [(0x20, 0x7e)]
  | .punct => .ofRanges [(0x21, 0x2f), (0x3a, 0x40), (0x5b, 0x60), (0x7b, 0x7e)]
  | .space => Kind.space.set
  | .word => Kind.word.set
  | .xdigit => .ofChars [('0', '9'), ('A', 'F'), ('a', 'f')]

/-- A set or its complement. -/
def CharSet.signed (negated : Bool) (s : CharSet) : CharSet :=
  if negated then s.complement else s

namespace Case

/-- The other cases of the characters of a range. -/
def othersOf (unicode : Bool) (low high : Nat) : List (Nat × Nat) :=
  let within (n : Nat) : Bool := low ≤ n && n ≤ high
  let ascii :=
    [(max low 65 + 32, min high 90 + 32), (max low 97 - 32, min high 122 - 32)].filter
      fun (a, b) => a ≤ b
  if unicode then
    (table.toList.filterMap fun (a, b) => if within a then some (b, b) else none) ++
      (sets.filter (·.any within)).flatMap (·.map fun n => (n, n))
  else ascii

end Case

namespace Bracket

/-- The ranges of a character or a range in a class. -/
def rangeSet (unicode caseless : Bool) (low high : Char) : CharSet :=
  let others := if caseless then Case.othersOf unicode low.toNat high.toNat else []
  .ofRanges ((low.toNat, high.toNat) :: others)

/-- The characters of an element. Regardless of case, the two classes of letters of one case
stand for all letters. -/
def elementSet (unicode caseless : Bool) : Element → CharSet
  | .char c => rangeSet unicode caseless c c
  | .range low high => rangeSet unicode caseless low high
  | .kind k negated => k.set.signed negated
  | .posix p negated =>
    let p := if caseless && (p = .lower || p = .upper) then .alpha else p
    p.set.signed negated
  | .property s negated => s.signed negated

/-- The characters of a class. -/
def set (unicode : Bool) (b : Bracket) : CharSet :=
  (CharSet.union (b.elements.map (elementSet unicode b.caseless))).signed b.negated

end Bracket

end PatternScan.Pattern
