import PatternScan.Pattern.Unicode.BidiClass
import PatternScan.Pattern.Unicode.Binary
import PatternScan.Pattern.Unicode.Script

/-!
# Properties of characters

The sets of characters that properties stand for, by their names in lower case without blanks,
hyphens and underscores.
-/

namespace PatternScan.Pattern.Property

/-- Letters and digits. -/
def alnum : CharSet :=
  Category.set (Category.family 'l' ++ Category.family 'n')

/-- The control characters that count as space. -/
def spaceControls : CharSet :=
  CharSet.ofRanges [(9, 13), (0x85, 0x85)]

/-- Space: separators, and the control characters that move on. -/
def space : CharSet :=
  CharSet.union [Category.set (Category.family 'z'), spaceControls, ⟨#[0x180e, 0x180f]⟩]

/-- Letters, digits and the underscore. -/
def word : CharSet :=
  CharSet.union [alnum, ⟨#[95, 96]⟩]

/-- A range without the formatting characters that leave no mark. -/
def invisibleCut : Nat × Nat → List (Nat × Nat)
  | (0x61c, 0x61c) => []
  | (0x180e, 0x180e) => []
  | (0x2066, high) => if high ≤ 0x2069 then [] else [(0x206a, high)]
  | range => [range]

/-- Characters that leave a mark on the page. -/
def graph : CharSet :=
  CharSet.ofRanges
    ((Category.table.ranges fun c => !([.zs, .zl, .zp, .cc, .cs, .cn, .co].contains c)).flatMap
      invisibleCut)

/-- Characters that take room on the page. -/
def print : CharSet :=
  CharSet.union [graph, Category.set [.zs], ⟨#[0x180e, 0x180f]⟩]

/-- Punctuation, and the symbols of ASCII. -/
def punct : CharSet :=
  CharSet.union [Category.set (Category.family 'p'),
    CharSet.ofRanges ((Category.table.ranges (· ∈ Category.family 's')).filterMap
      fun (low, high) => if low < 128 then some (low, min high 127) else none)]

/-- Characters that identifiers of programming languages may spell out. -/
def universal : CharSet :=
  CharSet.ofRanges [(0x24, 0x24), (0x40, 0x40), (0x60, 0x60), (0xa0, 0xd7ff), (0xe000, 0x10ffff)]

/-- The set of a group of categories, or of another set that has no standard name. -/
def general? (name : String) : Option CharSet :=
  match name.toList with
  | ['a', 'n', 'y'] => some CharSet.all
  | ['l', '&'] | ['l', 'c'] => some (Category.set [.lu, .ll, .lt])
  | ['x', 'a', 'n'] => some alnum
  | ['x', 's', 'p'] | ['x', 'p', 's'] => some space
  | ['x', 'w', 'd'] => some word
  | ['x', 'u', 'c'] => some universal
  | [letter] =>
    if (Category.family letter).isEmpty then none
    else some (Category.set (Category.family letter))
  | _ => (Category.all.find? (·.code == name)).map fun c => Category.set [c]

/-- What the names of classes of direction start with. -/
def directionMark : String := "bidi"

/-- The set of a class of direction, by its name. -/
def direction? (name : String) : Option CharSet :=
  if directionMark.toList.isPrefixOf name.toList then
    BidiClass.set? (String.ofList (name.toList.drop directionMark.length))
  else none

/-- The set of a property without a value. Scripts take in the characters that they share. -/
def named? (name : String) : Option CharSet :=
  (general? name).or
    ((Binary.set? name).or
      ((direction? name).or ((Script.named? name).map (Script.set · true))))

/-- The set of a property with its value. -/
def valued? (name value : String) : Option CharSet :=
  if name == "bidiclass" || name == "bc" then named? (directionMark ++ value)
  else if name == "script" || name == "sc" then (Script.named? value).map (Script.set · false)
  else if name == "scriptextensions" || name == "scx" then
    (Script.named? value).map (Script.set · true)
  else none

end PatternScan.Pattern.Property
