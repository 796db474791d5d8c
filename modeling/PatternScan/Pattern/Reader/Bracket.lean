import PatternScan.Pattern.Reader.Escape

/-!
# Classes in brackets

`bracket` reads a class from behind its opening bracket. A hyphen makes a range if a character
stands before it and behind it; anywhere else it stands for itself, or is a fault where it looks
like a range.
-/

namespace PatternScan.Pattern.Reader

/-- Whether a hyphen would start a range, or has done so. -/
inductive RangeState
  | none
  /-- The last element is a character. -/
  | ready (low : Char)
  /-- A hyphen came behind that character. -/
  | started (low : Char)
deriving DecidableEq, Repr

/-- The elements read so far, the last one first. -/
structure Elements where
  elements : List Element := []
  range : RangeState := .none

namespace Elements

/-- Whether a hyphen is waiting for the end of a range. -/
def isStarted (e : Elements) : Bool :=
  match e.range with
  | .started _ => true
  | _ => false

/-- Adds an element that cannot be in a range. -/
def add (e : Elements) (x : Element) : Elements :=
  ⟨x :: e.elements, .none⟩

/-- All elements, in order; a hyphen that waits in vain stands for itself. -/
def complete (e : Elements) : List Element :=
  (if e.isStarted then .char '-' :: e.elements else e.elements).reverse

end Elements

/-! ## Named classes -/

/-- The named classes. -/
def posixNames : List (String × Posix) :=
  [("alpha", .alpha), ("lower", .lower), ("upper", .upper), ("alnum", .alnum), ("ascii", .ascii),
   ("blank", .blank), ("cntrl", .cntrl), ("digit", .digit), ("graph", .graph), ("print", .print),
   ("punct", .punct), ("space", .space), ("word", .word), ("xdigit", .xdigit)]

/-- The end of what looks like a named class, with the sign and the bracket that close it. -/
def posixEnd? (sign : Char) : List Glyph → Option (List Glyph)
  | a :: b :: more =>
    if a.char == '\\' && (b.char == ']' || b.char == '\\') then posixEnd? sign more
    else if (a.char == '[' && b.char == sign) || a.char == ']' then none
    else if a.char == sign && b.char == ']' then some (a :: b :: more)
    else posixEnd? sign (b :: more)
  | _ => none

/-- The sign and the end of what looks like a named class from behind a bracket. -/
def posix? : List Glyph → Option (Char × List Glyph)
  | g :: more =>
    if g.char ∈ [':', '.', '='] then (posixEnd? g.char more).map fun close => (g.char, close)
    else none
  | [] => none

/-- What a named class stands for if types go by Unicode properties. -/
def posixProperty? : Posix → Option CharSet
  | .alpha => some (Category.set (Category.family 'l'))
  | .lower => some (Category.set [.ll])
  | .upper => some (Category.set [.lu])
  | .alnum => some Property.alnum
  | .cntrl => some (Category.set [.cc])
  | .digit => some (Category.set [.nd])
  | .graph => some Property.graph
  | .print => some Property.print
  | .punct => some Property.punct
  | .space => some Property.space
  | .word => some Property.word
  | .ascii => none
  | .blank => none
  | .xdigit => none

/-- The element for a named class. -/
def posixElement (ucp : Bool) (p : Posix) (negated : Bool) : Element :=
  if ucp then
    if p = .blank then .kind .horizontal negated
    else
      match posixProperty? p with
      | some set => .property set negated
      | none => .posix p negated
  else .posix p negated

/-- What a type stands for if types go by Unicode properties. -/
def kindProperty? : Kind → Option CharSet
  | .digit => some (Category.set [.nd])
  | .space => some Property.space
  | .word => some Property.word
  | .horizontal => none
  | .vertical => none

/-- The type that a letter stands for, and whether it is negated. -/
def kind? (letter : Char) : Option (Kind × Bool) :=
  [('d', (Kind.digit, false)), ('D', (.digit, true)), ('s', (.space, false)), ('S', (.space, true)),
   ('w', (.word, false)), ('W', (.word, true)), ('h', (.horizontal, false)),
   ('H', (.horizontal, true)), ('v', (.vertical, false)), ('V', (.vertical, true))].lookup letter

/-- The element for a type. -/
def kindElement (ucp : Bool) (k : Kind) (negated : Bool) : Element :=
  match if ucp then kindProperty? k else none with
  | some set => .property set negated
  | none => .kind k negated

/-! ## The loop -/

/-- A hyphen behind a type or a named class must be the last element. -/
def refuseHyphen : Read Unit := do
  match ← rest with
  | ⟨'-', _⟩ :: ⟨c, _⟩ :: _ => if c != ']' then fault .invalidClassRange
  | _ => return

/-- Adds a character, or ends a range with it. -/
def classChar (e : Elements) (c : Char) : Read Elements := do
  match e.range with
  | .started low =>
    if c = low then return { e with range := .none }
    else if c < low then faultBack .rangeOutOfOrder
    else return ⟨.range low c :: e.elements.drop 1, .none⟩
  | _ => return ⟨.char c :: e.elements, .ready c⟩

/-- Adds a named class, read from behind its opening bracket. -/
def classNamed (e : Elements) (sign : Char) (close : List Glyph) : Read Elements := do
  if e.isStarted then fault .invalidClassRange
  if sign != ':' then faultBefore .collatingElement
  skip 1
  let negated ← accept '^'
  let glyphs ← rest
  let name := (glyphs.take (glyphs.length - close.length)).map (·.char)
  match posixNames.lookup (String.ofList name) with
  | none => fault .unknownClassName
  | some p =>
    moveTo (close.drop 2)
    refuseHyphen
    return e.add (posixElement (← get).setup.ucp p negated)

/-- Adds what an escape stands for. -/
def classEscape (e : Elements) : Read Elements := do
  match ← escape true with
  | .char c => classChar e c
  | .backReference _ => faultBefore .escapeInClass
  | .letter c =>
    let ucp := (← get).setup.ucp
    if c == 'b' then classChar e '\x08'
    else if c == 'Q' then
      modify fun s => { s with quoted := true }
      return e
    else if c == 'E' then return e
    else if c ∈ ['B', 'R', 'X'] then faultBefore .escapeInClass
    else if e.isStarted then fault .invalidClassRange
    else if c == 'N' then fault .notNewlineInClass
    else if let some (k, negated) := kind? c then
      refuseHyphen
      return e.add (kindElement ucp k negated)
    else if c == 'p' || c == 'P' then
      let (set, negated) ← property
      refuseHyphen
      return e.add (.property set (negated != (c == 'P')))
    else faultBefore .escapeInClass

/-- Adds what the character `c` starts. -/
def classItem (e : Elements) (c : Char) : Read Elements := do
  let s ← get
  if s.quoted then
    if c == '\\' && (← accept 'E') then
      modify fun s => { s with quoted := false }
      return e
    else classChar e c
  else if s.flags.extendedMore && (c == ' ' || c == '\t') then return e
  else if c == '\\' then classEscape e
  else
    match c, posix? s.rest, e.range with
    | '[', some (sign, close), _ => classNamed e sign close
    | '-', _, .ready low => return { e with range := .started low }
    | _, _, _ => classChar e c

/-- Reads a class from an element on that starts with `c`. -/
def classFrom : Nat → Elements → Char → Read (List Element)
  | 0, _, _ => fault .unclosedClass
  | fuel + 1, e, c => do
    let e ← classItem e c
    match ← next with
    | none => fault .unclosedClass
    | some c => if c == ']' && !(← get).quoted then return e.complete else classFrom fuel e c

/-- Reads what may stand before the first element: a `^`, and escapes that stand for nothing.
Gives the character of the first element, or the last one of the pattern. -/
def classStart : Nat → Char → Bool → Read (Char × Bool)
  | 0, c, negated => return (c, negated)
  | fuel + 1, last, negated => do
    match ← next with
    | none => return (last, negated)
    | some c =>
      if c == '\\' then
        if ← comes "E" then
          skip 1
          classStart fuel c negated
        else if ← comes "Q\\E" then
          skip 3
          classStart fuel c negated
        else return (c, negated)
      else if (← get).flags.extendedMore && (c == ' ' || c == '\t') then classStart fuel c negated
      else if c == '^' && !negated then classStart fuel c true
      else return (c, negated)

/-- The start or the end of a word, which have a bracketed form of their own. -/
def wordEdge (behind : Bool) : Read Unit := do
  let s ← get
  let place ← here
  let w : Atom :=
    if s.setup.ucp then .property Property.word false else .kind .word false
  put (.anchor (.wordBoundary false))
  put (.group (.look ⟨behind, false, true, place, 0⟩) [[.atom w]])

/-- Reads a class from behind its opening bracket. -/
def bracket : Read Unit := do
  if ← comes "[:<:]]" then
    wordEdge false
    skip 6
  else if ← comes "[:>:]]" then
    wordEdge true
    skip 6
  else
    let glyphs ← rest
    if let some (sign, _) := posix? glyphs then
      faultBefore (if sign == ':' then .classNameOutsideClass else .collatingElement)
    let (c, negated) ← classStart glyphs.length '[' false
    let elements ← classFrom (glyphs.length + 1) {} c
    put (.bracket ⟨negated, elements, (← get).flags.caseless⟩)
  modify fun s => { s with mayRepeat := true }

end PatternScan.Pattern.Reader
