import PatternScan.Pattern.Fault
import PatternScan.Pattern.Setup
import PatternScan.Pattern.Syntax
import PatternScan.Pattern.Unicode.Case
import PatternScan.Pattern.Utf8

/-!
# Checks of a whole pattern

What is checked once all of a pattern has been read: groups that are referred to exist, the start
of the match is not moved inside a lookaround, and the pattern is not too large. The size is
counted in units, by what each item takes in a compact form in which links take two units; the
checks are made in the order of the pattern, so the first fault counts.
-/

namespace PatternScan.Pattern

namespace Check

/-- The size of a link. -/
def link : Nat := 2

/-- The size of a number. -/
def number : Nat := 2

/-- The size of the two ends of a group. -/
def ends : Nat := 2 + 2 * link

/-- The largest size. -/
def largest : Nat := 65536

/-- What does not change within a group. -/
structure Context where
  setup : Setup
  pattern : Syntax
  /-- The number of groups that are open within the nearest lookaround. -/
  captures : Nat := 0
  inLook : Bool := false

/-- The groups of a name, or a fault if there is none. -/
def namedGroups (c : Context) (s : Name) (offset : Nat) : Except Fault (List Named) :=
  match c.pattern.named s with
  | [] => .error ⟨.noSuchGroup, offset⟩
  | groups => .ok groups

/-- Refuses a group that does not exist. -/
def checkNumber (c : Context) (n offset : Nat) : Except Fault Unit :=
  if n > c.pattern.groups then .error ⟨.noSuchGroup, offset⟩ else .ok ()

/-- The size of a reference to some groups. -/
def referenceSize (shared : Bool) : Nat :=
  if shared then 1 + 2 * number else 1 + number

/-- Checks a target that is called. -/
def checkCall (c : Context) (t : Target) (offset : Nat) : Except Fault Unit :=
  match t with
  | .number n => checkNumber c n offset
  | .name s => discard (namedGroups c s offset)

/-- The size of a reference, if its groups exist. -/
def reference (c : Context) (t : Target) (offset : Nat) : Except Fault Nat := do
  match t with
  | .number n =>
    checkNumber c n offset
    return referenceSize false
  | .name s => return referenceSize ((← namedGroups c s offset).any (·.shared))

/-- Reads the digits behind an `R`; one that makes the number too big is a fault. -/
def calledNumber (n offset : Nat) : List Char → Except Fault Nat
  | [] => .ok n
  | d :: rest =>
    let n := n * 10 + (d.toNat - '0'.toNat)
    if n > 65535 then .error ⟨.groupNumberTooBig, offset⟩ else calledNumber n (offset + 1) rest

/-- The size of a condition, if its groups exist. -/
def condition (c : Context) : Condition → Except Fault Nat
  | .groupSet n offset => do
    checkNumber c n offset
    return 1 + number
  | .nameSet s offset => do
    return referenceSize ((← namedGroups c s offset).any (·.shared))
  | .nameCalled s offset => do
    return referenceSize ((← namedGroups c s offset).any (·.shared))
  | .called s offset => do
    match c.pattern.named s with
    | [] =>
      checkNumber c (← calledNumber 0 (offset + 1) (s.drop 1)) offset
      return 1 + number
    | groups => return referenceSize (groups.any (·.shared))
  | .define _ => return 1
  | .constant _ => return 1
  | .lookaround => return 0

/-- What a group takes in front of its branches. -/
def groupData (c : Context) : Group → Except Fault Nat
  | .capture .. => return number
  | .conditional t => condition c t
  | _ => return 0

/-- The number of units of a character. -/
def units (c : Context) (ch : Char) : Nat :=
  if c.setup.utf then (Utf8.encode ch.toNat).length else 1

/-- The size of a character. -/
def charSize (c : Context) (ch : Char) (caseless : Bool) : Nat :=
  if (c.setup.utf || c.setup.ucp) && caseless && (Case.set? ch).isSome then 3
  else 1 + units c ch

/-- The size of a class. -/
def bracketSize (c : Context) (b : Bracket) : Nat :=
  match b.elements with
  | [.char ch] => charSize c ch b.caseless
  | elements =>
    let isWide (e : Element) : Bool :=
      match e with
      | .property .. => true
      | .range _ high => c.setup.utf && high.toNat > 255
      | .char ch => c.setup.utf && ch.toNat > 255
      | _ => false
    let size (e : Element) : Nat :=
      match e with
      | .property .. => 3
      | .range low high => 1 + units c low + units c high
      | .char ch => 1 + units c ch
      | _ => 0
    if elements.any isWide then
      1 + link + 1 + 32 + ((elements.filter isWide).map size).foldl (· + ·) 0 + 1
    else 33

/-- The size of an atom. -/
def atomSize : Atom → Nat
  | .property .. => 3
  | _ => 1

/-- The size of a verb. -/
def verbSize (c : Context) : Verb → Nat
  | .mark s => 3 + s.length
  | .accept => 1 + c.captures * (1 + number)
  | .fail => 1
  | .commit s => (s.map fun s => 3 + s.length).getD 1
  | .prune s => (s.map fun s => 3 + s.length).getD 1
  | .skip s => (s.map fun s => 3 + s.length).getD 1
  | .andThen s => (s.map fun s => 3 + s.length).getD 1

/-- The size of a repeated item whose own size is `size`, `data` units of which are repeated. -/
def repeatedSingle (size data : Nat) (q : Quantifier) : Nat :=
  let tail (most : Option Nat) : Nat :=
    match most with
    | none => 1 + data
    | some 1 => 1 + data
    | some _ => 1 + number + data
  if q.most = some 0 then 0
  else if q.least = 0 then tail q.most
  else if q.least = 1 then
    match q.most with
    | none => 1 + data
    | some 1 => size
    | some _ => size + 1 + number + data
  else
    let exact := 1 + number + data
    if q.most = some q.least then exact else exact + tail (q.most.map (· - q.least))

/-- What the quantifier of a class or a reference takes. -/
def suffixSize (q : Quantifier) : Nat :=
  match q.least, q.most with
  | 1, some 1 => 0
  | 0, none => 1
  | 1, none => 1
  | 0, some 1 => 1
  | _, _ => 1 + 2 * number

/-- The size of a repeated group of size `size`. -/
def repeatedGroup (size : Nat) (isLook : Bool) (q : Quantifier) : Nat :=
  let most := if isLook then some (q.most.getD (q.least + 1)) else q.most
  let sealing := if q.mode = .possessive ∧ (most ≠ none ∨ 2 ≤ q.least) then ends else 0
  let copies (n : Nat) : Nat := n * (size + 1 + ends) - ends
  if q.least = 1 ∧ q.most = some 1 ∧ q.mode ≠ .possessive then size
  else if q.least = 0 then
    match most with
    | none => 1 + size + sealing
    | some 0 => 1 + size + sealing
    | some 1 => 1 + size + sealing
    | some m => 2 + link + size + 1 + link + copies (m - 1) + sealing
  else
    match most with
    | none => q.least * size + sealing
    | some m => q.least * size + (if m > q.least then copies (m - q.least) else 0) + sealing

/-- The size of a repeated call. -/
def repeatedCall (q : Quantifier) : Nat :=
  let size := 1 + link
  if q.least = 1 ∧ q.most = some 1 ∧ q.mode ≠ .possessive then size
  else
    let copies := if q.least = 1 ∧ q.most = none then 0 else q.least
    if q.most = some q.least ∧ 0 < q.least then
      q.least * size + (if q.mode = .possessive then ends else 0)
    else
      copies * size + repeatedGroup (size + ends) false
        ⟨q.least - copies, q.most.map (· - copies), q.mode⟩

/-- Whether a group never matches its only branch. -/
def isNever : Group → Bool
  | .conditional (.constant false) => true
  | _ => false

/-- Whether a group is a lookaround. -/
def isLook : Group → Bool
  | .look _ => true
  | _ => false

/-- The size of an item of size `size` with its quantifier. -/
def repeated (c : Context) (i : Item) (size : Nat) (q : Quantifier) : Nat :=
  match i with
  | .char ch caseless =>
    repeatedSingle size (if charSize c ch caseless = 3 then 3 else units c ch) q
  | .atom a => repeatedSingle size (atomSize a) q
  | .bracket b =>
    match b.elements with
    | [.char ch] => repeatedSingle size (units c ch) q
    | _ => if q.most = some 0 then 0 else size + suffixSize q
  | .reference .. =>
    if q.most = some 0 then 0
    else size + suffixSize q + (if q.mode = .possessive ∧ suffixSize q ≠ 0 then ends else 0)
  | .call .. => repeatedCall q
  | .group g _ => if isNever g then size else repeatedGroup size (isLook g) q
  | _ => size

/-- The context inside a group. -/
def Context.inside (c : Context) : Group → Context
  | .capture .. => { c with captures := c.captures + 1 }
  | .look _ => { c with captures := 0, inLook := true }
  | _ => c

/-- What each branch of a group takes in front. -/
def stepSize : Group → Nat
  | .look l => if l.behind then 1 + link else 0
  | _ => 0

/-- Whether a group is a lookahead that excludes everything. -/
def neverHolds (g : Group) (branches : List (List Item)) : Bool :=
  match g, branches with
  | .look l, [[]] => l.negated && !l.behind
  | _, _ => false

mutual

/-- The size of an item; `isRepeated` says whether a quantifier follows. -/
def item (c : Context) (isRepeated : Bool) : Item → Except Fault Nat
  | .char ch caseless => return charSize c ch caseless
  | .atom a => return atomSize a
  | .bracket b => return bracketSize c b
  | .anchor _ => return 1
  | .matchStart => if c.inLook then .error ⟨.resetStartInLookaround, c.pattern.stop⟩ else return 1
  | .reference t _ _ offset => reference c t offset
  | .call t _ offset => do
    checkCall c t offset
    return 1 + link
  | .verb v => return verbSize c v
  | .callout size => return size
  | .repeated i q => do return repeated c i (← item c true i) q
  | .group g branches => do
    if !isRepeated && neverHolds g branches then return 1
    else inside (c.inside g) (stepSize g) (ends + (← groupData c g)) branches

/-- The size of a group with what `size` units come before some branches. -/
def inside (c : Context) (step size : Nat) : List (List Item) → Except Fault Nat
  | [] => return size
  | [b] => branch c (size + step) b
  | b :: rest => do inside c step ((← branch c (size + step) b) + 1 + link) rest

/-- The size of a group with what `size` units come before some items of a branch. -/
def branch (c : Context) (size : Nat) : List Item → Except Fault Nat
  | [] => return size
  | i :: rest => do
    let size := size + (← item c false i)
    if size > largest then .error ⟨.tooLarge, 0⟩ else branch c size rest

end

end Check

/-- Checks a pattern that has been read. -/
def Syntax.check (x : Syntax) (setup : Setup) : Except Fault Unit := do
  let size ← Check.inside ⟨setup, x, 0, false⟩ 0 Check.ends x.branches
  if size + 1 > Check.largest then throw ⟨.tooLarge, x.stop⟩

end PatternScan.Pattern
