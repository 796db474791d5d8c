import PatternScan.Pattern.Classes
import PatternScan.Pattern.Fault
import PatternScan.Pattern.Program
import PatternScan.Pattern.Setup
import PatternScan.Pattern.Utf8
import PatternScan.Pattern.Width

/-!
# Lowering

How a pattern becomes a program, and what is learnt about it on the way. Three things live here:

* `First` and `Required`, the unit that every match starts with, and one that every match holds
  later, with the rules by which they are drawn from items, quantifiers and branches;
* `Lower.repeatGroup`, which writes out the copies of a quantified group;
* `Syntax.lowered`, the program of a pattern with the facts about it.
-/

namespace PatternScan.Pattern

/-! ## Units -/

/-- The unit that a match starts with, if one is known. -/
inductive First
  /-- Nothing has been seen yet that consumes. -/
  | unset
  /-- There is none. -/
  | none
  | unit (u : UInt8) (caseless : Bool)
deriving DecidableEq, Repr

/-- A unit that a match must hold. -/
structure Required where
  unit : UInt8
  caseless : Bool
  /-- Whether something of variable length comes before it. -/
  varies : Bool
deriving DecidableEq, Repr

/-- The first unit as one that is required. -/
def First.required? : First → Option Required
  | .unit u caseless => some ⟨u, caseless, false⟩
  | _ => Option.none

/-- Whether a first unit is known. -/
def First.isKnown (f : First) : Bool :=
  f.required?.isSome

/-- What consuming something of many units does to the first unit. -/
def First.orNone : First → First
  | .unset => .none
  | f => f

namespace Lower

/-! ## State -/

/-- What is learnt about the pattern as a whole. -/
structure Facts where
  /-- Something of variable length has been passed. -/
  varies : Bool := false
  /-- A carriage return or a line feed is spelled out. -/
  hasLineEnd : Bool := false
  hasAccept : Bool := false
  hasPruneOrSkip : Bool := false
  hasThen : Bool := false
  /-- The groups that are referred to. -/
  referred : List Nat := []

/-- What a quantifier may be applied to. -/
inductive Previous
  | nothing
  /-- A character, of one unit if that is given. -/
  | char (s : Single) (u : Option (UInt8 × Bool))
  | single (s : Single)
  | reference (groups : List Nat) (caseless : Bool)
  | call (n : Nat)
  | group (n : Node)

/-- A branch that is being lowered. -/
structure Draft where
  /-- The nodes so far, the last one first. -/
  nodes : List Node := []
  first : First := .unset
  required : Option Required := none
  /-- The units if the last item does not occur. -/
  firstBefore : First := .unset
  requiredBefore : Option Required := none
  /-- Whether the last item consumes. -/
  consumes : Bool := false
  consumedBefore : Bool := false
  /-- Whether the branch matches at least one character. -/
  nonEmpty : Bool := false
  /-- Whether the branch has been cut short. -/
  accepted : Bool := false
  /-- Whether the last item is a group that gave the first unit. -/
  groupSetFirst : Bool := false
  previous : Previous := .nothing
  /-- Whether the last item may match nothing. -/
  previousMayBeEmpty : Bool := false
  /-- The offset for faults. -/
  offset : Nat := 0

/-- What does not change within a group. -/
structure Context where
  setup : Setup
  pattern : Syntax
  widths : Widths
  /-- The groups that are open within the nearest lookaround, the innermost first. -/
  captures : List Nat := []
  inLook : Bool := false

/-- Whether Unicode decides about case. -/
def Context.unicode (c : Context) : Bool :=
  c.setup.utf || c.setup.ucp

/-- A computation that lowers. -/
abbrev Computation := StateT Facts (Except Fault)

/-- A group or a branch that has been lowered. -/
structure Outcome (α : Type) where
  code : α
  first : First
  required : Option Required
  nonEmpty : Bool

/-! ## Items that consume -/

/-- Starts an item. -/
def Draft.begin (d : Draft) : Draft :=
  { d with nonEmpty := d.nonEmpty || (d.consumes && !d.accepted)
           consumedBefore := d.consumes
           consumes := false }

/-- Notes the units as they are if the last item does not occur. -/
def Draft.remember (d : Draft) : Draft :=
  { d with firstBefore := d.first, requiredBefore := d.required }

/-- The bytes of a character. -/
def bytesOf (utf : Bool) (c : Char) : Bytes :=
  if utf then Utf8.encode c.toNat else [UInt8.ofNat c.toNat]

/-- Appends something that consumes but has no single first unit. -/
def Draft.single (d : Draft) (s : Single) : Draft :=
  let d := { d with consumes := true, first := d.first.orNone }
  { d.remember with nodes := .one s :: d.nodes, previous := .single s }

/-- The other case of a character. -/
def otherCase (unicode : Bool) (c : Char) : Char :=
  if unicode then Case.other c else Case.otherAscii c

/-- Appends a character that has at most one other case. -/
def Draft.char (d : Draft) (c : Context) (ch : Char) (caseless : Bool) (varies : Bool) : Draft :=
  let bytes := bytesOf c.setup.utf ch
  let s := if caseless then Single.caseless ch (otherCase c.unicode ch) else .char ch
  let isSingle := bytes.length = 1
  let head := bytes.headD 0
  let last := bytes.getLastD 0
  let d := { d with
    consumes := true, nodes := .one s :: d.nodes
    previous := .char s (if isSingle then some (head, caseless) else none) }
  if d.first = .unset then
    let d := { d with firstBefore := .none, requiredBefore := d.required }
    if isSingle then { d with first := .unit head caseless }
    else if caseless then { d with first := .none, required := none }
    else { d with first := .unit head false, required := some ⟨last, false, varies⟩ }
  else
    let d := d.remember
    if isSingle || !caseless then { d with required := some ⟨last, caseless, varies⟩ } else d

/-- Appends a character that equals more than one other. -/
def Draft.letters (d : Draft) (cs : List Char) : Draft :=
  let s := Single.set .letters (.ofChars (cs.map fun c => (c, c)))
  let d := { d with consumes := true, nodes := .one s :: d.nodes, previous := .single s }
  if d.first = .unset then { d with first := .none, firstBefore := .none } else d

/-- Appends all characters but one. -/
def Draft.excluded (d : Draft) (c : Context) (ch : Char) (caseless : Bool) : Draft :=
  let cases :=
    if !caseless then [ch]
    else if c.unicode then
      match Case.set? ch with
      | some cs => cs
      | none => [ch, Case.other ch]
    else [ch, Case.otherAscii ch]
  let s := Single.set .excluded (CharSet.ofChars (cases.map fun c => (c, c))).complement
  let d := d.single s
  { d with previous := .char s none }

/-- Whether a character is one that a line end is made of. -/
def isLineEndUnit (c : Char) : Bool :=
  c == '\r' || c == '\n'

/-- Notes a line end that is spelled out. -/
def noteChar (c : Char) : Computation Unit :=
  modify fun f => { f with hasLineEnd := f.hasLineEnd || isLineEndUnit c }

/-- Appends a character. -/
def literal (c : Context) (d : Draft) (ch : Char) (caseless : Bool) : Computation Draft := do
  if c.unicode && caseless then
    if let some cs := Case.set? ch then return d.letters cs
  noteChar ch
  return d.char c ch caseless (← get).varies

/-- The pair of cases that a class of two characters stands for. -/
def casePair? (c : Context) : List Element → Option Char
  | [.char a, .char b] =>
    if (Case.set? a).isNone && a ≠ otherCase c.unicode a && b = otherCase c.unicode a then some a
    else none
  | _ => none

/-- The first and last characters that the elements of a class spell out. -/
def spelled : Element → List Char
  | .char c => [c]
  | .range low high => [low, high]
  | _ => []

/-- Whether an element is a property. -/
def isProperty : Element → Bool
  | .property .. => true
  | _ => false

/-- Appends a class. A class of one character, or of both cases of one, is a character. -/
def bracket (c : Context) (d : Draft) (b : Bracket) : Computation Draft := do
  match b.elements, b.negated, casePair? c b.elements with
  | [.char ch], false, _ => literal c d ch b.caseless
  | [.char ch], true, _ => return d.excluded c ch b.caseless
  | _, false, some ch =>
    noteChar ch
    return d.char c ch true (← get).varies
  | _, _, _ =>
    for ch in b.elements.flatMap spelled do noteChar ch
    let origin := if b.elements.any isProperty then Origin.property else .bracket
    return d.single (.set origin (b.set c.unicode))

/-- What an atom matches. -/
def atomSingle (utf : Bool) : Atom → Single
  | .any => .any
  | .notNewline => .notNewline
  | .byte => if utf then .byte else .any
  | .newline => .newline
  | .cluster => .cluster
  | .kind k negated =>
    let isList := negated && (k = .horizontal || k = .vertical)
    .set (if isList then .excluded else .kind) (k.set.signed negated)
  | .property s negated => .set .property (s.signed negated)

/-! ## References -/

/-- The groups of a target. -/
def groupsOf (c : Context) : Target → List Nat
  | .number n => [n]
  | .name s => (c.pattern.named s).map (·.number)

/-- Appends a reference. -/
def reference (c : Context) (d : Draft) (t : Target) (caseless : Bool) (offset : Nat) :
    Computation Draft := do
  let groups := groupsOf c t
  modify fun f => { f with referred := groups ++ f.referred }
  let d := { d with
    nodes := .reference groups caseless none :: d.nodes
    previous := .reference groups caseless
    offset }
  if d.first = .unset then
    let firstBefore := if groups.length = 1 then .none else d.firstBefore
    return { d with first := .none, firstBefore }
  else return d

/-- Appends a call. -/
def call (c : Context) (d : Draft) (t : Target) (offset : Nat) : Draft :=
  let n := (groupsOf c t).headD 0
  let d := { d with
    nodes := .call n :: d.nodes, previous := .call n, groupSetFirst := false
    first := d.first.orNone, offset }
  { d with firstBefore := d.first }

/-! ## Verbs -/

/-- Appends a verb. -/
def verb (c : Context) (d : Draft) (v : Verb) : Computation Draft := do
  let add (n : Node) (d : Draft) : Draft := { d with nodes := n :: d.nodes }
  let prunes : Computation Unit := modify fun f => { f with hasPruneOrSkip := true }
  match v with
  | .mark s => return add (.mark s) d
  | .fail => return add .fail d
  | .commit s => return add (.commit s.isSome) d
  | .prune s =>
    prunes
    return add (.prune s.isSome) d
  | .skip none =>
    prunes
    return add .skip d
  | .skip (some s) =>
    prunes
    return add (.skipTo s) d
  | .andThen s =>
    modify fun f => { f with hasThen := true }
    return add (.andThen s.isSome 0) d
  | .accept =>
    modify fun f => { f with hasAccept := true }
    return add (.accept c.captures c.inLook)
      { d with accepted := true, first := d.first.orNone }

/-! ## Quantifiers -/

/-- Some copies of a group, each of which is inside the one before, and may be left out. -/
def nested (lazy : Bool) (n : Node) : Nat → List Node
  | 0 => []
  | 1 => [.maybe lazy n]
  | k + 2 => [.maybe lazy (.plain (n :: nested lazy n (k + 1)))]

/-- The ending of a group replaced. -/
def withEnding (e : Ending) : Node → Node
  | .group b _ branches stops => .group b e branches stops
  | n => n

/-- Whether a group is a conditional one that never matches its only branch. -/
def isNever : Node → Bool
  | .group (.conditional (.constant false)) _ [_] _ => true
  | _ => false

/-- Whether a group is a lookaround. -/
def isLook : Node → Bool
  | .group (.look ..) _ _ _ => true
  | _ => false

/-- The last copy of a group that repeats without end, and whether the copies still have to be
made final as a whole. -/
def endless (n : Node) (q : Quantifier) : Node × Bool :=
  let turn : Ending := if q.mode = .lazy then .lazy else .greedy
  match n, q.mode with
  | .group .scriptRun _ _ _, .possessive => (withEnding turn n, true)
  | .group (.conditional t) _ branches stops, .possessive =>
    (.group .plain (.possessive (q.least = 0))
      [[.group (.conditional t) .once branches stops]] [], 2 ≤ q.least)
  | .group .atomic _ branches stops, .possessive =>
    (.group .plain (.possessive (q.least = 0)) branches stops, 2 ≤ q.least)
  | n, .possessive => (withEnding (.possessive (q.least = 0)) n, 2 ≤ q.least)
  | n, _ => (withEnding turn n, false)

/-- A group with its quantifier written out, and whether the copies still have to be made final
as a whole. -/
def repeatGroup (n : Node) (q : Quantifier) : List Node × Bool :=
  let isPossessive := q.mode = .possessive
  let isLazy := q.mode = .lazy
  let most := if isLook n then some (q.most.getD (q.least + 1)) else q.most
  if (q.least = 1 ∧ q.most = some 1 ∧ !isPossessive) ∨ isNever n then ([n], false)
  else
    match most with
    | some 0 => ([.never n], isPossessive)
    | some most => (List.replicate q.least n ++ nested isLazy n (most - q.least), isPossessive)
    | none =>
      let (last, remains) := endless n q
      if q.least = 0 then
        ([if isPossessive && !remains then last else .maybe isLazy last], remains)
      else (List.replicate (q.least - 1) n ++ [last], remains)

/-- A call with its quantifier written out. -/
def repeatCall (n : Nat) (q : Quantifier) : List Node :=
  let isPossessive := q.mode = .possessive
  if q.least = 1 ∧ q.most = some 1 ∧ !isPossessive then [.call n]
  else
    let copies := if q.least = 1 ∧ q.most = none then 0 else q.least
    let whole : List Node × Bool :=
      if q.most = some q.least ∧ 0 < q.least then
        (List.replicate q.least (Node.call n), isPossessive)
      else
        let (more, remains) :=
          repeatGroup (.plain [.call n])
            ⟨q.least - copies, q.most.map (· - copies), q.mode⟩
        (List.replicate copies (.call n) ++ more, remains)
    if whole.2 then [.sealed whole.1] else whole.1

/-- The nodes in place of the last one, for its quantifier. -/
def repeatedNodes (p : Previous) (q : Quantifier) : List Node :=
  let isOnce := q.least = 1 ∧ q.most = some 1
  match p with
  | .nothing => []
  | .char s _ => if isOnce then [.one s] else if q.most = some 0 then [] else [.many s q]
  | .single s => if isOnce then [.one s] else if q.most = some 0 then [] else [.many s q]
  | .reference groups caseless =>
    if isOnce then [.reference groups caseless none]
    else if q.most = some 0 then []
    else
      let n := Node.reference groups caseless (some q)
      if q.mode = .possessive then [.sealed [n]] else [n]
  | .call n => repeatCall n q
  | .group n =>
    let (nodes, remains) := repeatGroup n q
    if remains then [.sealed nodes] else nodes

/-- The unit that is required behind an item and its quantifier. -/
def repeatedRequired (d : Draft) (q : Quantifier) (varies : Bool) : Option Required :=
  match d.previous with
  | .char _ (some (u, caseless)) =>
    if 1 < q.least then some ⟨u, caseless, varies⟩ else d.required
  | .group n =>
    if 1 < q.least && d.groupSetFirst && d.required.isNone && !isNever n then d.first.required?
    else d.required
  | _ => d.required

/-- Applies a quantifier to the last item, which made the nodes above `below`. -/
def quantify (d : Draft) (below : List Node) (q : Quantifier) : Computation Draft := do
  let varies := (← get).varies
  let d := { d with
    consumes := d.consumes && 0 < q.least
    consumedBefore := d.consumes }
  let d :=
    if q.least = 0 then { d with first := d.firstBefore, required := d.requiredBefore } else d
  let d := { d with
    required := repeatedRequired d q varies
    nodes :=
      match d.previous with
      | .nothing => d.nodes
      | p => (repeatedNodes p q).reverse ++ below
    previous := .nothing }
  if q.most ≠ some q.least then modify fun f => { f with varies := true }
  return d

/-! ## Branches and groups -/

/-- The units of a group, from those of the branches so far and those of one more. -/
def mergeUnits (a b : First × Option Required) : First × Option Required :=
  let (first, required) :=
    if a.1 = b.1 then a
    else (First.none, if a.1.isKnown && a.2.isNone then a.1.required? else a.2)
  let required' :=
    if !first.isKnown && b.1.isKnown && b.2.isNone then b.1.required? else b.2
  match required, required' with
  | some r, some r' =>
    if r.unit = r'.unit ∧ r.caseless = r'.caseless then
      (first, some { r with varies := r.varies || r'.varies })
    else (first, none)
  | _, _ => (first, none)

/-- The units of a group from those of its branches. -/
def unitsOf : List (First × Option Required) → First × Option Required
  | [] => (.unset, none)
  | a :: rest => rest.foldl mergeUnits a

/-- Takes over the units of a group that is no lookaround; `varied` says whether something of
variable length came before it. -/
def Draft.takeUnits (d : Draft) (first : First) (required : Option Required) (varied : Bool) :
    Draft :=
  let d := { d.remember with groupSetFirst := false }
  let setRequired (r : Option Required) (d : Draft) : Draft :=
    if r.isSome then { d with required := r } else d
  if d.first = .unset && first != .unset then
    let d := { d with
      first, groupSetFirst := first.isKnown, firstBefore := .none }
    setRequired required d
  else if first.isKnown && required.isNone then
    setRequired (first.required?.map fun r => { r with varies := varied }) d
  else setRequired required d

/-- Takes over the units of a group. -/
def Draft.takeGroup (d : Draft) (b : Block) (o : Outcome Node) (varied : Bool) : Draft :=
  match b with
  | .look behind negated _ =>
    let d := { d.remember with groupSetFirst := false }
    if !behind && !negated && o.first.isKnown && o.required.isSome then
      { d with required := o.required }
    else d
  | _ => d.takeUnits o.first o.required varied

/-- The test of a condition, and the offset for faults of its group. -/
def testOf (c : Context) (offset : Nat) : Condition → Test × Nat
  | .groupSet n at' => (.isSet [n], at' - 2)
  | .nameSet s at' => (.isSet (groupsOf c (.name s)), at')
  | .nameCalled s at' => (.isCalled (groupsOf c (.name s)), at')
  | .called s at' =>
    match groupsOf c (.name s) with
    | [] =>
      let n := (s.drop 1).foldl (fun n d => n * 10 + (d.toNat - '0'.toNat)) 0
      (if n = 0 ∨ n = largestNumber then .anyCall else .isCalled [n], at')
    | groups => (.isSet groups, at')
  | .define at' => (.constant false, at')
  | .constant b => (.constant b, offset)
  | .lookaround => (.lookaround, offset)
where
  /-- The number that stands for any group. -/
  largestNumber : Nat := 0xffff

/-- What a group does beside its branches. -/
def blockOf (c : Context) (offset : Nat) : Group → Block × Nat
  | .plain => (.plain, offset)
  | .capture n _ _ => (.capture n, offset)
  | .atomic => (.atomic, offset)
  | .scriptRun => (.scriptRun, offset)
  | .look l => (.look l.behind l.negated l.atomic, offset)
  | .conditional condition =>
    let (t, offset) := testOf c offset condition
    (.conditional t, offset)

/-- The context inside a group. -/
def Context.inside (c : Context) : Group → Context
  | .capture n _ _ => { c with captures := n :: c.captures }
  | .look _ => { c with captures := [], inLook := true }
  | _ => c

/-- The nodes with a step back in front, for a branch of a lookbehind. -/
def steppedBack (width : Nat) (nodes : List Node) : List Node :=
  if width = 0 then nodes else .back width :: nodes

/-- Whether a group is one that only defines others. -/
def isDefinition : Group → Bool
  | .conditional (.define _) => true
  | _ => false

/-- Refuses a conditional group with too many branches. -/
def checkBranches (g : Group) (count offset : Nat) : Computation Unit :=
  match g with
  | .conditional (.define _) =>
    if 1 < count then throw ⟨.definitionWithBranches, offset⟩ else return
  | .conditional _ => if 2 < count then throw ⟨.tooManyConditionBranches, offset⟩ else return
  | _ => return

/-- Appends a group that has been lowered. -/
def appendGroup (d : Draft) (g : Group) (b : Block) (count : Nat) (o : Outcome Node)
    (varied : Bool) : Draft :=
  let d := { d with nodes := o.code :: d.nodes, previous := .group o.code }
  if isDefinition g then d
  else
    let consumes :=
      match g with
      | .look _ => false
      | .conditional _ => count = 2 && o.nonEmpty
      | _ => o.nonEmpty
    let o :=
      match g with
      | .conditional _ => if count = 1 then { o with first := .none, required := none } else o
      | _ => o
    { d with consumes }.takeGroup b o varied

/-- Whether a group is a lookahead that excludes everything. -/
def neverHolds (g : Group) (branches : List (List Item)) : Bool :=
  match g, branches with
  | .look l, [[]] => l.negated && !l.behind
  | _, _ => false

/-- The widths of the branches of a group, if it is a lookbehind. -/
def Context.widthsOf (c : Context) : Group → List Nat
  | .look l => if l.behind then (c.widths.lookup l.place).getD [] else []
  | _ => []

/-- Appends a group whose branches have been lowered; `varied` says whether something of variable
length came before it. -/
def group (c : Context) (d : Draft) (g : Group) (branches : List (Outcome (List Node)))
    (varied : Bool) : Computation Draft := do
  let (b, offset) := blockOf c d.offset g
  checkBranches g branches.length offset
  let (first, required) := unitsOf (branches.map fun o => (o.first, o.required))
  let o : Outcome Node :=
    ⟨.group b .once (branches.map (·.code)) [], first, required, branches.all (·.nonEmpty)⟩
  return { appendGroup d g b branches.length o varied with offset }

mutual

/-- Appends an item; `isRepeated` says whether a quantifier follows. -/
def item (c : Context) (isRepeated : Bool) (d : Draft) : Item → Computation Draft
  | .char ch caseless => literal c d ch caseless
  | .atom a => return d.single (atomSingle c.setup.utf a)
  | .bracket b => bracket c d b
  | .anchor a => do
    let d := { d with nodes := .anchor a :: d.nodes }
    match a with
    | .lineStart =>
      if d.first = .unset then return { d with first := .none, firstBefore := .none } else return d
    | .circumflex => return d
    | .dollar => return d
    | .lineEnd => return d
    | _ => return d.remember
  | .matchStart => return { d.remember with nodes := .matchStart :: d.nodes }
  | .reference t caseless _ offset => reference c d t caseless offset
  | .call t _ offset => return call c d t offset
  | .verb v => verb c d v
  | .callout _ => return d
  | .repeated i q => do
    let below := d.nodes
    let d ← item c true d i
    quantify d below q
  | .group g branches => do
    if !isRepeated && neverHolds g branches then return { d with nodes := .fail :: d.nodes }
    else
      let varied := (← get).varies
      let lowered ← inside (c.inside g) (c.widthsOf g) branches
      group c d g lowered varied

/-- The branches of a group. -/
def inside (c : Context) (widths : List Nat) :
    List (List Item) → Computation (List (Outcome (List Node)))
  | [] => return []
  | b :: rest => do
    let d ← branch c {} b
    let d := d.begin
    let o : Outcome (List Node) :=
      ⟨steppedBack (widths.headD 0) d.nodes.reverse, d.first, d.required, d.nonEmpty⟩
    return o :: (← inside c widths.tail rest)

/-- Appends the items of a branch. -/
def branch (c : Context) (d : Draft) : List Item → Computation Draft
  | [] => return d
  | i :: rest => do
    let d ← item c false { d.begin with previous := .nothing } i
    branch c d rest

end

end Lower

/-- A program and what is known about it. -/
structure Lowered where
  branches : List (List Node)
  first : First
  required : Option Required
  /-- Whether every match has at least one character. -/
  nonEmpty : Bool
  facts : Lower.Facts

/-- The program of a pattern whose references are all sound. -/
def Syntax.lowered (x : Syntax) (setup : Setup) (widths : Widths) : Except Fault Lowered := do
  let (branches, facts) ← (Lower.inside ⟨setup, x, widths, [], false⟩ [] x.branches).run {}
  let (first, required) := Lower.unitsOf (branches.map fun o => (o.first, o.required))
  return ⟨branches.map (·.code), first, required, branches.all (·.nonEmpty), facts⟩

end PatternScan.Pattern
