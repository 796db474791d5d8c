import PatternScan.Pattern.Reader.Bracket

/-!
# Parentheses

What may follow an opening parenthesis. `open?` reads up to where the inside of a group starts,
and opens a level for it; or reads all of an item that has no inside, such as a call, a verb or a
setting of switches. `close` ends a level.
-/

namespace PatternScan.Pattern.Reader

/-! ## Levels -/

/-- Opens a level. -/
def openLevel (level : Level) : Read Unit := modify fun s =>
  { s with level := level, outer := s.level :: s.outer }

/-- Opens a level for a group, with the switches as they are. -/
def openGroup (group : Group) : Read Unit := do
  openLevel { group, outside := (← get).flags }

/-- Opens a level for a new numbered group that starts at an offset. -/
def openCapture (start : Nat) : Read Unit := do
  let s ← get
  if s.groups ≥ largestGroup then fault .tooManyGroups
  set { s with groups := s.groups + 1 }
  openGroup (.capture (s.groups + 1) start start)

/-- The group of a level with the offset where it ends. -/
def ended (stop : Nat) : Group → Group
  | .capture n start _ => .capture n start stop
  | g => g

/-- The item that a level makes when it ends at an offset. -/
def Level.item (l : Level) (stop : Nat) : Item :=
  let whole := Item.group (ended stop l.group) (l.items.reverse :: l.branches).reverse
  if l.isSealed then .group .atomic [[whole]] else whole

/-- Ends a level at a closing parenthesis that has been read. -/
def close : Read Unit := do
  let s ← get
  match s.outer with
  | [] => faultBack .unopenedGroup
  | around :: outer =>
    let groups :=
      match s.level.restart with
      | some (_, most) => max most s.groups
      | none => s.groups
    set { s with
      groups, outer, flags := s.level.outside,
      level := { around with items := s.level.item (← here) :: around.items },
      mayRepeat := !s.level.isCondition }

/-- Ends a branch. -/
def nextBranch : Read Unit := modify fun s =>
  let restart := s.level.restart.map fun (start, most) => (start, max most s.groups)
  { s with
    groups := (restart.map (·.1)).getD s.groups
    level := { s.level with
      branches := s.level.items.reverse :: s.level.branches, items := [], restart } }

/-! ## Names -/

/-- The most named groups that a pattern may have. -/
def mostNames : Nat := 10000

/-- What a name for a group of some number does to the names so far: nothing if it has that name
already; the name may be one of other groups too if names may be shared, and a number has no
second name. -/
def addName (shared : Bool) (name : Name) (number : Nat) (names : List Named) :
    Except Cause (List Named) :=
  let rec go (isShared : Bool) : List Named → List Named → Except Cause (List Named)
    | seen, [] => .ok (seen.reverse ++ [⟨name, number, isShared⟩])
    | seen, n :: more =>
      if n.name = name then
        if n.number = number then .ok (seen.reverse ++ n :: more)
        else if shared then go true ({ n with shared := true } :: seen) more
        else .error .duplicateName
      else if n.number = number then .error .nameForOtherNumber
      else go isShared (n :: seen) more
  go false [] names

/-- Reads a name and opens a level for the group that it names. -/
def openNamed (start : Nat) (terminator : Char) : Read Unit := do
  let (name, _) ← groupName terminator
  openCapture start
  let s ← get
  if s.names.length ≥ mostNames then fault .tooManyNames
  match addName s.flags.sharedNames name s.groups s.names with
  | .error cause => fault cause
  | .ok names => set { s with names }

/-! ## Items without an inside -/

/-- A call of a group, read up to the closing parenthesis or sign. -/
def putCall (n place : Nat) : Read Unit := do
  let offset ← here
  skip 1
  putRepeatable (.call (.number n) place offset)

/-- A call of a group by number, from its sign or first digit on. -/
def callByNumber (place : Nat) : Read Unit := do
  match ← take (scanGroupNumber (← get).groups (← rest)) with
  | none => fault .digitExpected
  | some n =>
    if (← peek) = some ')' then putCall n place else fault .unclosedGroup

/-- A call of a group by name. -/
def callByName (place : Nat) : Read Unit := do
  let (name, offset) ← groupName ')'
  putRepeatable (.call (.name name) place offset)

/-- A reference to a group by name. -/
def referByName (terminator : Char) (place : Nat) : Read Unit := do
  let (name, offset) ← groupName terminator
  putRepeatable (.reference (.name name) (← get).flags.caseless place offset)

/-- The delimiters of the text of a callout, with those that end it. -/
def calloutDelimiters : List (Char × Char) :=
  [('\x60', '\x60'), ('\'', '\''), ('\x22', '\x22'), ('^', '^'), ('%', '%'), ('#', '#'),
   ('$', '$'), ('\x7b', '\x7d')]

/-- Scans the text of a callout up to its delimiter, which stands for itself if doubled; gives the
characters behind it. -/
def scanCalloutText (delimiter : Char) : List Glyph → Option (List Glyph)
  | [] => none
  | g :: more =>
    if g.char != delimiter then scanCalloutText delimiter more
    else
      match more with
      | [] => some []
      | g' :: more' =>
        if g'.char = delimiter then scanCalloutText delimiter more' else some (g' :: more')

/-- Scans the number of a callout. -/
def scanCalloutNumber (g : List Glyph) : Scan Nat :=
  scanDigits 255 .calloutTooBig 0 g

/-- A callout, from behind its letter. -/
def callout (expected : Nat) : Read Unit := do
  modify fun s => { s with expecting := expected - 1 }
  let start ← here
  let size ← do
    match ← peek with
    | none => fault .unclosedGroup
    | some c =>
      if c == ')' || (digit? c).isSome then
        let _ ← take (scanCalloutNumber (← rest))
        pure 6
      else
        match calloutDelimiters.lookup c with
        | none => fault .calloutDelimiter
        | some delimiter =>
          match scanCalloutText delimiter ((← rest).drop 1) with
          | none => faultAt .unterminatedCalloutString start
          | some behind =>
            moveTo behind
            pure (9 + (← here) - start)
  if !(← accept ')') then fault .unclosedCallout
  put (.callout size)

/-! ## Conditions -/

/-- A version of the program in a condition: from its sign on, whether the sign holds. -/
def versionCondition : Read Condition := do
  let atLeast ← accept '>'
  if !(← accept '=') || !startsWithDigit (← rest) then fault .versionCondition
  let major := (← take (scanNumber 1000 .versionCondition (← rest))).getD 0
  let mut minor := 0
  if ← accept '.' then
    if !startsWithDigit (← rest) then fault .versionCondition
    let tens := ((← next).bind digit?).getD 0
    minor := tens * 10
    if startsWithDigit (← rest) then minor := minor + ((← next).bind digit?).getD 0
    if (← peek) ≠ some ')' then fault .versionCondition
  if (← peek).isNone then fault .versionCondition
  let holds :=
    if atLeast then major < 10 || (major = 10 && minor ≤ 42) else major = 10 && minor = 42
  return .constant holds

/-- A name in a condition. -/
def nameCondition : Read Condition := do
  if ← comes "R&" then
    skip 2
    let (name, offset) ← bareName
    return .nameCalled name offset
  else if ← accept '<' then
    let (name, offset) ← groupName '>'
    return .nameSet name offset
  else if ← accept '\'' then
    let (name, offset) ← groupName '\''
    return .nameSet name offset
  else
    let (name, offset) ← bareName
    if name = "DEFINE".toList then return .define offset
    else if name.head? = some 'R' && (name.drop 1).all (fun c => (digit? c).isSome) then
      return .called name offset
    else return .nameSet name offset
where
  /-- A name before a closing parenthesis, which is not read. -/
  bareName : Read (Name × Nat) := do
    let (name, offset) ← groupName ')'
    modify fun s => { s with rest := ⟨')', s.last⟩ :: s.rest }
    return (name, offset)

/-- The condition of a group, from behind its opening parenthesis up to its closing one. -/
def condition : Read Unit := do
  match ← peek with
  | none => fault .unclosedGroup
  | some c =>
    if c == '?' || c == '*' then
      openGroup (.conditional .lookaround)
      modify fun s =>
        { s with rest := ⟨'(', s.last⟩ :: s.rest, expecting := 2 }
    else
      let glyphs ← rest
      let condition ← do
        match ← take (scanGroupNumber (← get).groups glyphs) with
        | some n =>
          if n = 0 then fault .noSuchGroup
          pure (Condition.groupSet n ((← here) - 2))
        | none =>
          let isVersion := (← comes "VERSION") && glyphs.length ≥ 10 &&
            (glyphs[7]?.map (·.char)) != some ')'
          if isVersion then
            skip 7
            versionCondition
          else nameCondition
      if !(← accept ')') then fault .unclosedCondition
      openGroup (.conditional condition)

/-! ## Lookarounds and verbs -/

/-- Opens a lookaround; behind `expected`, it is the condition of the group around it. -/
def openLook (l : Look) (expected : Nat) : Read Unit := do
  openLevel { group := .look l, outside := (← get).flags, isCondition := expected > 0 }

/-- What the words stand for that may follow `(*` in lower case. -/
inductive Word
  | look (behind negated atomic : Bool)
  | atomic
  | scriptRun (isAtomic : Bool)
deriving DecidableEq, Repr

/-- The words that may follow `(*` in lower case. -/
def words : List (String × Word) :=
  [("pla", .look false false true), ("plb", .look true false true),
   ("napla", .look false false false), ("naplb", .look true false false),
   ("nla", .look false true true), ("nlb", .look true true true),
   ("positive_lookahead", .look false false true), ("positive_lookbehind", .look true false true),
   ("non_atomic_positive_lookahead", .look false false false),
   ("non_atomic_positive_lookbehind", .look true false false),
   ("negative_lookahead", .look false true true), ("negative_lookbehind", .look true true true),
   ("atomic", .atomic), ("sr", .scriptRun false), ("asr", .scriptRun true),
   ("script_run", .scriptRun false), ("atomic_script_run", .scriptRun true)]

/-- A group whose kind is spelled as a word, from the word on. -/
def wordGroup (place expected : Nat) : Read Unit := do
  let word := ((← rest).map (·.char)).takeWhile isWordAscii
  let start ← here
  skip word.length
  if (← here) > start + longestName then fault .nameTooLong
  let colon ← here
  if (← peek) ≠ some ':' then fault .unknownAssertionName
  match words.lookup (String.ofList word) with
  | none => fault .unknownAssertionName
  | some (.look behind negated atomic) =>
    if expected > 0 && !atomic then fault .atomicAssertionExpected
    skip 1
    openLook ⟨behind, negated, atomic, place, if behind then colon - 3 else place⟩ expected
  | some .atomic =>
    if expected > 0 then fault .assertionExpected
    skip 1
    openGroup .atomic
  | some (.scriptRun isAtomic) =>
    if expected > 0 then fault .assertionExpected
    skip 1
    openLevel { group := .scriptRun, outside := (← get).flags, isSealed := isAtomic }

/-- What a verb does with a name: needs it, sets it as a mark first, or takes it. -/
inductive VerbForm
  | named (make : Name → Verb)
  | marked (verb : Verb)
  | optional (make : Option Name → Verb)

/-- The verbs. -/
def verbs : List (String × VerbForm) :=
  [("", .named .mark), ("MARK", .named .mark), ("ACCEPT", .marked .accept), ("F", .marked .fail),
   ("FAIL", .marked .fail), ("COMMIT", .optional .commit), ("PRUNE", .optional .prune),
   ("SKIP", .optional .skip), ("THEN", .optional .andThen)]

/-- The longest name of a verb, in units. -/
def longestVerbName : Nat := 255

/-- The name of a verb, from behind its colon up to the closing parenthesis, which is read. -/
def verbName : Read Name := do
  let start ← here
  let name := ((← rest).map (·.char)).takeWhile (· != ')')
  skip name.length
  if (← peek).isNone then fault .unknownVerb
  if (← here) > start + longestVerbName then fault .verbNameTooLong
  skip 1
  return name

/-- Appends a verb that may have a mark in front of it. -/
def putVerb (mark : Option Name) (v : Verb) : Read Unit := do
  if let some m := mark then put (.verb (.mark m))
  put (.verb v)
  if v = .accept then
    modify fun s =>
      { s with mayRepeat := true, accepting := if mark.isSome then 2 else 1 }

/-- A verb, from its word on. -/
def verb : Read Unit := do
  let word := ((← rest).map (·.char)).takeWhile isWordAscii
  let start ← here
  skip word.length
  if (← here) > start + longestName then fault .nameTooLong
  let c ← peek
  if c ≠ some ':' && c ≠ some ')' then fault .unknownVerb
  match verbs.lookup (String.ofList word) with
  | none => fault .unknownVerb
  | some form =>
    if ← comes ":)" then skip 1
    match form with
    | .named make =>
      if !(← accept ':') then fault .markWithoutName
      putVerb none (make (← verbName))
    | .marked v =>
      if ← accept ':' then putVerb (some (← verbName)) v
      else
        skip 1
        putVerb none v
    | .optional make =>
      if ← accept ':' then putVerb none (make (some (← verbName)))
      else
        skip 1
        putVerb none (make none)

/-! ## Switches -/

/-- The switch that a letter turns on. -/
def switch? (c : Char) (f : Flags) : Option Flags :=
  match c with
  | 'i' => some { f with caseless := true }
  | 'm' => some { f with multiline := true }
  | 'n' => some { f with noCapture := true }
  | 's' => some { f with dotAll := true }
  | 'x' => some { f with extended := true }
  | 'J' => some { f with sharedNames := true }
  | 'U' => some { f with ungreedy := true }
  | _ => none

/-- The switches that letters ask to set and to clear. -/
structure Switches where
  set : Flags := {}
  clear : Flags := {}

/-- The switches changed as asked. Clearing wins, and skipping blanks inside classes is asked for
anew with each `x`. -/
def Switches.apply (w : Switches) (f : Flags) : Flags where
  caseless := (f.caseless || w.set.caseless) && !w.clear.caseless
  multiline := (f.multiline || w.set.multiline) && !w.clear.multiline
  dotAll := (f.dotAll || w.set.dotAll) && !w.clear.dotAll
  extended := (f.extended || w.set.extended) && !w.clear.extended
  extendedMore :=
    (if w.set.extended then w.set.extendedMore else f.extendedMore) && !w.clear.extended
  ungreedy := (f.ungreedy || w.set.ungreedy) && !w.clear.ungreedy
  noCapture := (f.noCapture || w.set.noCapture) && !w.clear.noCapture
  sharedNames := (f.sharedNames || w.set.sharedNames) && !w.clear.sharedNames

/-- Reads letters up to a colon or a closing parenthesis. -/
def switchLetters : Nat → Bool → Bool → Switches → Read Switches
  | 0, _, _, w => return w
  | fuel + 1, mayClear, clearing, w => do
    match ← peek with
    | none => fault .unclosedGroup
    | some c =>
      if c == ')' || c == ':' then return w
      else if c == '-' then
        if !mayClear then fault .misplacedHyphen
        skip 1
        switchLetters fuel false true w
      else
        match switch? c (if clearing then w.clear else w.set) with
        | none => fault .unknownAfterQuestion
        | some f =>
          skip 1
          let twice ← if c == 'x' then accept 'x' else pure false
          let f := { f with extendedMore := f.extendedMore || twice }
          switchLetters fuel mayClear clearing
            (if clearing then { w with clear := f } else { w with set := f })

/-- The switches that a `^` clears. -/
def cleared (f : Flags) : Flags :=
  { f with caseless := false, multiline := false, noCapture := false, dotAll := false,
           extended := false, extendedMore := false }

/-- A setting of switches, for the rest of the group or for a group of its own. -/
def switches : Read Unit := do
  let outside := (← get).flags
  let reset ← accept '^'
  let w ← switchLetters ((← rest).length + 1) (!reset) false {}
  modify fun s => { s with flags := w.apply (if reset then cleared s.flags else s.flags) }
  if ← accept ')' then return
  skip 1
  openLevel { outside }

/-! ## All parentheses -/

/-- What may follow `(?`. -/
def afterQuestion (place expected : Nat) : Read Unit := do
  let glyphs ← rest
  let behind := glyphs.drop 1
  match ← peek with
  | none => fault .unclosedGroup
  | some 'P' =>
    skip 1
    match ← peek with
    | none => fault .unclosedGroup
    | some '<' =>
      skip 1
      openNamed place '>'
    | some '>' =>
      skip 1
      callByName place
    | some '=' =>
      skip 1
      referByName ')' place
    | some _ => fault .unknownAfterNamedGroup
  | some 'R' =>
    skip 1
    if (← peek) = some ')' then putCall 0 place else fault .recursionUnclosed
  | some '+' => if startsWithDigit behind then callByNumber place else fault .digitExpected
  | some '&' =>
    skip 1
    callByName place
  | some 'C' =>
    skip 1
    callout expected
  | some '(' =>
    skip 1
    condition
  | some '>' =>
    skip 1
    openGroup .atomic
  | some '=' =>
    skip 1
    openLook ⟨false, false, true, place, place⟩ expected
  | some '*' =>
    skip 1
    openLook ⟨false, false, false, place, place⟩ expected
  | some '!' =>
    skip 1
    openLook ⟨false, true, true, place, place⟩ expected
  | some '<' =>
    skip 1
    match ← peek with
    | some '=' =>
      skip 1
      openLook ⟨true, false, true, place, place⟩ expected
    | some '!' =>
      skip 1
      openLook ⟨true, true, true, place, place⟩ expected
    | some '*' =>
      skip 1
      openLook ⟨true, false, false, place, place⟩ expected
    | _ => openNamed place '>'
  | some '\'' =>
    skip 1
    openNamed place '\''
  | some '|' =>
    skip 1
    let s ← get
    set { s with sharedNumbers := true }
    openLevel { outside := s.flags, restart := some (s.groups, s.groups) }
  | some '-' => if startsWithDigit behind then callByNumber place else switches
  | some c => if (digit? c).isSome then callByNumber place else switches

/-- What may follow an opening parenthesis at `place`. -/
def open? (place expected : Nat) : Read Unit := do
  match ← rest with
  | [] => fault .unclosedGroup
  | ⟨'?', _⟩ :: _ =>
    skip 1
    afterQuestion place expected
  | ⟨'*', _⟩ :: more =>
    match more with
    | [] => return
    | ⟨c, _⟩ :: _ =>
      if c == ')' then return
      skip 1
      if c.isLower then wordGroup place expected else verb
  | _ => if (← get).flags.noCapture then openGroup .plain else openCapture place

end PatternScan.Pattern.Reader
