import PatternScan.MatchStore
import PatternScan.Registry
import PatternScan.Scan.Group
import PatternScan.Scan.Whole

/-!
# Sessions

A session works on named things: owners of patterns, stored matches, buffers and scans. Each
command leads from one state to the next and is answered. Four things live here:

* `Command`, `Answer` and `Refusal`;
* `State`, and the scans and inputs in it;
* `State.step`, which carries out one command;
* `State.run`, which carries out a list of them.

Scans for groups and stored matches read a buffer of the session as it is at that moment; a
scan for whole matches has a copy of its own.
-/

namespace PatternScan.Session

/-! ## Commands and answers -/

/-- The text a search goes over. -/
inductive Input
  /-- A buffer of the session, not a copy of it. -/
  | buffer (name : Name)
  /-- A text that nobody changes. -/
  | text (view : View)
deriving DecidableEq, Repr

/-- What a session is asked to do. -/
inductive Command
  | setLevel (level : Log.Level)
  | checkLevel (level : Log.Level)
  | log (level : Log.Level) (domain text : Bytes)
  | logFormatted (level : Log.Level) (domain text : Bytes)
  | compile (owner : Name) (pattern : Bytes) (options : Options)
  | inspect (owner : Name)
  | drop (owner : Name)
  | takeOver (source target : Name)
  | exchange (source target : Name)
  | test (owner : Name) (input : Input)
  | find (owner : Name) (input : Input) (into : Option Name)
  | showMatch (cell : Name)
  | takeOverMatch (source target : Name)
  | exchangeMatch (source target : Name)
  | createBuffer (buffer : Name) (text : Bytes)
  | overwrite (buffer : Name) (offset : UInt64) (text : Bytes)
  | openWhole (scan owner : Name) (input : Input)
  | openGroup (scan owner : Name) (input : Input)
  | next (scan : Name)
  | nextText (scan : Name)
  | position (scan : Name)
  | reread (scan : Name)

/-- Why a command was not carried out. -/
inductive Refusal
  | undefinedPattern
  | danglingPattern
  | unknownBuffer
  | bufferExists
  | outOfRange
  | sameName
  | unknownScan
deriving DecidableEq, Repr

/-- What one step of a scan found. -/
inductive Finding
  | span (s : Span Bytes)
  | record (r : Record Bytes)
  | text (t : Option Bytes)
deriving DecidableEq, Repr

/-- What a command is answered. -/
inductive Answer
  | done
  | flag (b : Bool)
  | owner (o : Owner) (rejection : Option Rejection)
  | owners (source target : Owner)
  | matched (m : Option (Record Bytes))
  | cells (source target : Option (Record Bytes))
  | failed (f : Failure)
  | content (buffer : Bytes)
  | position (position : UInt64) (exhausted : Bool)
  | stepped (outcome : Scan.Outcome Finding) (position : UInt64) (exhausted : Bool)
  | reread (all : List Finding)
  | refused (r : Refusal)
  | broken (b : Breach)
deriving DecidableEq

/-! ## States -/

/-- A scan with all results it is remembered for. -/
inductive OpenScan (E : Engine)
  | whole (handle : Handle) (scan : WholeScan E) (kept : List (Span Extent))
  | group (handle : Handle) (scan : GroupScan E) (input : Input) (kept : List (Record Extent))

namespace OpenScan

variable {E : Engine}

/-- The handle of the pattern that the scan searches for. -/
def handle : OpenScan E → Handle
  | .whole h _ _ => h
  | .group h _ _ _ => h

/-- Where the next search starts. -/
def position : OpenScan E → UInt64
  | .whole _ s _ => s.position
  | .group _ s _ _ => s.position

/-- Whether the scan has ended. -/
def isExhausted : OpenScan E → Bool
  | .whole _ s _ => s.isExhausted
  | .group _ s _ _ => s.isExhausted

end OpenScan

/-- Everything a session works on. -/
structure State (E : Engine) where
  level : Log.Level := Log.defaultLevel
  registry : Registry E := {}
  stored : MatchStore Input := {}
  buffers : Shelf Bytes := {}
  scans : Shelf (OpenScan E) := {}

/-- A state with the answer that led to it and the messages left on the way. -/
structure Step (E : Engine) where
  state : State E
  answer : Answer
  messages : List Log.Message := []

namespace State

variable {E : Engine}

/-- What an input hands over at this moment. -/
def view? (s : State E) : Input → Option View
  | .buffer name => (s.buffers.get? name).map .bytes
  | .text view => some view

/-- The bytes that an input stands for at this moment. -/
def read? (s : State E) (input : Input) : Option Bytes :=
  (s.view? input).map View.text

/-- The match in a cell as it reads at this moment. -/
def record (s : State E) (c : Cell Input) : Except Breach (Option (Record Bytes)) :=
  match s.stored.content? c with
  | none => .ok none
  | some (input, m) => (m.record ((s.read? input).getD [])).map some

/-- The match in the cell of a name as it reads at this moment. -/
def recordOf (s : State E) (name : Name) : Except Breach (Option (Record Bytes)) :=
  s.record (s.stored.cell name)

/-- All remembered results of a scan as they read at this moment. -/
def reread (s : State E) : OpenScan E → List Finding
  | .whole _ scan kept => kept.map fun span => .span (scan.read span)
  | .group _ _ input kept => kept.map fun r => .record (Record.read r ((s.read? input).getD []))

/-! ## Steps -/

/-- The step that changes nothing. -/
def refuse (s : State E) (r : Refusal) : Step E :=
  ⟨s, .refused r, []⟩

/-- The step that ends on an answer or on a broken promise. -/
def settle (s : State E) : Except Breach (Step E) → Step E
  | .ok step => step
  | .error b => ⟨s, .broken b, []⟩

/-- The state with one scan changed. -/
def setScan (s : State E) (name : Name) (scan : OpenScan E) : State E :=
  { s with scans := s.scans.put name scan }

/-- Goes on with the pattern of an owner and what an input hands over, the pattern first. -/
def withPattern (s : State E) (owner : Name) (input : Input)
    (go : Handle → Compiled E → View → Step E) : Step E :=
  match s.registry.pattern? owner with
  | none => s.refuse .undefinedPattern
  | some (handle, p) =>
    match s.view? input with
    | none => s.refuse .unknownBuffer
    | some subject => go handle p subject

/-- Opens a scan under a name, in place of the one that had it. -/
def openScan (s : State E) (name : Name) (scan : OpenScan E) : Step E :=
  ⟨s.setScan name scan, .position scan.position scan.isExhausted, []⟩

/-- Tests a subject. -/
def test (s : State E) (input : Input) (p : Compiled E) (subject : View) : Step E :=
  let result := p.search 1 subject
  let (store, c) := s.stored.searched input result
  let s := { s with stored := store.release c }
  match result with
  | .error f => ⟨s, .failed f, []⟩
  | .ok _ => ⟨s, .flag c.isMatch, []⟩

/-- The step that ends on showing a cell. -/
def showCell (s : State E) (name : Name) : Step E :=
  s.settle do return ⟨s, .matched (← s.recordOf name), []⟩

/-- Finds the first match in a subject, keeps it if asked to, and then shows it. A match that is not
kept is destroyed right after it was shown. -/
def find (s : State E) (input : Input) (into : Option Name) (p : Compiled E) (subject : View) :
    Step E :=
  let result := p.find subject
  let (store, c) := s.stored.searched input result
  match result, into with
  | .error f, _ => ⟨{ s with stored := store }, .failed f, []⟩
  | .ok _, some name => { s with stored := store.keep name c }.showCell name
  | .ok _, none =>
    let shown := { s with stored := store }.record c
    let s := { s with stored := store.release c }
    s.settle do return ⟨s, .matched (← shown), []⟩

/-- Carries out one step of a scan; a result is remembered if `keep` says so. -/
def advance (s : State E) (name : Name) (keep : Bool) :
    OpenScan E → Except Breach (Step E)
  | .whole h scan kept => do
    let step ← scan.next
    let kept := match step.outcome with
      | .found span => if keep then kept ++ [span] else kept
      | _ => kept
    let outcome := step.outcome.map fun span =>
      if keep then Finding.span (step.scan.read span) else .text (step.scan.read span).text
    return ⟨s.setScan name (.whole h step.scan kept),
      .stepped outcome step.scan.position step.scan.isExhausted, step.messages⟩
  | .group h scan input kept => do
    let buffer := (s.read? input).getD []
    let step ← scan.next buffer
    let kept := match step.outcome with
      | .found r => kept ++ [r]
      | _ => kept
    let outcome := step.outcome.map fun r => Finding.record (Record.read r buffer)
    return ⟨s.setScan name (.group h step.scan input kept),
      .stepped outcome step.scan.position step.scan.isExhausted, step.messages⟩

/-- Carries out one step of a named scan, whose pattern must not have been freed. -/
def advanceNamed (s : State E) (name : Name) (keep : Bool) : Step E :=
  match s.scans.get? name with
  | none => s.refuse .unknownScan
  | some scan =>
    if s.registry.isLive scan.handle then s.settle (s.advance name keep scan)
    else s.refuse .danglingPattern

/-- The answer that shows two owners. -/
def showOwners (s : State E) (source target : Name) : Answer :=
  .owners (s.registry.owner source) (s.registry.owner target)

/-- The step that ends on showing two cells. -/
def showCells (s : State E) (source target : Name) : Step E :=
  s.settle do return ⟨s, .cells (← s.recordOf source) (← s.recordOf target), []⟩

/-- Carries out one command. -/
def step (s : State E) : Command → Step E
  | .setLevel level => ⟨{ s with level := level }, .done, []⟩
  | .checkLevel level => ⟨s, .flag (Log.admits s.level level), []⟩
  | .log level domain text => ⟨s, .done, [⟨level, domain, text⟩]⟩
  | .logFormatted level domain text => ⟨s, .done, [.formatted level domain text]⟩
  | .compile name pattern options =>
    let attempt := s.registry.compile name pattern options
    ⟨{ s with registry := attempt.registry },
      .owner (attempt.registry.owner name) attempt.rejection, attempt.messages⟩
  | .inspect name => ⟨s, .owner (s.registry.owner name) none, []⟩
  | .drop name =>
    let registry := s.registry.drop name
    ⟨{ s with registry := registry }, .owner (registry.owner name) none, []⟩
  | .takeOver source target =>
    if source = target then s.refuse .sameName
    else
      let s := { s with registry := s.registry.takeOver source target }
      ⟨s, s.showOwners source target, []⟩
  | .exchange source target =>
    let s := { s with registry := s.registry.exchange source target }
    ⟨s, s.showOwners source target, []⟩
  | .test name input => s.withPattern name input fun _ p subject => s.test input p subject
  | .find name input into =>
    s.withPattern name input fun _ p subject => s.find input into p subject
  | .showMatch name => s.showCell name
  | .takeOverMatch source target =>
    if source = target then s.refuse .sameName
    else { s with stored := s.stored.takeOver source target }.showCells source target
  | .exchangeMatch source target =>
    { s with stored := s.stored.exchange source target }.showCells source target
  | .createBuffer name text =>
    match s.buffers.get? name with
    | some _ => s.refuse .bufferExists
    | none => ⟨{ s with buffers := s.buffers.put name text }, .done, []⟩
  | .overwrite name offset text =>
    match s.buffers.get? name with
    | none => s.refuse .unknownBuffer
    | some buffer =>
      if offset.toNat + text.length ≤ buffer.length then
        let buffer := buffer.overwrite offset.toNat text
        ⟨{ s with buffers := s.buffers.put name buffer }, .content buffer, []⟩
      else s.refuse .outOfRange
  | .openWhole name owner input =>
    s.withPattern owner input fun h p subject =>
      s.openScan name (.whole h (.ofText p subject) [])
  | .openGroup name owner input =>
    s.withPattern owner input fun h p subject =>
      s.openScan name (.group h (.ofBuffer p subject) input [])
  | .next name => s.advanceNamed name true
  | .nextText name => s.advanceNamed name false
  | .position name =>
    match s.scans.get? name with
    | none => s.refuse .unknownScan
    | some scan => ⟨s, .position scan.position scan.isExhausted, []⟩
  | .reread name =>
    match s.scans.get? name with
    | none => s.refuse .unknownScan
    | some scan => ⟨s, .reread (s.reread scan), []⟩

/-- Carries out commands in order. -/
def run (s : State E) : List Command → List Answer × State E
  | [] => ([], s)
  | c :: cs =>
    let step := s.step c
    let (answers, last) := step.state.run cs
    (step.answer :: answers, last)

/-- The bytes that a step leaves in the log, under the level in force before it. -/
def logged (s : State E) (step : Step E) : Bytes :=
  Log.written s.level step.messages

end State

end PatternScan.Session
