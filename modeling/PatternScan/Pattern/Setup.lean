import PatternScan.Bytes
import PatternScan.Pattern.Fault

/-!
# Settings for a whole pattern

A pattern may start with settings in the form `(*NAME)` or `(*NAME=n)`, which hold for all of
it. `Setup.read` takes them off and says at which offset the pattern proper starts.
-/

namespace PatternScan.Pattern

/-- What counts as the end of a line. -/
inductive Newline
  | cr | lf | crlf | nul
  /-- A carriage return, a line feed, or both in that order. -/
  | anyCrlf
  /-- Any line end of Unicode. -/
  | any
deriving DecidableEq, Repr

/-- Bounds on the work of one search. -/
structure Limits where
  /-- How many choices may be made from one start. -/
  choices : Nat := 10000000
  /-- How many choices may be open at a time. -/
  depth : Nat := 10000000
  /-- How many kilobytes open choices may take. -/
  memory : Nat := 20000000
deriving DecidableEq, Repr

/-- The settings that hold for a whole pattern. -/
structure Setup where
  /-- Patterns and subjects are UTF-8, and characters are code points. -/
  utf : Bool := false
  /-- Character types go by Unicode properties. -/
  ucp : Bool := false
  /-- An empty match does not count. -/
  notEmpty : Bool := false
  /-- An empty match at the start of the subject does not count. -/
  notEmptyAtStart : Bool := false
  /-- A leading `.*` does not anchor. -/
  noDotStarAnchor : Bool := false
  /-- No facts about the pattern are used to skip starts. -/
  noStartFacts : Bool := false
  newline : Newline := .lf
  /-- `\R` matches any line end of Unicode. -/
  anyLineEnd : Bool := true
  limits : Limits := {}
deriving DecidableEq, Repr

namespace Setup

/-- A setting by its name: one that is complete, or one that a number follows. -/
inductive Setting
  | plain (apply : Setup → Setup)
  | number (apply : Setup → Nat → Setup)

/-- Bounds the choices made, never above the default. -/
def limitChoices (s : Setup) (n : Nat) : Setup :=
  { s with limits := { s.limits with choices := min n ({} : Limits).choices } }

/-- Bounds the choices open at a time, never above the default. -/
def limitDepth (s : Setup) (n : Nat) : Setup :=
  { s with limits := { s.limits with depth := min n ({} : Limits).depth } }

/-- Bounds the memory that open choices take, never above the default. -/
def limitMemory (s : Setup) (n : Nat) : Setup :=
  { s with limits := { s.limits with memory := min n ({} : Limits).memory } }

/-- All settings with the texts that follow `(*`. -/
def table : List (Bytes × Setting) :=
  [(Bytes.ascii "UTF8)", .plain fun s => { s with utf := true }),
   (Bytes.ascii "UTF)", .plain fun s => { s with utf := true }),
   (Bytes.ascii "UCP)", .plain fun s => { s with ucp := true }),
   (Bytes.ascii "NOTEMPTY)", .plain fun s => { s with notEmpty := true }),
   (Bytes.ascii "NOTEMPTY_ATSTART)", .plain fun s => { s with notEmptyAtStart := true }),
   (Bytes.ascii "NO_AUTO_POSSESS)", .plain id),
   (Bytes.ascii "NO_DOTSTAR_ANCHOR)", .plain fun s => { s with noDotStarAnchor := true }),
   (Bytes.ascii "NO_JIT)", .plain id),
   (Bytes.ascii "NO_START_OPT)", .plain fun s => { s with noStartFacts := true }),
   (Bytes.ascii "LIMIT_HEAP=", .number limitMemory),
   (Bytes.ascii "LIMIT_MATCH=", .number limitChoices),
   (Bytes.ascii "LIMIT_DEPTH=", .number limitDepth),
   (Bytes.ascii "LIMIT_RECURSION=", .number limitDepth),
   (Bytes.ascii "CR)", .plain fun s => { s with newline := .cr }),
   (Bytes.ascii "LF)", .plain fun s => { s with newline := .lf }),
   (Bytes.ascii "CRLF)", .plain fun s => { s with newline := .crlf }),
   (Bytes.ascii "ANY)", .plain fun s => { s with newline := .any }),
   (Bytes.ascii "NUL)", .plain fun s => { s with newline := .nul }),
   (Bytes.ascii "ANYCRLF)", .plain fun s => { s with newline := .anyCrlf }),
   (Bytes.ascii "BSR_ANYCRLF)", .plain fun s => { s with anyLineEnd := false }),
   (Bytes.ascii "BSR_UNICODE)", .plain fun s => { s with anyLineEnd := true })]

/-- The value of an ASCII digit. -/
def digit? (b : UInt8) : Option Nat :=
  if 48 ≤ b && b ≤ 57 then some (b.toNat - 48) else none

/-- The largest value that another digit may be appended to. -/
def largestExtensible : Nat := 429496728

/-- Reads digits for as long as the number stays below 2³², with the number of digits read. -/
def number (n count : Nat) : Bytes → Nat × Nat
  | [] => (n, count)
  | b :: rest =>
    match digit? b with
    | some d => if n > largestExtensible then (n, count) else number (n * 10 + d) (count + 1) rest
    | none => (n, count)

/-- The setting at the front of some bytes, with the bytes behind its name. -/
def front? (b : Bytes) : List (Bytes × Setting) → Option (Setting × Bytes)
  | [] => none
  | (name, setting) :: more =>
    if name.isPrefixOf b then some (setting, b.drop name.length) else front? b more

/-- `read` for the pattern from `offset` on. -/
def readFrom : Nat → Setup → Nat → Bytes → Except Fault (Setup × Nat)
  | 0, s, offset, _ => .ok (s, offset)
  | fuel + 1, s, offset, 40 :: 42 :: rest =>
    match front? rest table with
    | none => .ok (s, offset)
    | some (.plain apply, behind) =>
      readFrom fuel (apply s) (offset + 2 + (rest.length - behind.length)) behind
    | some (.number apply, behind) =>
      let start := offset + 2 + (rest.length - behind.length)
      let (n, count) := number 0 0 behind
      if count = 0 then .error ⟨.unknownVerb, start⟩
      else
        match behind.drop count with
        | 41 :: more => readFrom fuel (apply s n) (start + count + 1) more
        | _ => .error ⟨.unknownVerb, start + count + 1⟩
  | _ + 1, s, offset, _ => .ok (s, offset)

/-- The settings at the start of a pattern, and the offset behind them. -/
def read (pattern : Bytes) : Except Fault (Setup × Nat) :=
  readFrom (pattern.length + 1) {} 0 pattern

end Setup

end PatternScan.Pattern
