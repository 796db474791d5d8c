import PatternScan.Pattern.CharSet

/-!
# The syntax of patterns

A pattern is a list of branches, a branch a list of items. What switches such as `(?i)` say is
kept in the items that they concern, so the tree says on its own what it matches. Offsets are
kept where a fault may have to name one.
-/

namespace PatternScan.Pattern

/-- The switches that may change inside a pattern. -/
structure Flags where
  /-- Letters match regardless of case. -/
  caseless : Bool := false
  /-- `^` and `$` match at line ends. -/
  multiline : Bool := false
  /-- `.` matches line ends too. -/
  dotAll : Bool := false
  /-- Blanks and `#` comments are skipped. -/
  extended : Bool := false
  /-- Blanks are skipped inside classes too. -/
  extendedMore : Bool := false
  /-- Quantifiers are lazy unless followed by `?`. -/
  ungreedy : Bool := false
  /-- Plain parentheses do not capture. -/
  noCapture : Bool := false
  /-- Groups of different numbers may have the same name. -/
  sharedNames : Bool := false
deriving DecidableEq, Repr

/-! ## Single characters -/

/-- The types of characters that have an escape of their own. -/
inductive Kind
  | digit | space | word | horizontal | vertical
deriving DecidableEq, Repr

/-- The classes of characters that are named inside brackets. -/
inductive Posix
  | alpha | lower | upper | alnum | ascii | blank | cntrl | digit | graph | print | punct
  | space | word | xdigit
deriving DecidableEq, Repr

/-- What stands for one character, or for a sequence that counts as one. -/
inductive Atom
  | any
  /-- Any character but one that starts a line end. -/
  | notNewline
  /-- One byte. -/
  | byte
  /-- A line end, which may be of two characters. -/
  | newline
  /-- A grapheme cluster. -/
  | cluster
  | kind (k : Kind) (negated : Bool)
  /-- A character of a set that a property gives. -/
  | property (s : CharSet) (negated : Bool)
deriving DecidableEq, Repr

/-- What may stand between brackets. -/
inductive Element
  | char (c : Char)
  | range (low high : Char)
  | kind (k : Kind) (negated : Bool)
  | posix (p : Posix) (negated : Bool)
  | property (s : CharSet) (negated : Bool)
deriving DecidableEq, Repr

/-- A class of characters in brackets. -/
structure Bracket where
  negated : Bool
  elements : List Element
  caseless : Bool
deriving DecidableEq, Repr

/-! ## Places -/

/-- Tests of the place in the subject that consume nothing. -/
inductive Anchor
  /-- The start of the subject, written `^`. -/
  | circumflex
  /-- The start of a line. -/
  | lineStart
  /-- The end of the subject, or before its last line end, written `$`. -/
  | dollar
  /-- The end of a line. -/
  | lineEnd
  /-- The start of the subject, written `\A`. -/
  | subjectStart
  /-- The end of the subject. -/
  | subjectEnd
  /-- The end of the subject, or before its last line end, written `\Z`. -/
  | lastLineEnd
  /-- The place where the search began. -/
  | searchStart
  /-- Between a word character and another, or not between such. -/
  | wordBoundary (negated : Bool)
deriving DecidableEq, Repr

/-! ## Groups -/

/-- The name of a group. -/
abbrev Name := List Char

/-- What a reference or a call names. -/
inductive Target
  | number (n : Nat)
  | name (s : Name)
deriving DecidableEq, Repr

/-- How a quantifier tries its counts. -/
inductive Mode
  | greedy | lazy | possessive
deriving DecidableEq, Repr

/-- How often an item may occur. -/
structure Quantifier where
  least : Nat
  /-- None means without end. -/
  most : Option Nat
  mode : Mode
deriving DecidableEq, Repr

/-- What decides between the branches of a conditional group. -/
inductive Condition
  /-- Whether a numbered group is set. -/
  | groupSet (n offset : Nat)
  /-- Whether a named group is set. -/
  | nameSet (s : Name) (offset : Nat)
  /-- Whether a named group is being called. -/
  | nameCalled (s : Name) (offset : Nat)
  /-- An `R` with digits: a group of that name, else whether a numbered group is being called. -/
  | called (s : Name) (offset : Nat)
  /-- Never true: the group only defines others. -/
  | define (offset : Nat)
  | constant (b : Bool)
  /-- Whether the lookaround holds that starts the first branch. -/
  | lookaround
deriving DecidableEq, Repr

/-- A lookaround. -/
structure Look where
  behind : Bool
  negated : Bool
  /-- Whether its choices are final once it has succeeded. -/
  atomic : Bool
  /-- Where it stands in the pattern. -/
  place : Nat
  /-- The offset for faults. -/
  offset : Nat
deriving DecidableEq, Repr

/-- What parentheses mean. -/
inductive Group
  | plain
  /-- A numbered group, with the offsets where it starts and ends. -/
  | capture (number start stop : Nat)
  | atomic
  | scriptRun
  | look (l : Look)
  | conditional (c : Condition)
deriving DecidableEq, Repr

/-- The verbs that act when they are backtracked onto. -/
inductive Verb
  | mark (s : Name)
  | accept
  | fail
  | commit (s : Option Name)
  | prune (s : Option Name)
  | skip (s : Option Name)
  | andThen (s : Option Name)
deriving DecidableEq, Repr

/-! ## Items -/

/-- One item of a branch. -/
inductive Item
  | char (c : Char) (caseless : Bool)
  | atom (a : Atom)
  | bracket (b : Bracket)
  | anchor (a : Anchor)
  /-- The match counts from here. -/
  | matchStart
  /-- What a group matched, once more; `place` is where it stands, `offset` is for faults. -/
  | reference (t : Target) (caseless : Bool) (place offset : Nat)
  /-- The pattern of a group, or the whole pattern for the number zero. -/
  | call (t : Target) (place offset : Nat)
  | group (g : Group) (branches : List (List Item))
  | repeated (i : Item) (q : Quantifier)
  | verb (v : Verb)
  /-- A place for the caller to step in; it takes `size` units of compiled code. -/
  | callout (size : Nat)

/-- A named group. -/
structure Named where
  name : Name
  number : Nat
  /-- Whether a group of another number has the same name. -/
  shared : Bool
deriving DecidableEq, Repr

/-- A pattern that has been read. -/
structure Syntax where
  branches : List (List Item)
  /-- The number of groups. -/
  groups : Nat
  /-- The named groups, in the order of the pattern. -/
  names : List Named
  /-- Whether groups in different branches may have the same number. -/
  sharedNumbers : Bool
  /-- The length of the pattern in units. -/
  stop : Nat

namespace Syntax

/-- The groups of a name, in the order of the pattern. -/
def named (x : Syntax) (s : Name) : List Named :=
  x.names.filter (·.name = s)

end Syntax

end PatternScan.Pattern
