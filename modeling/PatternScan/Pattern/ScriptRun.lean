import PatternScan.Pattern.Subject
import PatternScan.Pattern.Unicode.Script

/-!
# Script runs

Whether a text is written in one script, so that no character of another script poses as one of
its own. Three things live here:

* `Kin`, what the characters so far say about the script, and `Kin.next?`, which takes in one
  more;
* `digitBlock?`, the set of ten digits that a decimal digit belongs to;
* `Subject.isScriptRun`, which reads a text with both.
-/

namespace PatternScan.Pattern

namespace ScriptRun

/-- What the characters so far say about the script. Chinese characters go with the scripts of
Japanese, of Korean, and with the phonetic script of Chinese. -/
inductive Kin
  /-- They go with any script. -/
  | any
  /-- They are in one of these scripts. -/
  | oneOf (scripts : List Script)
  /-- They are Chinese, and may turn out to be in any of the languages that use these. -/
  | han
  | japanese
  | phonetic
  | korean

/-- What a character of a script says about the script of the text, unless it says no more than
the scripts it is used with. -/
def Kin.ofScript? (s : Script) : Option Kin :=
  if s == "hani" then some han
  else if s == "hira" || s == "kana" then some japanese
  else if s == "bopo" then some phonetic
  else if s == "hang" then some korean
  else none

/-- What a character that is used with some scripts says behind Chinese ones, none if it does not
go with them. -/
def Kin.behindHan? (used : List Script) : Option Kin :=
  let special := ["bopo", "hira", "kana", "hang"].filter used.contains
  if special.isEmpty then none
  else if special == ["bopo"] then some phonetic
  else if special == ["hira", "kana"] then some japanese
  else some han

/-- Takes in a character of a script that is used with some scripts, none if it goes with no
script that the others are in. -/
def Kin.next? (k : Kin) (s : Script) (used : List Script) : Option Kin :=
  let goesWith (scripts : List Script) (k : Kin) : Option Kin :=
    if scripts.any used.contains then some k else none
  match k with
  | any => some ((ofScript? s).getD (oneOf used))
  | oneOf scripts =>
    goesWith scripts ((ofScript? s).getD (oneOf (scripts.filter used.contains)))
  | han => if s == "hani" then some han else behindHan? used
  | japanese => goesWith ["hani", "hira", "kana"] japanese
  | phonetic => goesWith ["hani", "bopo"] phonetic
  | korean => goesWith ["hani", "hang"] korean

/-- Takes in a character, none if it does not go with the others. -/
def Kin.nextChar? (k : Kin) (c : Char) : Option Kin :=
  let s := Script.of c
  let used := Script.extensions c
  let isShared := s == Script.common || s == Script.inherited
  if s == Script.unknown then none
  else if used.isEmpty && isShared then some k
  else k.next? s (if isShared then used else s :: used)

/-- The first of the ten digits in whose run of decimal digits a character stands, none if it is no
decimal digit. Runs start with a zero and hold whole sets of ten. -/
def digitBlock? (c : Char) : Option Nat :=
  ((Category.table.ranges (· = .nd)).find? fun (low, high) =>
    low ≤ c.toNat && c.toNat ≤ high).map fun (low, _) => low + (c.toNat - low) / 10 * 10

/-- Whether the characters from `i` on go with what those before say, and with their digits. -/
def goesOn (s : Subject) (high : Nat) : Nat → Kin → Option Nat → Nat → Bool
  | 0, _, _, _ => true
  | fuel + 1, k, digits, i =>
    if high ≤ i then true
    else
      match s.charAt? i with
      | none => true
      | some (c, j) =>
        match k.nextChar? c with
        | none => false
        | some k =>
          match digits, digitBlock? c with
          | some d, some d' => d = d' && goesOn s high fuel k digits j
          | _, d => goesOn s high fuel k (digits.or d) j

end ScriptRun

/-- Whether the text between two places is empty, a single character, or written in one script with
one set of digits. -/
def Subject.isScriptRun (s : Subject) (low high : Nat) : Bool :=
  match s.charAt? low with
  | none => true
  | some (_, j) => high ≤ j || ScriptRun.goesOn s high (s.size + 1) .any none low

end PatternScan.Pattern
