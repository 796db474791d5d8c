import PatternScan.Pattern.Unicode.Runs

/-!
# Grapheme clusters

What a reader takes for one character, by the rules of Unicode for extended grapheme clusters, in
version 14 of the character database. Two things live here:

* `Break.of`, the class of a character that the rules go by;
* `Cluster.next?`, whether a character belongs to the cluster in front of it.
-/

namespace PatternScan.Pattern.Grapheme

/-- The classes of characters that decide where clusters end. -/
inductive Break
  | cr | lf | control | extend | prepend | spacingMark
  /-- Parts of a Hangul syllable: at its start, in the middle, at its end. -/
  | leading | vowel | trailing
  /-- Hangul syllables without a trailing part, and with one. -/
  | openSyllable | closedSyllable
  | regional | joiner | pictographic | other
deriving DecidableEq, Repr

namespace Break

/-- The runs of classes that make up all characters; `H` stands for a Hangul syllable. -/
def runs : List String := [
  "10Cn Lf 2Cn Cr 18Cn 95Xx 33Cn 9Xx Ep 3Xx Cn Ep 593Xx 112Ex 275Xx 7Ex 263Xx 45Ex Xx Ex Xx 2Ex",
  "Xx 2Ex Xx Ex 56Xx 6Pp 10Xx 11Ex Xx Cn 46Xx 21Ex 16Xx Ex 101Xx 7Ex Pp Xx 6Ex 2Xx 2Ex Xx 4Ex",
  "33Xx Pp Xx Ex 30Xx 27Ex 91Xx 11Ex 58Xx 9Ex 9Xx Ex 24Xx 4Ex Xx 9Ex Xx 3Ex Xx 5Ex 43Xx 3Ex",
  "52Xx 2Pp 6Xx 8Ex 42Xx 24Ex Pp 32Ex Sm 54Xx Ex Sm Ex Xx 3Sm 8Ex 4Sm Ex 2Sm Xx 7Ex 10Xx 2Ex",
  "29Xx Ex 2Sm 56Xx Ex Xx Ex 2Sm 4Ex 2Xx 2Sm 2Xx 2Sm Ex 9Xx Ex 10Xx 2Ex 26Xx Ex 2Xx 2Ex Sm 56Xx",
  "Ex Xx 3Sm 2Ex 4Xx 2Ex 2Xx 3Ex 3Xx Ex 30Xx 2Ex 3Xx Ex 11Xx 2Ex Sm 56Xx Ex Xx 3Sm 5Ex Xx 2Ex",
  "Sm Xx 2Sm Ex 20Xx 2Ex 22Xx 6Ex Xx Ex 2Sm 56Xx Ex Xx 2Ex Sm 4Ex 2Xx 2Sm 2Xx 2Sm Ex 7Xx 3Ex",
  "10Xx 2Ex 30Xx Ex 59Xx Ex Sm Ex 2Sm 3Xx 3Sm Xx 3Sm Ex 9Xx Ex 40Xx Ex 3Sm Ex 55Xx Ex Xx 3Ex",
  "4Sm Xx 3Ex Xx 4Ex 7Xx 2Ex 11Xx 2Ex 29Xx Ex 2Sm 56Xx Ex Xx Sm Ex 2Sm Ex 2Sm Xx Ex 2Sm Xx 2Sm",
  "2Ex 7Xx 2Ex 11Xx 2Ex 28Xx 2Ex 2Sm 55Xx 2Ex Xx Ex 2Sm 4Ex Xx 3Sm Xx 3Sm Ex Pp 8Xx Ex 10Xx 2Ex",
  "29Xx Ex 2Sm 70Xx Ex 4Xx Ex 2Sm 3Ex Xx Ex Xx 7Sm Ex 18Xx 2Sm 61Xx Ex Xx Sm 7Ex 12Xx 8Ex 98Xx",
  "Ex Xx Sm 9Ex 11Xx 6Ex 74Xx 2Ex 27Xx Ex Xx Ex Xx Ex 4Xx 2Sm 49Xx 14Ex Sm 5Ex Xx 2Ex 5Xx 11Ex",
  "Xx 36Ex 9Xx Ex 102Xx 4Ex Sm 6Ex Xx 2Ex 2Sm 2Ex 23Xx 2Sm 2Ex 4Xx 3Ex 16Xx 4Ex 13Xx Ex Xx Sm",
  "2Ex 6Xx Ex 15Xx Ex 98Xx 96L 72V 88T 349Xx 3Ex 946Xx 3Ex Sm 28Xx 2Ex Sm 29Xx 2Ex 30Xx 2Ex",
  "64Xx 2Ex Sm 7Ex 8Sm Ex 2Sm 11Ex 9Xx Ex 45Xx 3Ex Cn Ex 117Xx 2Ex 34Xx Ex 118Xx 3Ex 4Sm 2Ex",
  "3Sm 4Xx 2Sm Ex 6Sm 3Ex 219Xx 2Ex 2Sm Ex 57Xx Sm Ex Sm 7Ex Xx Ex Xx Ex 2Xx 8Ex 6Sm 10Ex 2Xx",
  "Ex 48Xx 31Ex 49Xx 4Ex Sm 47Xx 7Ex Sm Ex 5Sm Ex 2Sm 38Xx 9Ex 12Xx 2Ex Sm 30Xx Sm 4Ex 2Sm 2Ex",
  "Sm 3Ex 56Xx Ex Sm 2Ex 3Sm Ex Sm 3Ex 2Sm 48Xx 8Sm 8Ex 2Sm 2Ex 152Xx 3Ex Xx 13Ex Sm 7Ex 4Xx Ex",
  "6Xx Ex 2Xx Sm 2Ex 198Xx 64Ex 523Xx Cn Ex Zwj 2Cn 24Xx 7Cn 13Xx Ep 12Xx Ep 22Xx 16Cn 96Xx",
  "33Ex 49Xx Ep 22Xx Ep 90Xx 6Ep 15Xx 2Ep 367Xx 2Ep 12Xx Ep 95Xx Ep 70Xx Ep 25Xx 11Ep 4Xx 3Ep",
  "199Xx Ep 231Xx 2Ep 10Xx Ep 9Xx Ep 58Xx 4Ep Xx 6Ep Xx 12Ep Xx 114Ep 10Xx 118Ep 2Xx 11Ep Xx Ep",
  "Xx Ep 6Xx Ep 3Xx Ep 6Xx Ep 10Xx 2Ep 15Xx Ep 2Xx Ep 4Xx Ep Xx Ep 4Xx 3Ep Xx Ep 11Xx 5Ep 45Xx",
  "3Ep 9Xx Ep 14Xx Ep 14Xx Ep 372Xx 2Ep 463Xx 3Ep 19Xx 2Ep 51Xx Ep 4Xx Ep 409Xx 3Ex 141Xx Ex",
  "96Xx 32Ex 554Xx 6Ex Ep 12Xx Ep 91Xx 2Ex 508Xx Ep Xx Ep 29653Xx 4Ex Xx 10Ex 32Xx 2Ex 80Xx 2Ex",
  "272Xx Ex 3Xx Ex 4Xx Ex 23Xx 2Sm 2Ex Sm 4Xx Ex 83Xx 2Sm 50Xx 16Sm 2Ex 26Xx 18Ex 13Xx Ex 38Xx",
  "8Ex 25Xx 11Ex 2Sm 12Xx 29L 3Xx 3Ex Sm 47Xx Ex 2Sm 4Ex 2Sm 2Ex 3Sm 36Xx Ex 67Xx 6Ex 2Sm 2Ex",
  "2Sm 2Ex 12Xx Ex 8Xx Ex Sm 46Xx Ex 51Xx Ex Xx 3Ex 2Xx 2Ex 5Xx 2Ex Xx Ex 41Xx Sm 2Ex 2Sm 5Xx",
  "Sm Ex 236Xx 2Sm Ex 2Sm Ex 2Sm Xx Sm Ex 18Xx 11172H 12Xx 23V 4Xx 49T 8994Xx Ex 737Xx 16Ex",
  "16Xx 16Ex 207Xx Cn 158Xx 2Ex 80Xx 12Cn 513Xx Ex 226Xx Ex 149Xx 5Ex 1670Xx 3Ex Xx 2Ex 5Xx 4Ex",
  "40Xx 3Ex 4Xx Ex 165Xx 2Ex 573Xx 4Ex 387Xx 2Ex 153Xx 11Ex 49Xx 4Ex 122Xx Sm Ex Sm 53Xx 15Ex",
  "41Xx Ex 2Xx 2Ex 10Xx 3Ex Sm 45Xx 3Sm 4Ex 2Sm 2Ex 2Xx Pp 4Xx Ex 10Xx Pp 50Xx 3Ex 36Xx 5Ex Sm",
  "8Ex 16Xx 2Sm 44Xx Ex 12Xx 2Ex Sm 48Xx 3Sm 9Ex 2Sm Xx 2Pp 5Xx 4Ex Xx Sm Ex 92Xx 3Sm 3Ex 2Sm",
  "Ex Sm 2Ex 6Xx Ex 160Xx Ex 3Sm 8Ex 21Xx 2Ex 2Sm 55Xx 2Ex Xx Ex Sm Ex 4Sm 2Xx 2Sm 2Xx 3Sm 9Xx",
  "Ex 10Xx 2Sm 2Xx 7Ex 3Xx 5Ex 192Xx 3Sm 8Ex 2Sm 3Ex Sm Ex 23Xx Ex 81Xx Ex 2Sm 6Ex Sm Ex 2Sm Ex",
  "Sm 2Ex Sm 2Ex 235Xx Ex 2Sm 4Ex 2Xx 4Sm 2Ex Sm 2Ex 27Xx 2Ex 82Xx 3Sm 8Ex 2Sm Ex Sm 2Ex 106Xx",
  "Ex Sm Ex 2Sm 6Ex Sm Ex 101Xx 3Ex 2Xx 4Ex Sm 5Ex 256Xx 3Sm 9Ex Sm 2Ex 245Xx Ex 5Sm Xx 2Sm 2Xx",
  "2Ex Sm Ex Pp Sm Pp Sm Ex 141Xx 3Sm 4Ex 2Xx 2Ex 4Sm Ex 3Xx Sm 28Xx 10Ex 40Xx 6Ex Sm Pp 4Ex",
  "8Xx Ex 9Xx 6Ex 2Sm 3Ex 40Xx 6Pp 13Ex Sm 2Ex 405Xx Sm 7Ex Xx 6Ex Sm Ex 82Xx 22Ex Xx Sm 7Ex Sm",
  "2Ex Sm 2Ex 122Xx 6Ex 3Xx Ex Xx 2Ex Xx 7Ex Pp Ex 66Xx 5Sm Xx 2Ex Xx 2Sm Ex Sm Ex 347Xx 2Ex",
  "2Sm 5433Xx 9Cn 14007Xx 5Ex 59Xx 7Ex 1048Xx Ex Xx 55Sm 7Xx 4Ex 81Xx Ex 11Xx 2Sm 19627Xx 2Ex",
  "Xx 4Cn 4700Xx 46Ex 2Xx 23Ex 542Xx Ex Sm 3Ex 3Xx Sm 5Ex 8Cn 8Ex 2Xx 7Ex 30Xx 4Ex 148Xx 3Ex",
  "1979Xx 55Ex 4Xx 50Ex 8Xx Ex 14Xx Ex 22Xx 5Ex Xx 15Ex 1360Xx 7Ex Xx 17Ex 2Xx 7Ex Xx 2Ex Xx",
  "5Ex 261Xx 7Ex 375Xx Ex 61Xx 4Ex 1504Xx 7Ex 109Xx 7Ex 1717Xx 256Ep 13Xx 3Ep 31Xx Ep 60Xx 6Ep",
  "12Xx 2Ep 14Xx Ep 2Xx 10Ep 18Xx 57Ep 26Ri Xx 15Ep 10Xx Ep 20Xx Ep 2Xx 9Ep Xx 4Ep 9Xx 434Ep",
  "5Ex 318Ep 8Xx 266Ep 48Xx 128Ep 116Xx 12Ep 85Xx 43Ep 12Xx 4Ep 56Xx 8Ep 10Xx 6Ep 40Xx 8Ep 30Xx",
  "82Ep 12Xx 47Ep Xx 10Ep Xx 441Ep 256Xx 1022Ep 786434Xx 32Cn 96Ex 128Cn 240Ex 3600Cn 192512Xx"]

/-- The class of a code, none for a Hangul syllable. -/
def ofCode? : List Char → Option Break
  | ['C', 'r'] => some cr
  | ['L', 'f'] => some lf
  | ['C', 'n'] => some control
  | ['E', 'x'] => some extend
  | ['P', 'p'] => some prepend
  | ['S', 'm'] => some spacingMark
  | ['L'] => some leading
  | ['V'] => some vowel
  | ['T'] => some trailing
  | ['H'] => none
  | ['R', 'i'] => some regional
  | ['Z', 'w', 'j'] => some joiner
  | ['E', 'p'] => some pictographic
  | _ => some other

/-- The table of all characters. -/
def table : Runs (Option Break) :=
  .ofLines runs ofCode?

/-- The first Hangul syllable. -/
def firstSyllable : Nat := 0xac00

/-- The class of a Hangul syllable. Each syllable without a trailing part comes in front of the 27
with one. -/
def ofSyllable (c : Char) : Break :=
  if (c.toNat - firstSyllable) % 28 = 0 then openSyllable else closedSyllable

/-- The class of a character. -/
def of (c : Char) : Break :=
  match table.get? c with
  | some (some b) => b
  | some none => ofSyllable c
  | none => other

/-- Whether a class goes with anything in front of it but line ends and control characters. -/
def isTail (b : Break) : Bool :=
  b = extend || b = spacingMark || b = joiner

/-- Whether no cluster ends between two classes, whatever comes before. -/
def joins : Break → Break → Bool
  | cr, b => b = lf
  | lf, _ => false
  | control, _ => false
  | prepend, b => !(b = cr || b = lf || b = control)
  | leading, b => b.isTail || b = leading || b = vowel || b = openSyllable || b = closedSyllable
  | vowel, b => b.isTail || b = vowel || b = trailing
  | openSyllable, b => b.isTail || b = vowel || b = trailing
  | trailing, b => b.isTail || b = trailing
  | closedSyllable, b => b.isTail || b = trailing
  | regional, b => b.isTail || b = regional
  | joiner, b => b.isTail || b = pictographic
  | _, b => b.isTail

end Break

/-- The end of a cluster. -/
structure Cluster where
  /-- The class of the last character; one that extends a pictographic character does not
  count. -/
  last : Break
  /-- Whether the last character joins a pictographic one to what comes. -/
  joinsPictographic : Bool
  /-- How many regional indicators stand right before the last character. -/
  regionals : Nat

namespace Cluster

/-- The cluster of one character behind some number of regional indicators. -/
def ofFirst (c : Char) (regionals : Nat) : Cluster :=
  ⟨Break.of c, false, regionals⟩

/-- The cluster with a character added, none if it does not belong there. Regional indicators come
in pairs, and a pictographic character needs a pictographic one before the joiner. -/
def next? (x : Cluster) (c : Char) : Option Cluster :=
  let b := Break.of c
  let isPair := x.last = .regional && b = .regional
  if !Break.joins x.last b then none
  else if x.last = .joiner && b = .pictographic && !x.joinsPictographic then none
  else if isPair && x.regionals % 2 = 1 then none
  else
    some {
      last := if x.last = .pictographic && b = .extend then .pictographic else b
      joinsPictographic := x.last = .pictographic && b = .joiner
      regionals := if isPair then x.regionals + 1 else 0 }

end Cluster

end PatternScan.Pattern.Grapheme
