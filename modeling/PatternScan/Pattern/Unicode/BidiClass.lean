import PatternScan.Pattern.CharSet
import PatternScan.Pattern.Unicode.Runs

/-!
# Directions

The classes of characters in text that runs in two directions, in version 14 of the Unicode
character database.
-/

namespace PatternScan.Pattern.BidiClass

/-- The codes of the classes, in lower case. -/
def codes : List String :=
  ["al", "an", "b", "bn", "cs", "en", "es", "et", "fsi", "l", "lre", "lri", "lro", "nsm", "on",
   "pdf", "pdi", "r", "rle", "rli", "rlo", "s", "ws"]

/-- The runs of classes that make up all characters. -/
def runs : List String := [
  "9BN S B S WS B 14BN 3B S WS 2ON 3ET 5ON ES CS ES 2CS 10EN CS 6ON 26L 6ON 26L 4ON 6BN B 26BN",
  "CS ON 4ET 4ON L 2ON BN 2ON 2ET 2EN ON L 3ON EN L 5ON 23L ON 31L ON 449L 2ON 7L 14ON 2L 14ON",
  "5L 9ON L 17ON 112NSM 4L 2ON 8L ON 5L 2ON L ON 110L ON 140L 7NSM 256L ON 2L 2ON ET R 45NSM R",
  "NSM R 2NSM R 2NSM R NSM 56R 6AN 2ON AL 2ET AL CS AL 2ON 11NSM 48AL 21NSM 10AN ET 2AN 3AL NSM",
  "101AL 7NSM AN ON 6NSM 2AL 2NSM ON 4NSM 2AL 10EN 23AL NSM 30AL 27NSM 91AL 11NSM 15AL 43R 9NSM",
  "2R 4ON 3R NSM 24R 4NSM R 9NSM R 3NSM R 5NSM 43R 3NSM 4R 48AL 2AN 6AL 8NSM 42AL 24NSM AN",
  "32NSM 55L NSM L NSM 4L 8NSM 4L NSM 3L 7NSM 10L 2NSM 29L NSM 58L NSM 4L 4NSM 8L NSM 20L 2NSM",
  "14L 2ET 7L ET 2L NSM 2L 2NSM 57L NSM 4L 2NSM 4L 2NSM 2L 3NSM 3L NSM 30L 2NSM 3L NSM 11L 2NSM",
  "57L NSM 4L 5NSM L 2NSM 4L NSM 20L 2NSM 13L ET 8L 6NSM L NSM 58L NSM 2L NSM L 4NSM 8L NSM 7L",
  "2NSM 11L 2NSM 30L NSM 61L NSM 12L NSM 37L 6ON ET ON 5L NSM 3L NSM 55L NSM L 3NSM 5L 3NSM L",
  "4NSM 7L 2NSM 11L 2NSM 20L 7ON 2L NSM 58L NSM 15L 2NSM 20L 2NSM 28L 2NSM 57L 2NSM 4L 4NSM 8L",
  "NSM 20L 2NSM 29L NSM 72L NSM 7L 3NSM L NSM 90L NSM 2L 7NSM 4L ET 7L 8NSM 98L NSM 2L 9NSM 11L",
  "6NSM 74L 2NSM 27L NSM L NSM L NSM 4ON 51L 14NSM L 5NSM L 2NSM 5L 11NSM L 36NSM 9L NSM 102L",
  "4NSM L 6NSM L 2NSM 2L 2NSM 25L 2NSM 4L 3NSM 16L 4NSM 13L NSM 2L 2NSM 6L NSM 15L NSM 703L",
  "3NSM 48L 10ON 102L ON 639L WS 26L 2ON 117L 3NSM 29L 2NSM 30L 2NSM 30L 2NSM 64L 2NSM L 7NSM",
  "8L NSM 2L 11NSM 7L ET L NSM 18L 10ON 6L 11ON 3NSM BN NSM 117L 2NSM 34L NSM 118L 3NSM 4L 2NSM",
  "9L NSM 6L 3NSM 4L ON 3L 2ON 152L 34ON 23L 2NSM 2L NSM 58L NSM L 7NSM L NSM L NSM 2L 8NSM 6L",
  "10NSM 2L NSM 48L 31NSM 49L 4NSM 48L NSM L 5NSM L NSM 5L NSM 40L 9NSM 12L 2NSM 32L 4NSM 2L",
  "2NSM L 3NSM 56L NSM L 2NSM 3L NSM L 3NSM 58L 8NSM 2L 2NSM 152L 3NSM L 13NSM L 7NSM 4L NSM 6L",
  "NSM 3L 2NSM 198L 64NSM 445L ON L 3ON 11L 3ON 13L 3ON 13L 3ON 13L 2ON L 11WS 3BN L R 24ON WS",
  "B LRE RLE PDF LRO RLO CS 5ET 15ON CS 26ON WS 6BN LRI RLI FSI PDI 6BN EN 3L 6EN 2ES 3ON L",
  "10EN 2ES 3ON 17L 48ET 33NSM 15L 2ON L 4ON L 2ON 10L ON L 3ON 5L 6ON L ON L ON L ON 4L ET 11L",
  "2ON 4L 5ON 5L 4ON 2L 16ON 41L 3ON 4L 130ON ES ET 290ON 69L 26ON L 145ON 25L 11ON 21L 40ON",
  "20EN 78L 450ON L 339ON 256L 628ON 2L 32ON L 105ON 229L 6ON 4L 3NSM 7L 7ON 127L NSM 96L 32NSM",
  "94ON 34L 26ON L 89ON 12L 214ON 26L 12ON 4L WS 4ON 3L 25ON 9L 4NSM 2L ON 5L 2ON 5L 3ON 89L",
  "2NSM 2ON 3L ON 90L ON 196L 36ON 57L 2ON 49L 16ON 28L 3ON 50L 15ON 12L 4ON 167L 4ON 99L 2ON",
  "31L ON 6592L 64ON 22160L 55ON 326L 3ON 95L 4NSM ON 10NSM 2ON 30L 2NSM 80L 2NSM 14L 34ON 102L",
  "ON 121L NSM 3L NSM 4L NSM 25L 2NSM L 4ON NSM 11L 2ET 58L 4ON 76L 2NSM 26L 18NSM 13L NSM 38L",
  "8NSM 25L 11NSM 46L 3NSM 48L NSM 2L 4NSM 2L 2NSM 39L NSM 67L 6NSM 2L 2NSM 2L 2NSM 12L NSM 8L",
  "NSM 47L NSM 51L NSM L 3NSM 2L 2NSM 5L 2NSM L NSM 42L 2NSM 8L NSM 115L 2ON 121L NSM 2L NSM 4L",
  "NSM 20271L R NSM 10R ES 38R 494AL 18ON 127AL ON 32BN 13AL 3ON 16NSM 10ON 6L 16NSM 32ON CS ON",
  "CS L ON CS 9ON ET 2ON 2ES 3ON L ON 2ET ON 4L 143AL BN L 2ON 3ET 5ON ES CS ES 2CS 10EN CS 6ON",
  "26L 6ON 26L 11ON 122L 2ET 3ON 2ET L 7ON L 9BN 5ON 2BN 257L ON 62L 77ON 3L 13ON 3L ON 92L NSM",
  "226L NSM 27EN 122L 5NSM 1157L 287R ON 225R 3NSM R 2NSM 5R 4NSM 40R 3NSM 4R NSM 165R 2NSM 82R",
  "7ON 448R 36AL 4NSM 8AL 10AN 6AL 288R 31AN 44R 2NSM 131R 22AL 11NSM 31AL 18R 4NSM 122R L NSM",
  "54L 15NSM 11L 20ON 10L NSM 2L 2NSM 10L 3NSM 49L 4NSM 2L 2NSM 7L NSM 61L 3NSM 36L 5NSM L 8NSM",
  "62L NSM 12L 2NSM 52L 9NSM 10L 4NSM 2L NSM 95L 3NSM 2L NSM L 2NSM 6L NSM 160L NSM 3L 8NSM 21L",
  "2NSM 57L 2NSM 3L NSM 37L 7NSM 3L 5NSM 195L 8NSM 2L 3NSM L NSM 23L NSM 84L 6NSM L NSM 4L 2NSM",
  "L 2NSM 238L 4NSM 6L 2NSM L 2NSM 27L 2NSM 85L 8NSM 2L NSM L 2NSM 31L 13ON 62L NSM L NSM 2L",
  "6NSM L NSM 101L 3NSM 2L 4NSM L 5NSM 259L 9NSM L 2NSM 256L 2NSM L NSM 4L NSM 144L 4NSM 2L",
  "2NSM 4L NSM 32L 6NSM 2L 2NSM 40L 6NSM 2L 4NSM 8L NSM 9L 6NSM 2L 3NSM 46L 13NSM L 2NSM 406L",
  "7NSM L 6NSM 84L 22NSM 2L 7NSM L 2NSM L 2NSM 122L 6NSM 3L NSM L 2NSM L 7NSM L NSM 72L 2NSM 3L",
  "NSM L NSM 347L 2NSM 224L 8ON 4ET 17ON 19198L 5NSM 59L 7NSM 1048L NSM 63L 4NSM 79L ON L NSM",
  "19640L 2NSM L 4BN 4700L 46NSM 2L 23NSM 544L 3NSM 9L 8BN 8NSM 2L 7NSM 30L 4NSM 59L 2ON 21L",
  "66ON 3NSM ON 186L 87ON 900L ON 57L ON 57L ON 57L ON 57L ON 10L 50EN 512L 55NSM 4L 50NSM 8L",
  "NSM 14L NSM 22L 5NSM L 15NSM 1360L 7NSM L 17NSM 2L 7NSM L 2NSM L 5NSM 261L 7NSM 375L NSM 61L",
  "4NSM 15L ET 1280L 208R 7NSM 109R 7NSM 805R 80AL 64R 80AL 176R 240AL 2ON 14AL 256R 44ON 4L",
  "100ON 12L 15ON 2L 15ON L 15ON L 37ON 10L 11EN 5ON 31L ON 58L 6ON 61L ON 178L 6ON 154L 984ON",
  "5L 16ON 3L 13ON 3L 116ON 12L 89ON 7L 12ON 4L ON 15L 12ON 4L 56ON 8L 10ON 6L 40ON 8L 30ON 2L",
  "2ON 78L 340ON 12L 14ON 2L 5ON 3L 5ON 3L 7ON 9L 29ON 3L 11ON 5L 6ON 10L 10ON 6L 8ON 8L 7ON 9L",
  "147ON L 55ON 37L 10EN 1028L 2BN 65534L 2BN 65534L 2BN 65534L 2BN 65534L 2BN 65534L 2BN",
  "65534L 2BN 65534L 2BN 65534L 2BN 65534L 2BN 65534L 2BN 65534L 2BN 65534L 258BN 240NSM 3600BN",
  "61438L 2BN 65534L 2BN 65534L 2BN"]

/-- The code of a class in lower case. -/
def lower (code : List Char) : String :=
  String.ofList (code.map Char.toLower)

/-- All characters of a class. -/
def set? (code : String) : Option CharSet :=
  if codes.contains code then
    some (CharSet.ofRanges ((Runs.ofLines runs lower).ranges (· == code)))
  else none

end PatternScan.Pattern.BidiClass
