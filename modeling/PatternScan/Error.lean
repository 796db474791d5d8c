import PatternScan.Text.Bounded

/-!
# Engine codes and their texts

The engine answers a rejected pattern with a code from 100 on and a failed search with a
negative one. A message is put together in blocks of bounded size, one of which the engine
is given to fill. Three things live here:

* `Code.known?`, the texts that the engine has for codes;
* `Code.Teller`, an engine as it is asked for the text of a code, with the messages that
  come out of the blocks, whichever engine it is, and `Code.tabledTeller`, the engine with
  the texts of the tables;
* `Rejection` and `Failure`, whose messages are those of `Code.tabledTeller`.
-/

namespace PatternScan

namespace Code

/-- The engine's texts for the codes 100, 101, and so on. -/
def rejectionTexts : List String :=
  ["no error",
   "\\ at end of pattern",
   "\\c at end of pattern",
   "unrecognized character follows \\",
   "numbers out of order in \x7b\x7d quantifier",
   "number too big in \x7b\x7d quantifier",
   "missing terminating ] for character class",
   "escape sequence is invalid in character class",
   "range out of order in character class",
   "quantifier does not follow a repeatable item",
   "internal error: unexpected repeat",
   "unrecognized character after (? or (?-",
   "POSIX named classes are supported only within a class",
   "POSIX collating elements are not supported",
   "missing closing parenthesis",
   "reference to non-existent subpattern",
   "pattern passed as NULL",
   "unrecognised compile-time option bit(s)",
   "missing ) after (?# comment",
   "parentheses are too deeply nested",
   "regular expression is too large",
   "failed to allocate heap memory",
   "unmatched closing parenthesis",
   "internal error: code overflow",
   "missing closing parenthesis for condition",
   "lookbehind assertion is not fixed length",
   "a relative value of zero is not allowed",
   "conditional subpattern contains more than two branches",
   "assertion expected after (?( or (?(?C)",
   "digit expected after (?+ or (?-",
   "unknown POSIX class name",
   "internal error in pcre2_study(): should not occur",
   "this version of PCRE2 does not have Unicode support",
   "parentheses are too deeply nested (stack check)",
   "character code point value in \\x\x7b\x7d or \\o\x7b\x7d is too large",
   "lookbehind is too complicated",
   "\\C is not allowed in a lookbehind assertion in UTF-8 mode",
   "PCRE2 does not support \\F, \\L, \\l, \\N\x7bname\x7d, \\U, or \\u",
   "number after (?C is greater than 255",
   "closing parenthesis for (?C expected",
   "invalid escape sequence in (*VERB) name",
   "unrecognized character after (?P",
   "syntax error in subpattern name (missing terminator?)",
   "two named subpatterns have the same name (PCRE2_DUPNAMES not set)",
   "subpattern name must start with a non-digit",
   "this version of PCRE2 does not have support for \\P, \\p, or \\X",
   "malformed \\P or \\p sequence",
   "unknown property after \\P or \\p",
   "subpattern name is too long (maximum 32 code units)",
   "too many named subpatterns (maximum 10000)",
   "invalid range in character class",
   "octal value is greater than \\377 in 8-bit non-UTF-8 mode",
   "internal error: overran compiling workspace",
   "internal error: previously-checked referenced subpattern not found",
   "DEFINE subpattern contains more than one branch",
   "missing opening brace after \\o",
   "internal error: unknown newline setting",
   "\\g is not followed by a braced, angle-bracketed, or quoted name/number or by a plain number",
   "(?R (recursive pattern call) must be followed by a closing parenthesis",
   "obsolete error (should not occur)",
   "(*VERB) not recognized or malformed",
   "subpattern number is too big",
   "subpattern name expected",
   "internal error: parsed pattern overflow",
   "non-octal character in \\o\x7b\x7d (closing brace missing?)",
   "different names for subpatterns of the same number are not allowed",
   "(*MARK) must have an argument",
   "non-hex character in \\x\x7b\x7d (closing brace missing?)",
   "\\c must be followed by a printable ASCII character",
   "\\k is not followed by a braced, angle-bracketed, or quoted name",
   "internal error: unknown meta code in check_lookbehinds()",
   "\\N is not supported in a class",
   "callout string is too long",
   "disallowed Unicode code point (>= 0xd800 && <= 0xdfff)",
   "using UTF is disabled by the application",
   "using UCP is disabled by the application",
   "name is too long in (*MARK), (*PRUNE), (*SKIP), or (*THEN)",
   "character code point value in \\u.... sequence is too large",
   "digits missing in \\x\x7b\x7d or \\o\x7b\x7d or \\N\x7bU+\x7d",
   "syntax error or number too big in (?(VERSION condition",
   "internal error: unknown opcode in auto_possessify()",
   "missing terminating delimiter for callout with string argument",
   "unrecognized string delimiter follows (?C",
   "using \\C is disabled by the application",
   "(?| and/or (?J: or (?x: parentheses are too deeply nested",
   "using \\C is disabled in this PCRE2 library",
   "regular expression is too complicated",
   "lookbehind assertion is too long",
   "pattern string is longer than the limit set by the application",
   "internal error: unknown code in parsed pattern",
   "internal error: bad code value in parsed_skip()",
   "PCRE2_EXTRA_ALLOW_SURROGATE_ESCAPES is not allowed in UTF-16 mode",
   "invalid option bits with PCRE2_LITERAL",
   "\\N\x7bU+dddd\x7d is supported only in Unicode (UTF) mode",
   "invalid hyphen in option setting",
   "(*alpha_assertion) not recognized",
   "script runs require Unicode support, which this version of PCRE2 does not have",
   "too many capturing groups (maximum 65535)",
   "atomic assertion expected after (?( or (?(?C)",
   "\\K is not allowed in lookarounds (but see PCRE2_EXTRA_ALLOW_LOOKAROUND_BSK)"]

/-- The engine's texts for the codes -1, -2, and so on. -/
def failureTexts : List String :=
  ["no match",
   "partial match",
   "UTF-8 error: 1 byte missing at end",
   "UTF-8 error: 2 bytes missing at end",
   "UTF-8 error: 3 bytes missing at end",
   "UTF-8 error: 4 bytes missing at end",
   "UTF-8 error: 5 bytes missing at end",
   "UTF-8 error: byte 2 top bits not 0x80",
   "UTF-8 error: byte 3 top bits not 0x80",
   "UTF-8 error: byte 4 top bits not 0x80",
   "UTF-8 error: byte 5 top bits not 0x80",
   "UTF-8 error: byte 6 top bits not 0x80",
   "UTF-8 error: 5-byte character is not allowed (RFC 3629)",
   "UTF-8 error: 6-byte character is not allowed (RFC 3629)",
   "UTF-8 error: code points greater than 0x10ffff are not defined",
   "UTF-8 error: code points 0xd800-0xdfff are not defined",
   "UTF-8 error: overlong 2-byte sequence",
   "UTF-8 error: overlong 3-byte sequence",
   "UTF-8 error: overlong 4-byte sequence",
   "UTF-8 error: overlong 5-byte sequence",
   "UTF-8 error: overlong 6-byte sequence",
   "UTF-8 error: isolated byte with 0x80 bit set",
   "UTF-8 error: illegal byte (0xfe or 0xff)",
   "UTF-16 error: missing low surrogate at end",
   "UTF-16 error: invalid low surrogate",
   "UTF-16 error: isolated low surrogate",
   "UTF-32 error: code points 0xd800-0xdfff are not defined",
   "UTF-32 error: code points greater than 0x10ffff are not defined",
   "bad data value",
   "patterns do not all use the same character tables",
   "magic number missing",
   "pattern compiled in wrong mode: 8/16/32-bit error",
   "bad offset value",
   "bad option value",
   "invalid replacement string",
   "bad offset into UTF string",
   "callout error code",
   "invalid data in workspace for DFA restart",
   "too much recursion for DFA matching",
   "backreference condition or recursion test is not supported for DFA matching",
   "function is not supported for DFA matching",
   "pattern contains an item that is not supported for DFA matching",
   "workspace size exceeded in DFA matching",
   "internal error - pattern overwritten?",
   "bad JIT option",
   "JIT stack limit reached",
   "match limit exceeded",
   "no more memory",
   "unknown substring",
   "non-unique substring name",
   "NULL argument passed with non-zero length",
   "nested recursion at the same subject position",
   "matching depth limit exceeded",
   "requested value is not available",
   "requested value is not set",
   "offset limit set without PCRE2_USE_OFFSET_LIMIT",
   "bad escape sequence in replacement string",
   "expected closing curly bracket in replacement string",
   "bad substitution in replacement string",
   "match with end before start or start moved backwards is not supported",
   "too many replacements (more than INT_MAX)",
   "bad serialized data",
   "heap limit exceeded",
   "invalid syntax",
   "internal error - duplicate substitution match",
   "PCRE2_MATCH_INVALID_UTF is not supported for DFA matching"]

/-- The engine's own text for a code. -/
def known? (code : Int) : Option Bytes :=
  if 100 ≤ code then (rejectionTexts[(code - 100).toNat]?).map Bytes.ascii
  else if code < 0 then (failureTexts[(-code - 1).toNat]?).map Bytes.ascii
  else none

/-- The text for a code without one of its own. -/
def fallback (code : Int) : Bytes :=
  Bytes.ascii "PCRE error " ++ Bytes.ofInt code

/-- The bytes that fit beside the terminator of the block a code's text is put into. -/
def textRoom : Nat := 255

/-- The bytes that fit beside the terminator of the block a rejection is worded in. -/
def messageRoom : Nat := 511

/-- An engine as it is asked for the text of a code, a word of 32 bits: it is given a block, which it
answers with a number and fills. -/
abbrev Teller := Int32 → Text.Bounded textRoom → Int × Text.Bounded textRoom

/-- The blocks that a message passes through, as they are found. -/
structure Blocks where
  /-- The one that the engine is given. -/
  asked : Text.Bounded textRoom
  /-- The one for a text of which the engine knows nothing. -/
  spare : Text.Bounded textRoom
  /-- The one for the words about a rejection. -/
  message : Text.Bounded messageRoom

/-- Blocks with nothing in them. -/
def Blocks.blank : Blocks := ⟨.zeros textRoom, .zeros textRoom, .zeros messageRoom⟩

namespace Teller

/-- The block that the text of a code is read from: the one that the engine was given, or, if it
answered with a negative number, another one with a text that names the code. -/
def block (tell : Teller) (blocks : Blocks) (code : Int32) : Text.Bounded textRoom :=
  let answer := tell code blocks.asked
  if answer.1 < 0 then blocks.spare.format (fallback code.toInt) else answer.2

/-- The message of a failed search. -/
def failure (tell : Teller) (blocks : Blocks) (code : Int32) : Bytes :=
  (tell.block blocks code).view

/-- The message of a rejected pattern. -/
def rejection (tell : Teller) (blocks : Blocks) (code : Int32) (offset : UInt64) : Bytes :=
  (blocks.message.format
    (Bytes.ascii "Error in regex at offset " ++ Bytes.ofNat offset.toNat ++ Bytes.ascii ": " ++
      (tell.block blocks code).view)).view

end Teller

/-- The engine with the texts of the tables answers with the length of the text, or with the code
for a bad value if it has none; a text that is too long is cut and answered with the code for too
little memory. -/
def tabledTeller : Teller := fun code block =>
  match known? code.toInt with
  | none => (-29, block)
  | some text => (if text.length ≤ textRoom then text.length else -48, block.format text)

end Code

/-- Why a pattern was not compiled: the code, the offset in the pattern and the message. -/
structure Rejection where
  code : Int
  offset : UInt64
  message : Bytes
deriving DecidableEq

namespace Rejection

/-- The rejection that the engine's code and offset stand for. -/
def ofCode (code : Int) (offset : UInt64) : Rejection :=
  ⟨code, offset, Code.tabledTeller.rejection .blank (.ofInt code) offset⟩

/-- A rejection with a wording of its own, read as zero-terminated text. -/
def worded (code : Int) (offset : UInt64) (message : Bytes) : Rejection :=
  ⟨code, offset, message.untilNul⟩

/-- The rejection of the empty pattern, which never reaches the engine. -/
def ofEmpty : Rejection :=
  worded 0 0 (Bytes.ascii "Empty regex")

end Rejection

/-- Why a search failed: the engine's code and its text. -/
structure Failure where
  code : Int
  message : Bytes
deriving DecidableEq

/-- The failure that an engine code stands for. -/
def Failure.ofCode (code : Int) : Failure :=
  ⟨code, Code.tabledTeller.failure .blank (.ofInt code)⟩

end PatternScan
