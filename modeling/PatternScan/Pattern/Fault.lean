/-!
# Faults of patterns

A pattern that cannot be compiled has a fault: its cause, and the offset in the pattern where
it was noticed. Each cause has the code under which callers know it.
-/

namespace PatternScan.Pattern

/-- What can be wrong with a pattern. -/
inductive Cause
  | endAfterBackslash
  | endAfterControl
  | unknownEscape
  | countsOutOfOrder
  | countTooBig
  | unclosedClass
  | escapeInClass
  | rangeOutOfOrder
  | nothingToRepeat
  | unknownAfterQuestion
  | classNameOutsideClass
  | collatingElement
  | unclosedGroup
  | noSuchGroup
  | unclosedComment
  | nestedTooDeeply
  | tooLarge
  | unopenedGroup
  | unclosedCondition
  | lookbehindNotFixed
  | relativeZero
  | tooManyConditionBranches
  | assertionExpected
  | digitExpected
  | unknownClassName
  | codePointTooBig
  | lookbehindTooComplicated
  | byteInLookbehind
  | unsupportedEscape
  | calloutTooBig
  | unclosedCallout
  | unknownAfterNamedGroup
  | nameUnterminated
  | duplicateName
  | nameStartsWithDigit
  | malformedProperty
  | unknownProperty
  | nameTooLong
  | tooManyNames
  | invalidClassRange
  | octalTooBig
  | definitionWithBranches
  | octalWithoutBrace
  | referenceForm
  | recursionUnclosed
  | unknownVerb
  | groupNumberTooBig
  | nameExpected
  | octalForm
  | nameForOtherNumber
  | markWithoutName
  | hexForm
  | controlNotPrintable
  | namedReferenceForm
  | notNewlineInClass
  | surrogate
  | verbNameTooLong
  | digitsMissing
  | versionCondition
  | unterminatedCalloutString
  | calloutDelimiter
  | lookbehindTooLong
  | namedCharacterWithoutUnicode
  | misplacedHyphen
  | unknownAssertionName
  | tooManyGroups
  | atomicAssertionExpected
  | resetStartInLookaround
  /-- The pattern is not valid UTF-8; the code is the one that searches report too. -/
  | invalidText (code : Int)
deriving DecidableEq, Repr

/-- The code of a cause. -/
def Cause.code : Cause → Int
  | endAfterBackslash => 101
  | endAfterControl => 102
  | unknownEscape => 103
  | countsOutOfOrder => 104
  | countTooBig => 105
  | unclosedClass => 106
  | escapeInClass => 107
  | rangeOutOfOrder => 108
  | nothingToRepeat => 109
  | unknownAfterQuestion => 111
  | classNameOutsideClass => 112
  | collatingElement => 113
  | unclosedGroup => 114
  | noSuchGroup => 115
  | unclosedComment => 118
  | nestedTooDeeply => 119
  | tooLarge => 120
  | unopenedGroup => 122
  | unclosedCondition => 124
  | lookbehindNotFixed => 125
  | relativeZero => 126
  | tooManyConditionBranches => 127
  | assertionExpected => 128
  | digitExpected => 129
  | unknownClassName => 130
  | codePointTooBig => 134
  | lookbehindTooComplicated => 135
  | byteInLookbehind => 136
  | unsupportedEscape => 137
  | calloutTooBig => 138
  | unclosedCallout => 139
  | unknownAfterNamedGroup => 141
  | nameUnterminated => 142
  | duplicateName => 143
  | nameStartsWithDigit => 144
  | malformedProperty => 146
  | unknownProperty => 147
  | nameTooLong => 148
  | tooManyNames => 149
  | invalidClassRange => 150
  | octalTooBig => 151
  | definitionWithBranches => 154
  | octalWithoutBrace => 155
  | referenceForm => 157
  | recursionUnclosed => 158
  | unknownVerb => 160
  | groupNumberTooBig => 161
  | nameExpected => 162
  | octalForm => 164
  | nameForOtherNumber => 165
  | markWithoutName => 166
  | hexForm => 167
  | controlNotPrintable => 168
  | namedReferenceForm => 169
  | notNewlineInClass => 171
  | surrogate => 173
  | verbNameTooLong => 176
  | digitsMissing => 178
  | versionCondition => 179
  | unterminatedCalloutString => 181
  | calloutDelimiter => 182
  | lookbehindTooLong => 187
  | namedCharacterWithoutUnicode => 193
  | misplacedHyphen => 194
  | unknownAssertionName => 195
  | tooManyGroups => 197
  | atomicAssertionExpected => 198
  | resetStartInLookaround => 199
  | invalidText code => code

/-- What is wrong with a pattern, and where it was noticed. -/
structure Fault where
  cause : Cause
  offset : Nat
deriving DecidableEq, Repr

end PatternScan.Pattern
