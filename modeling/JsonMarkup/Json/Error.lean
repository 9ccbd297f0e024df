/-!
# Why a text is not a JSON document

Each cause of failure, its wording, and whether the text merely ended too early or went wrong where
it stood.
-/

namespace JsonMarkup.Json

/-- What was being read when something went wrong. -/
inductive Error where
  /-- The text ends where a value was begun or expected. -/
  | endInValue
  | endInList
  | endInObject
  | endInString
  | expectedValue
  | expectedIdent
  /-- A number lacks a digit, or has a zero too many in front. -/
  | invalidNumber
  | numberOutOfRange
  | invalidEscape
  | controlCharacter
  /-- The first half of a surrogate pair is not followed by an escape of the same kind. -/
  | unexpectedEndOfHexEscape
  | loneSurrogate
  /-- An item is followed by neither a comma nor the end of the array. -/
  | expectedCommaOrListEnd
  /-- A member is followed by neither a comma nor the end of the object. -/
  | expectedCommaOrObjectEnd
  | expectedColon
  /-- Something other than a string stands where a name has to. -/
  | keyMustBeString
  /-- A comma is followed by the end of the array or object. -/
  | trailingComma
  | trailingCharacters
  /-- Too many arrays and objects lie within each other. -/
  | recursionLimit
deriving DecidableEq, Repr

namespace Error

/-- Whether the text ended too early or is wrong as it stands. -/
inductive Category where
  | ended
  | grammar
deriving DecidableEq, Repr

def category : Error → Category
  | .endInValue | .endInList | .endInObject | .endInString => .ended
  | _ => .grammar

/-- What is wrong, without the place. A full report goes on with ` at line L column C`; where in the
text a reader has stopped is not kept here, so every report that quotes this message lacks that. -/
def message : Error → String
  | .endInValue => "EOF while parsing a value"
  | .endInList => "EOF while parsing a list"
  | .endInObject => "EOF while parsing an object"
  | .endInString => "EOF while parsing a string"
  | .expectedValue => "expected value"
  | .expectedIdent => "expected ident"
  | .invalidNumber => "invalid number"
  | .numberOutOfRange => "number out of range"
  | .invalidEscape => "invalid escape"
  | .controlCharacter => "control character (\\u0000-\\u001F) found while parsing a string"
  | .unexpectedEndOfHexEscape => "unexpected end of hex escape"
  | .loneSurrogate => "lone leading surrogate in hex escape"
  | .expectedCommaOrListEnd => "expected `,` or `]`"
  | .expectedCommaOrObjectEnd => "expected `,` or `\x7d`"
  | .expectedColon => "expected `:`"
  | .keyMustBeString => "key must be a string"
  | .trailingComma => "trailing comma"
  | .trailingCharacters => "trailing characters"
  | .recursionLimit => "recursion limit exceeded"

end Error

end JsonMarkup.Json
