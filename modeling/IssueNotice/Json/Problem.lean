import IssueNotice.Instant.Reading
import IssueNotice.Text.Literal

/-!
# Problems of JSON input

Why a text is not the record that was expected: it is not JSON, or a value in it is not of the right
kind.
-/

namespace IssueNotice.Json

/-- A value of the wrong kind. -/
inductive Found where
  | null
  | boolean (b : Bool)
  | integer (n : Int)
  /-- A number that is not a 64-bit integer, as it is written. -/
  | real (digits : String)
  | text (s : String)
  | list
  | object
  deriving Repr, DecidableEq

/-- A value of the wrong kind, in words. -/
def Found.describe : Found → String
  | null => "null"
  | boolean b => s!"boolean `{b}`"
  | integer n => s!"integer `{n}`"
  | real digits => s!"floating point `{digits}`"
  | text s => s!"string {Text.literal s}"
  | list => "sequence"
  | object => "map"

/-- Why a text is not the record that was expected. -/
inductive Problem where
  | endInValue
  | endInString
  | endInObject
  | endInList
  | expectedValue
  | expectedWord
  | expectedColon
  | expectedCommaOrBrace
  | expectedCommaOrBracket
  | keyNotString
  | trailingComma
  | trailingCharacters
  | invalidNumber
  | numberOutOfRange
  | invalidEscape
  | unfinishedSurrogatePair
  | loneSurrogate
  | controlCharacter
  | tooDeep
  | missingField (name : String)
  | duplicateField (name : String)
  | wrongType (found : Found) (expected : String)
  | wrongValue (found : Found) (expected : String)
  | wrongLength (length : Nat) (record : String) (fields : Nat)
  | badInstant (problem : Instant.Problem)
  deriving Repr, DecidableEq

/-- What is said about a problem. -/
def Problem.message : Problem → String
  | endInValue => "EOF while parsing a value"
  | endInString => "EOF while parsing a string"
  | endInObject => "EOF while parsing an object"
  | endInList => "EOF while parsing a list"
  | expectedValue => "expected value"
  | expectedWord => "expected ident"
  | expectedColon => "expected `:`"
  | expectedCommaOrBrace => "expected `,` or `\x7d`"
  | expectedCommaOrBracket => "expected `,` or `]`"
  | keyNotString => "key must be a string"
  | trailingComma => "trailing comma"
  | trailingCharacters => "trailing characters"
  | invalidNumber => "invalid number"
  | numberOutOfRange => "number out of range"
  | invalidEscape => "invalid escape"
  | unfinishedSurrogatePair => "unexpected end of hex escape"
  | loneSurrogate => "lone leading surrogate in hex escape"
  | controlCharacter =>
    "control character (\\u0000-\\u001F) found while parsing a string"
  | tooDeep => "recursion limit exceeded"
  | missingField name => s!"missing field `{name}`"
  | duplicateField name => s!"duplicate field `{name}`"
  | wrongType found expected => s!"invalid type: {found.describe}, expected {expected}"
  | wrongValue found expected => s!"invalid value: {found.describe}, expected {expected}"
  | wrongLength length record fields =>
    s!"invalid length {length}, expected struct {record} with {fields} elements"
  | badInstant problem => problem.message

end IssueNotice.Json
