import LintAdapter.Json.Value
import LintAdapter.Number.Shortest
import LintAdapter.Text.Quoted

namespace LintAdapter.Json

/-- Numbers are written positionally from five zeros after the point up to sixteen whole digits. -/
def numberLayout : LintAdapter.Number.Layout := ⟨-5, 15⟩

namespace Number

def text : Number → List Char
  | .integer value => (toString value).toList
  | .real value => value.text numberLayout

end Number

inductive Found where
  | null
  | bool (value : Bool)
  | number (value : Number)
  | text (value : String)
  | sequence
  | map

inductive Fault where
  | endOfValue
  | endOfList
  | endOfObject
  | endOfString
  | expectedValue
  | expectedWord
  | expectedColon
  | expectedListEnd
  | expectedObjectEnd
  | trailingComma
  | trailingText
  | keyNotText
  | controlCharacter
  | invalidEscape
  | unfinishedPair
  | loneSurrogate
  | invalidNumber
  | numberOutOfRange
  | tooDeep
  | wrongType (found : Found) (wanted : String)
  | wrongValue (found : Int) (wanted : String)
  | wrongLength (found : Nat) (wanted : String)
  | missingField (name : String)
  | duplicateField (name : String)
  | noVariant (wanted : String)

def Found.describe : Found → String
  | .null => "null"
  | .bool true => "boolean `true`"
  | .bool false => "boolean `false`"
  | .number (.integer value) => "integer `" ++ toString value ++ "`"
  | .number (.real value) =>
    "floating point `" ++ String.ofList (value.text numberLayout) ++ "`"
  | .text value => "string " ++ Text.quoted value
  | .sequence => "sequence"
  | .map => "map"

def Fault.message : Fault → String
  | .endOfValue => "EOF while parsing a value"
  | .endOfList => "EOF while parsing a list"
  | .endOfObject => "EOF while parsing an object"
  | .endOfString => "EOF while parsing a string"
  | .expectedValue => "expected value"
  | .expectedWord => "expected ident"
  | .expectedColon => "expected `:`"
  | .expectedListEnd => "expected `,` or `]`"
  | .expectedObjectEnd => "expected `,` or `\x7d`"
  | .trailingComma => "trailing comma"
  | .trailingText => "trailing characters"
  | .keyNotText => "key must be a string"
  | .controlCharacter => "control character (\\u0000-\\u001F) found while parsing a string"
  | .invalidEscape => "invalid escape"
  | .unfinishedPair => "unexpected end of hex escape"
  | .loneSurrogate => "lone leading surrogate in hex escape"
  | .invalidNumber => "invalid number"
  | .numberOutOfRange => "number out of range"
  | .tooDeep => "recursion limit exceeded"
  | .wrongType found wanted => "invalid type: " ++ found.describe ++ ", expected " ++ wanted
  | .wrongValue found wanted =>
    "invalid value: integer `" ++ toString found ++ "`, expected " ++ wanted
  | .wrongLength found wanted =>
    "invalid length " ++ toString found ++ ", expected " ++ wanted
  | .missingField name => "missing field `" ++ name ++ "`"
  | .duplicateField name => "duplicate field `" ++ name ++ "`"
  | .noVariant wanted => "data did not match any variant of untagged enum " ++ wanted

end LintAdapter.Json
