import PoolFeed.Json.Writer
import PoolFeed.Text.Quoted

/-!
# Why a text is not the JSON that was wanted

Faults of the text itself, and faults of a value that is sound JSON but not of the wanted kind.
-/

namespace PoolFeed.Json

/-- The kind of a value that was met, as far as an error names it. -/
inductive Found where
  | null
  | bool (value : Bool)
  | number (value : Number)
  | string (value : String)
  | sequence
  | map
  deriving Repr, DecidableEq

/-- What stood where something else was wanted. -/
def Found.text : Found → String
  | .null => "null"
  | .bool b => s!"boolean `{b}`"
  | .number (.integer i) => s!"integer `{i}`"
  | .number (.float x) => s!"floating point `{(Number.float x).text}`"
  | .string s => "string " ++ Text.quotedForReading s
  | .sequence => "sequence"
  | .map => "map"

/-- Why a text could not be read as the wanted JSON. -/
inductive Error where
  /-- The text ends where a value is due. -/
  | cutValue
  /-- The text ends inside an array. -/
  | cutArray
  /-- The text ends inside an object. -/
  | cutObject
  /-- The text ends inside a string. -/
  | cutString
  /-- No value begins here. -/
  | noValue
  /-- A word other than `true`, `false` and `null`. -/
  | brokenWord
  /-- A key without a colon behind it. -/
  | noColon
  /-- A value of an array with neither comma nor bracket behind it. -/
  | noArraySeparator
  /-- A field of an object with neither comma nor brace behind it. -/
  | noObjectSeparator
  /-- A field that does not begin with a string. -/
  | keyNotString
  /-- A comma before a closing bracket. -/
  | trailingComma
  /-- More text behind the value. -/
  | trailingText
  /-- A number that is not written as one. -/
  | badNumber
  /-- A number too large to be finite. -/
  | numberOutOfRange
  /-- An escape that does not exist. -/
  | badEscape
  /-- The first half of a surrogate pair without a second. -/
  | halfPair
  /-- A surrogate outside a pair. -/
  | loneSurrogate
  /-- A control character inside a string. -/
  | controlCharacter
  /-- A string whose bytes are not UTF-8. -/
  | notUnicode
  /-- More arrays and objects inside each other than are allowed. -/
  | tooDeep
  /-- A value of another kind than the wanted one. -/
  | wrongKind (found : Found) (wanted : String)
  /-- A value of the wanted kind outside the wanted range. -/
  | wrongValue (found : Found) (wanted : String)
  /-- A field that is missing. -/
  | missingField (name : String)
  /-- A field that occurs twice. -/
  | duplicateField (name : String)
  /-- A name that is none of those allowed. -/
  | unknownName (name : String) (allowed : List String)
  /-- A sequence with too few values. -/
  | wrongLength (length : Nat) (wanted : String)
  /-- A string that does not read as what it stands for. -/
  | unreadable (reason : String)
  deriving Repr

/-- The wording of an error. -/
def Error.message : Error → String
  | .cutValue => "EOF while parsing a value"
  | .cutArray => "EOF while parsing a list"
  | .cutObject => "EOF while parsing an object"
  | .cutString => "EOF while parsing a string"
  | .noValue => "expected value"
  | .brokenWord => "expected ident"
  | .noColon => "expected `:`"
  | .noArraySeparator => "expected `,` or `]`"
  | .noObjectSeparator => "expected `,` or `\x7d`"
  | .keyNotString => "key must be a string"
  | .trailingComma => "trailing comma"
  | .trailingText => "trailing characters"
  | .badNumber => "invalid number"
  | .numberOutOfRange => "number out of range"
  | .badEscape => "invalid escape"
  | .halfPair => "unexpected end of hex escape"
  | .loneSurrogate => "lone leading surrogate in hex escape"
  | .controlCharacter => "control character (\\u0000-\\u001F) found while parsing a string"
  | .notUnicode => "invalid unicode code point"
  | .tooDeep => "recursion limit exceeded"
  | .wrongKind found wanted => s!"invalid type: {found.text}, expected {wanted}"
  | .wrongValue found wanted => s!"invalid value: {found.text}, expected {wanted}"
  | .missingField name => s!"missing field `{name}`"
  | .duplicateField name => s!"duplicate field `{name}`"
  | .unknownName name allowed =>
    s!"unknown variant `{name}`, expected one of " ++
      ", ".intercalate (allowed.map (fun a => s!"`{a}`"))
  | .wrongLength length wanted => s!"invalid length {length}, expected {wanted}"
  | .unreadable reason => reason

end PoolFeed.Json
