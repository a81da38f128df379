import RegistrySeeding.Decimal.Shortest
import RegistrySeeding.Json.Basic
import RegistrySeeding.Text.Quoted
import RegistrySeeding.Text.Utf8

/-! Why a document was refused. A fault is the first one in document order; its text says what was
found, what was expected, and the line and column where the reading stopped. -/
namespace RegistrySeeding.Json

inductive Found where
  | null
  | bool (b : Bool)
  | number (n : Number)
  | string (s : String)
  | sequence
  | map
  deriving DecidableEq, Repr

inductive Cause where
  | endInValue
  | endInList
  | endInObject
  | endInString
  | expectedValue
  | expectedWord
  | expectedColon
  | expectedListCommaOrEnd
  | expectedObjectCommaOrEnd
  | keyNotString
  | trailingComma
  | trailingCharacters
  | invalidNumber
  | numberOutOfRange
  | invalidEscape
  | controlCharacter
  | loneSurrogate
  | endOfHexEscape
  | nestedTooDeep
  | wrongType (found : Found) (expected : String)
  | wrongValue (found : Found) (expected : String)
  | wrongLength (length : Nat) (expected : String)
  | unknownVariant (name : String) (known : List String)
  | missingField (name : String)
  | duplicateField (name : String)
  | refused (reason : String)
  deriving DecidableEq, Repr

inductive Category where
  | malformed
  | mismatch
  | ended
  deriving DecidableEq, Repr

def Cause.category : Cause → Category
  | .endInValue | .endInList | .endInObject | .endInString => .ended
  | .wrongType .. | .wrongValue .. | .wrongLength .. | .unknownVariant .. | .missingField _
  | .duplicateField _ | .refused _ => .mismatch
  | _ => .malformed

def named (s : String) : String := "`" ++ s ++ "`"

def Number.text : Number → List Char
  | .int n => (toString n).toList
  | .float x => Decimal.text x

def Found.message : Found → String
  | .null => "null"
  | .bool b => "boolean " ++ named (toString b)
  | .number (.int n) => "integer " ++ named (toString n)
  | .number (.float x) => "floating point " ++ named (String.ofList (Decimal.text x))
  | .string s => "string " ++ Text.quoted s
  | .sequence => "sequence"
  | .map => "map"

def oneOf : List String → String
  | [] => "nothing"
  | [a] => named a
  | [a, b] => named a ++ " or " ++ named b
  | names => "one of " ++ String.intercalate ", " (names.map named)

def Cause.message : Cause → String
  | .endInValue => "EOF while parsing a value"
  | .endInList => "EOF while parsing a list"
  | .endInObject => "EOF while parsing an object"
  | .endInString => "EOF while parsing a string"
  | .expectedValue => "expected value"
  | .expectedWord => "expected ident"
  | .expectedColon => "expected `:`"
  | .expectedListCommaOrEnd => "expected `,` or `]`"
  | .expectedObjectCommaOrEnd => "expected `,` or `\x7d`"
  | .keyNotString => "key must be a string"
  | .trailingComma => "trailing comma"
  | .trailingCharacters => "trailing characters"
  | .invalidNumber => "invalid number"
  | .numberOutOfRange => "number out of range"
  | .invalidEscape => "invalid escape"
  | .controlCharacter => "control character (\\u0000-\\u001F) found while parsing a string"
  | .loneSurrogate => "lone leading surrogate in hex escape"
  | .endOfHexEscape => "unexpected end of hex escape"
  | .nestedTooDeep => "recursion limit exceeded"
  | .wrongType found expected => "invalid type: " ++ found.message ++ ", expected " ++ expected
  | .wrongValue found expected => "invalid value: " ++ found.message ++ ", expected " ++ expected
  | .wrongLength n expected => "invalid length " ++ toString n ++ ", expected " ++ expected
  | .unknownVariant name known => "unknown variant " ++ named name ++ ", expected " ++ oneOf known
  | .missingField name => "missing field " ++ named name
  | .duplicateField name => "duplicate field " ++ named name
  | .refused reason => reason

/-- A cause and how many bytes of the document were left where the reading stopped, which may be in
the middle of a character. -/
structure Stop where
  cause : Cause
  left : Nat
  deriving DecidableEq, Repr

def Stop.into (bytes : Nat) (cs : List Char) (cause : Cause) : Stop :=
  ⟨cause, Text.Utf8.length cs - bytes⟩

def Stop.before (cs : List Char) (cause : Cause) : Stop := .into 0 cs cause

def Stop.past (cs : List Char) (cause : Cause) : Stop := .into 1 cs cause

structure Fault where
  cause : Cause
  line : Nat
  column : Nat
  deriving DecidableEq, Repr

def Fault.message (fault : Fault) : String :=
  fault.cause.message ++ " at line " ++ toString fault.line ++ " column " ++ toString fault.column

def advance : Nat → Nat → Nat → List Char → Nat × Nat
  | _, line, column, [] => (line, column)
  | bytes, line, column, c :: rest =>
    -- Columns count bytes, so the place may be inside the character.
    if bytes < Text.Utf8.size c then (line, column + bytes)
    else if c = '\n' then advance (bytes - 1) (line + 1) 0 rest
    else advance (bytes - Text.Utf8.size c) line (column + Text.Utf8.size c) rest

def Stop.fault (document : List Char) (stop : Stop) : Fault :=
  let (line, column) := advance (Text.Utf8.length document - stop.left) 1 0 document
  ⟨stop.cause, line, column⟩

end RegistrySeeding.Json
