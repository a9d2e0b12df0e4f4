import ApiConsole.Json.Printer
import ApiConsole.Text.Quoted
import ApiConsole.Text.Utf8
import ApiConsole.Timestamp

/-!
# Faults of JSON texts

Why a text is refused, and where. A reader that stops knows what is left of its input, so it gives
the place of a fault as the number of bytes behind it; the line and the column are counted from the
whole input afterwards. Lines are counted from one; the column is the number of bytes of the line
up to the place of the fault.
-/
namespace ApiConsole.Json

open Text

/-- What stood in a place where something else was expected. -/
inductive Found where
  | null
  | bool (b : Bool)
  | number (n : Number)
  | string (s : String)
  | sequence
  | map
  deriving DecidableEq, Repr

/-- Why a text is not what it should be. -/
inductive Cause where
  | endInValue
  | endInObject
  | endInList
  | endInString
  | expectedColon
  | expectedListEnd
  | expectedObjectEnd
  | expectedIdent
  | expectedValue
  | keyMustBeString
  | trailingComma
  | trailingCharacters
  | invalidNumber
  | numberOutOfRange
  | invalidEscape
  | loneSurrogate
  | endOfHexEscape
  | controlCharacter
  | invalidCodePoint
  | tooDeep
  | wrongType (found : Found) (expected : String)
  | wrongValue (n : Int) (expected : String)
  | wrongLength (n : Nat) (expected : String)
  | unknownVariant (name : String) (known : List String)
  | missingField (name : String)
  | duplicateField (name : String)
  | badTimestamp (fault : Timestamp.Fault)
  deriving DecidableEq, Repr

/-- A cause and the number of bytes behind its place. -/
structure Fault where
  cause : Cause
  left : Nat
  deriving DecidableEq, Repr

/-- A cause with its line and column. -/
structure ParseError where
  cause : Cause
  line : Nat
  column : Nat
  deriving DecidableEq, Repr

/-- Reads something at the start of a text and gives what is left of it. -/
abbrev Reader (α : Type) := List Symbol → Except Fault (α × List Symbol)

/-! ## Places -/

/-- A fault in front of what is left. -/
def Fault.before {α : Type} (cause : Cause) (rest : List Symbol) : Except Fault α :=
  .error ⟨cause, byteWidth rest⟩

/-- A fault at the next byte, or at the end of the text. -/
def Fault.onNext {α : Type} (cause : Cause) (rest : List Symbol) : Except Fault α :=
  .error ⟨cause, byteWidth rest - 1⟩

/-- The line and column that lie `bytes` behind a given line and column. -/
def placeAfter : List Symbol → Nat → Nat → Nat → Nat × Nat
  | _, 0, line, column => (line, column)
  | [], _ + 1, line, column => (line, column)
  | x :: rest, bytes + 1, line, column =>
    if x == .char '\n' then placeAfter rest bytes (line + 1) 0
    else if x.width ≤ bytes + 1 then
      placeAfter rest (bytes + 1 - x.width) line (column + x.width)
    else (line, column + (bytes + 1))

/-- The place of a fault in the text that was read. -/
def Fault.locate (input : List Symbol) (f : Fault) : ParseError :=
  let (line, column) := placeAfter input (byteWidth input - f.left) 1 0
  ⟨f.cause, line, column⟩

/-! ## Messages -/

def Found.message : Found → String
  | .null => "null"
  | .bool b => s!"boolean `{String.ofList (boolText b)}`"
  | .number (.int n) => s!"integer `{String.ofList (intText n)}`"
  | .number (.real x) => s!"floating point `{String.ofList (realText x)}`"
  | .string s => "string " ++ escapedString s
  | .sequence => "sequence"
  | .map => "map"

/-- The known names, each between backquotes. -/
def namesMessage : List String → String
  | [] => "there are no variants"
  | [a] => s!"expected `{a}`"
  | [a, b] => s!"expected `{a}` or `{b}`"
  | names => "expected one of " ++ String.intercalate ", " (names.map fun n => s!"`{n}`")

def Cause.message : Cause → String
  | .endInValue => "EOF while parsing a value"
  | .endInObject => "EOF while parsing an object"
  | .endInList => "EOF while parsing a list"
  | .endInString => "EOF while parsing a string"
  | .expectedColon => "expected `:`"
  | .expectedListEnd => "expected `,` or `]`"
  | .expectedObjectEnd => "expected `,` or `\x7d`"
  | .expectedIdent => "expected ident"
  | .expectedValue => "expected value"
  | .keyMustBeString => "key must be a string"
  | .trailingComma => "trailing comma"
  | .trailingCharacters => "trailing characters"
  | .invalidNumber => "invalid number"
  | .numberOutOfRange => "number out of range"
  | .invalidEscape => "invalid escape"
  | .loneSurrogate => "lone leading surrogate in hex escape"
  | .endOfHexEscape => "unexpected end of hex escape"
  | .controlCharacter => "control character (\\u0000-\\u001F) found while parsing a string"
  | .invalidCodePoint => "invalid unicode code point"
  | .tooDeep => "recursion limit exceeded"
  | .wrongType found expected => s!"invalid type: {found.message}, expected {expected}"
  | .wrongValue n expected =>
    s!"invalid value: integer `{String.ofList (intText n)}`, expected {expected}"
  | .wrongLength n expected => s!"invalid length {n}, expected {expected}"
  | .unknownVariant name known => s!"unknown variant `{name}`, " ++ namesMessage known
  | .missingField name => s!"missing field `{name}`"
  | .duplicateField name => s!"duplicate field `{name}`"
  | .badTimestamp fault => fault.message

def ParseError.message (e : ParseError) : String :=
  s!"{e.cause.message} at line {e.line} column {e.column}"

end ApiConsole.Json
