import ApiConsole.Json.Fault

/-!
# Reading JSON values

The reader of one value at the start of a text. Blanks before a token are space, tab, line feed and
carriage return. Nesting is limited: the depth that remains falls with each array or object that
opens. The loops over digits, characters, items and members carry a bound on the number of their
rounds; the length of the text is always enough, since each round reads something.
-/
namespace ApiConsole.Json

open Decimal Text

/-- The number of arrays and objects that may be open at once. -/
def depthLimit : Nat := 127

/-! ## Blanks and digits -/

def isJsonBlank (x : Symbol) : Bool :=
  x == .char ' ' || x == .char '\t' || x == .char '\n' || x == .char '\r'

/-- The text behind the blanks at its start. -/
def skipBlanks (s : List Symbol) : List Symbol := s.dropWhile isJsonBlank

/-- The value of a decimal digit. -/
def digit? : Symbol → Option Nat
  | .char c => if c.isDigit then some (c.toNat - 48) else none
  | .stray _ => none

/-- The digits at the start of a text, and what follows them. -/
def spanDigits : List Symbol → List Nat × List Symbol
  | [] => ([], [])
  | x :: rest =>
    match digit? x with
    | some d => let (ds, tail) := spanDigits rest; (d :: ds, tail)
    | none => ([], x :: rest)

/-- The value of a hexadecimal digit of either case. -/
def hexDigit? : Symbol → Option Nat
  | .char c =>
    if c.isDigit then some (c.toNat - 48)
    else if 'a' ≤ c && c ≤ 'f' then some (c.toNat - 87)
    else if 'A' ≤ c && c ≤ 'F' then some (c.toNat - 55)
    else none
  | .stray _ => none

/-! ## Words -/

/-- Reads the rest of a word. -/
def word : List Char → List Symbol → Except Fault (List Symbol)
  | [], s => .ok s
  | _ :: _, [] => Fault.before .endInValue []
  | c :: cs, x :: rest =>
    if x == .char c then word cs rest else Fault.onNext .expectedIdent (x :: rest)

/-! ## Numbers -/

/-- The largest unsigned integer of 64 bits. -/
def greatestWord : Nat := UInt64.size - 1

/-- Appends digits to a significand as long as it stays a 64-bit integer; gives the digits that do
not fit. -/
def appendDigits : Nat → List Nat → Nat × List Nat
  | m, [] => (m, [])
  | m, d :: ds => if m * 10 + d ≤ greatestWord then appendDigits (m * 10 + d) ds else (m, d :: ds)

/-- The quotient by a power of ten, in steps that a power of ten in range can make. -/
def divideByPower : Nat → Nat → Binary64 → Option Binary64
  | 0, k, x => x.div? (powerOfTen k)
  | steps + 1, k, x =>
    if k ≤ 308 then x.div? (powerOfTen k)
    else if x.isZero then some x
    else (x.div? (powerOfTen 308)).bind (divideByPower steps (k - 308))

/-- `significand · 10 ^ exponent`, as the significand times or divided by the power of ten. -/
def scaled (significand : Nat) (exponent : Int) : Option Binary64 :=
  (Binary64.ofNat? significand).bind fun x =>
    if 0 ≤ exponent then
      if exponent ≤ 308 then x.mul? (powerOfTen exponent.toNat)
      else if x.isZero then some x else none
    else divideByPower exponent.natAbs exponent.natAbs x

/-- The number with a sign, or the fault that it is too large. -/
def signedReal (negative : Bool) (x : Option Binary64) (rest : List Symbol) :
    Except Fault (Number × List Symbol) :=
  match x with
  | some x => .ok (.real (if negative then x.neg else x), rest)
  | none => Fault.before .numberOutOfRange rest

/-- The value of exponent digits; `none` with the text behind the digit at which it leaves the
32-bit integers. -/
def exponentValue : Nat → List Symbol → Option Nat × List Symbol
  | e, [] => (some e, [])
  | e, x :: rest =>
    match digit? x with
    | some d =>
      if e * 10 + d ≤ 2147483647 then exponentValue (e * 10 + d) rest else (none, rest)
    | none => (some e, x :: rest)

/-- Reads the exponent behind its letter. -/
def readExponent (negative : Bool) (significand : Nat) (start : Int) : Reader Number := fun s =>
  let (down, s) := match s with
    | .char '+' :: rest => (false, rest)
    | .char '-' :: rest => (true, rest)
    | s => (false, s)
  match s with
  | [] => Fault.before .endInValue []
  | x :: rest =>
    match digit? x with
    | none => Fault.onNext .invalidNumber (x :: rest)
    | some d =>
      match exponentValue d rest with
      | (some e, rest) =>
        signedReal negative (scaled significand (if down then start - e else start + e)) rest
      | (none, rest) =>
        if significand != 0 && !down then Fault.before .numberOutOfRange rest
        else .ok (.real (.zero negative), (spanDigits rest).2)

/-- Reads an exponent if its letter comes next. -/
def readScale (negative : Bool) (significand : Nat) (exponent : Int) : Reader Number
  | .char 'e' :: rest => readExponent negative significand exponent rest
  | .char 'E' :: rest => readExponent negative significand exponent rest
  | s => signedReal negative (scaled significand exponent) s

/-- Reads the digits behind the point. Digits that do not fit the significand are dropped. -/
def readFraction (negative : Bool) (significand : Nat) (exponent : Int) : Reader Number := fun s =>
  let (digits, rest) := spanDigits s
  if digits.isEmpty then
    if rest.isEmpty then Fault.onNext .endInValue rest else Fault.onNext .invalidNumber rest
  else
    let (m, dropped) := appendDigits significand digits
    readScale negative m (exponent - (digits.length - dropped.length : Nat)) rest

/-- The number of an integer text: an integer of 64 bits if it is one, and not a negative zero. -/
def integerNumber (negative : Bool) (m : Nat) : Number :=
  if !negative then .int m
  else if 0 < m && m ≤ UInt64.size / 2 then .int (-(m : Int))
  else .real (((Binary64.ofNat? m).getD (.zero false)).neg)

/-- Reads what follows the integer digits. Each digit that did not fit raises the exponent. -/
def readTail (negative : Bool) (m dropped : Nat) : Reader Number
  | .char '.' :: rest => readFraction negative m dropped rest
  | s =>
    match s, dropped with
    | .char 'e' :: _, _ => readScale negative m dropped s
    | .char 'E' :: _, _ => readScale negative m dropped s
    | _, 0 => .ok (integerNumber negative m, s)
    | _, _ + 1 => signedReal negative (scaled m dropped) s

/-- Reads a number behind its sign. -/
def number (negative : Bool) : Reader Number
  | [] => Fault.before .endInValue []
  | x :: rest =>
    match digit? x with
    | none => Fault.onNext .invalidNumber (x :: rest)
    | some 0 =>
      match rest with
      | [] => readTail negative 0 0 []
      | y :: rest =>
        if (digit? y).isSome then Fault.onNext .invalidNumber (y :: rest)
        else readTail negative 0 0 (y :: rest)
    | some (d + 1) =>
      let (digits, tail) := spanDigits rest
      let (m, dropped) := appendDigits (d + 1) digits
      readTail negative m dropped.length tail

/-! ## Strings -/

/-- Reads four hexadecimal digits. -/
def hexFour : Reader Nat := fun s =>
  match s with
  | a :: b :: c :: d :: rest =>
    match hexDigit? a, hexDigit? b, hexDigit? c, hexDigit? d with
    | some a, some b, some c, some d => .ok (a * 4096 + b * 256 + c * 16 + d, rest)
    | _, _, _, _ => short s
  | _ => short s
where
  /-- The fault of digits that are missing or none: four bytes are passed over if there are that
  many. -/
  short (s : List Symbol) : Except Fault (Nat × List Symbol) :=
    if byteWidth s < 4 then .error ⟨.endInString, 0⟩ else .error ⟨.invalidEscape, byteWidth s - 4⟩

/-- Reads the second half of a pair of surrogates. -/
def lowSurrogate (high : Nat) : Reader Char
  | [] => Fault.before .endInString []
  | .char '\\' :: rest =>
    match rest with
    | [] => Fault.before .endInString []
    | .char 'u' :: rest =>
      match hexFour rest with
      | .error f => .error f
      | .ok (low, rest) =>
        if low < 0xDC00 || 0xDFFF < low then Fault.before .loneSurrogate rest
        else .ok (Char.ofNat (0x10000 + (high - 0xD800) * 0x400 + (low - 0xDC00)), rest)
    | rest => Fault.onNext .endOfHexEscape rest
  | s => Fault.onNext .endOfHexEscape s

/-- Reads an escape by code units. -/
def unicodeEscape : Reader Char := fun s =>
  match hexFour s with
  | .error f => .error f
  | .ok (n, rest) =>
    if 0xDC00 ≤ n && n ≤ 0xDFFF then Fault.before .loneSurrogate rest
    else if 0xD800 ≤ n && n ≤ 0xDBFF then lowSurrogate n rest
    else .ok (Char.ofNat n, rest)

/-- The character of an escape of one letter. -/
def simpleEscape? : Symbol → Option Char
  | .char '"' => some '"'
  | .char '\\' => some '\\'
  | .char '/' => some '/'
  | .char 'b' => some '\x08'
  | .char 'f' => some '\x0c'
  | .char 'n' => some '\n'
  | .char 'r' => some '\r'
  | .char 't' => some '\t'
  | _ => none

/-- Reads an escape behind its backslash. -/
def escape : Reader Char
  | [] => Fault.before .endInString []
  | .char 'u' :: rest => unicodeEscape rest
  | x :: rest =>
    match simpleEscape? x with
    | some c => .ok (c, rest)
    | none => Fault.onNext .invalidEscape (x :: rest)

/-- Reads the characters of a string up to its closing quotation mark, in at most `rounds` steps.
`stray` is the fault of the first byte so far that is no character; it counts at the end of the
string. -/
def stringChars : Nat → Option Fault → List Char → Reader String
  | 0, _, _, s => Fault.before .endInString s
  | _ + 1, _, _, [] => Fault.before .endInString []
  | _ + 1, stray, acc, .char '"' :: rest =>
    match stray with
    | some f => .error f
    | none => .ok (String.ofList acc.reverse, rest)
  | rounds + 1, stray, acc, .char '\\' :: rest =>
    match escape rest with
    | .error f => .error f
    | .ok (c, rest) => stringChars rounds stray (c :: acc) rest
  | rounds + 1, stray, acc, .char c :: rest =>
    if c.toNat < 0x20 then Fault.before .controlCharacter rest
    else stringChars rounds stray (c :: acc) rest
  | rounds + 1, stray, acc, .stray _ :: rest =>
    stringChars rounds (stray.or (some ⟨.invalidCodePoint, byteWidth rest⟩)) acc rest

/-- Reads a string behind its opening quotation mark. -/
def string (rounds : Nat) : Reader String := stringChars rounds none []

/-! ## Arrays and objects -/

/-- Reads the items of a list that are left, up to its end. -/
def itemsAfter {α : Type} (item : Reader α) : Nat → List α → Reader (List α)
  | 0, _, s => Fault.before .endInList s
  | rounds + 1, acc, s =>
    match skipBlanks s with
    | [] => Fault.onNext .endInList []
    | .char ']' :: rest => .ok (acc.reverse, rest)
    | .char ',' :: rest =>
      match skipBlanks rest with
      | [] => Fault.onNext .endInValue []
      | .char ']' :: rest => Fault.onNext .trailingComma (.char ']' :: rest)
      | rest =>
        match item rest with
        | .error f => .error f
        | .ok (v, rest) => itemsAfter item rounds (v :: acc) rest
    | rest => Fault.onNext .expectedListEnd rest

/-- Reads the items of a list behind its opening bracket. -/
def items {α : Type} (rounds : Nat) (item : Reader α) : Reader (List α) := fun s =>
  match skipBlanks s with
  | [] => Fault.onNext .endInList []
  | .char ']' :: rest => .ok ([], rest)
  | rest =>
    match item rest with
    | .error f => .error f
    | .ok (v, rest) => itemsAfter item rounds [v] rest

/-- Reads a colon. -/
def colon (s : List Symbol) : Except Fault (List Symbol) :=
  match skipBlanks s with
  | [] => Fault.onNext .endInObject []
  | .char ':' :: rest => .ok rest
  | rest => Fault.onNext .expectedColon rest

/-- Where the next key of an object begins: behind its opening quotation mark, or, when the object
ends first, behind the closing brace. -/
inductive NextKey where
  | key (rest : List Symbol)
  | done (rest : List Symbol)

/-- Looks for the next key of an object; `first` tells that no member came before. -/
def nextKey (first : Bool) (s : List Symbol) : Except Fault NextKey :=
  match skipBlanks s with
  | [] => Fault.onNext .endInObject []
  | .char '\x7d' :: rest => .ok (.done rest)
  | x :: rest =>
    if first then keyStart (x :: rest)
    else if x == .char ',' then
      match skipBlanks rest with
      | .char '\x7d' :: rest => Fault.onNext .trailingComma (.char '\x7d' :: rest)
      | rest => keyStart rest
    else Fault.onNext .expectedObjectEnd (x :: rest)
where
  /-- A key begins with a quotation mark. -/
  keyStart : List Symbol → Except Fault NextKey
    | [] => Fault.onNext .endInValue []
    | .char '"' :: rest => .ok (.key rest)
    | rest => Fault.onNext .keyMustBeString rest

/-- Reads the members of an object up to its end, each key once, in the order of the keys. -/
def membersAfter (total : Nat) (item : Reader Value) :
    Nat → Bool → List (String × Value) → Reader (List (String × Value))
  | 0, _, _, s => Fault.before .endInObject s
  | rounds + 1, first, acc, s =>
    match nextKey first s with
    | .error f => .error f
    | .ok (.done rest) => .ok (acc, rest)
    | .ok (.key rest) =>
      match string total rest with
      | .error f => .error f
      | .ok (key, rest) =>
        match colon rest with
        | .error f => .error f
        | .ok rest =>
          match item rest with
          | .error f => .error f
          | .ok (v, rest) =>
            membersAfter total item rounds false (Value.insertMember key v acc) rest

/-! ## Values -/

/-- Gives a read result the shape of a value. -/
def asValue {α : Type} (f : α → Value) (r : Except Fault (α × List Symbol)) :
    Except Fault (Value × List Symbol) :=
  r.map fun (a, rest) => (f a, rest)

/-- Reads a value at the very start of a text; `nested` reads the parts of an array or object, and
is absent where nothing may be nested any more. -/
def valueHere (total : Nat) (nested : Option (Reader Value)) : Reader Value
  | [] => Fault.onNext .endInValue []
  | .char 'n' :: rest => (word "ull".toList rest).map fun rest => (.null, rest)
  | .char 't' :: rest => (word "rue".toList rest).map fun rest => (.bool true, rest)
  | .char 'f' :: rest => (word "alse".toList rest).map fun rest => (.bool false, rest)
  | .char '-' :: rest => asValue .number (number true rest)
  | .char '"' :: rest => asValue .string (string total rest)
  | .char '[' :: rest =>
    match nested with
    | none => Fault.onNext .tooDeep (.char '[' :: rest)
    | some item => asValue .array (items total item rest)
  | .char '\x7b' :: rest =>
    match nested with
    | none => Fault.onNext .tooDeep (.char '\x7b' :: rest)
    | some item => asValue .object (membersAfter total item total true [] rest)
  | x :: rest =>
    if (digit? x).isSome then asValue .number (number false (x :: rest))
    else Fault.onNext .expectedValue (x :: rest)

/-- Reads a value in which `depth` arrays and objects may be open at once. -/
def value (total : Nat) : Nat → Reader Value
  | 0, s => valueHere total none (skipBlanks s)
  | depth + 1, s => valueHere total (some (value total depth)) (skipBlanks s)

/-! ## Documents -/

/-- Reads a whole text: one thing and blanks around it. -/
def document {α : Type} (read : Nat → Reader α) (input : List Symbol) : Except ParseError α :=
  let result := do
    let (a, rest) ← read (input.length + 1) input
    match skipBlanks rest with
    | [] => pure a
    | rest => Fault.onNext .trailingCharacters rest
  result.mapError (Fault.locate input)

/-- The value of a text. -/
def parse (text : String) : Except ParseError Value :=
  document (fun total => value total depthLimit) (symbolsOf text.toList)

/-- The value of a text, if it is JSON. -/
def parse? (text : String) : Option Value := (parse text).toOption

end ApiConsole.Json
