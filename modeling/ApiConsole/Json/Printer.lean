import ApiConsole.Decimal.Shortest
import ApiConsole.Json.Value
import ApiConsole.Text.Quoted

/-!
# JSON text

Two forms of a value: compact, without blanks, and indented, with each member and item on a line of
its own, two spaces for each level. Empty arrays and objects stay closed up. A binary fraction is
written with its shortest digits, positionally from 1e-5 up to 1e16 and with an exponent elsewhere,
and never without a point or an exponent.
-/
namespace ApiConsole.Json

open Decimal Text

/-! ## Numbers -/

/-- Decimal digits of an integer. -/
def intText (n : Int) : List Char :=
  if n < 0 then '-' :: Nat.toDigits 10 n.natAbs else Nat.toDigits 10 n.natAbs

/-- A positive decimal, with the point inside its digits or an exponent behind them. -/
def scientificText (d : Scientific) : List Char :=
  let digits := Nat.toDigits 10 d.digits
  let point : Int := digits.length + d.exponent
  if -5 < point && point ≤ 16 then
    if 0 ≤ d.exponent then digits ++ List.replicate d.exponent.toNat '0' ++ ['.', '0']
    else if 0 < point then digits.take point.toNat ++ '.' :: digits.drop point.toNat
    else '0' :: '.' :: List.replicate (-point).toNat '0' ++ digits
  else
    let mantissa := match digits with
      | first :: second :: rest => first :: '.' :: second :: rest
      | short => short
    let e := point - 1
    mantissa ++ 'e' :: (if e < 0 then '-' else '+') :: Nat.toDigits 10 e.natAbs

/-- A binary fraction. -/
def realText (x : Binary64) : List Char :=
  let magnitude := if x.isZero then ['0', '.', '0'] else scientificText x.shortest
  if x.negative then '-' :: magnitude else magnitude

def Number.text : Number → List Char
  | .int n => intText n
  | .real x => realText x

/-- The text of a value without parts. -/
def boolText (b : Bool) : List Char := (if b then "true" else "false").toList

/-! ## Compact form -/

mutual

/-- The compact form of a value. -/
def Value.compact : Value → List Char
  | .null => "null".toList
  | .bool b => boolText b
  | .number n => n.text
  | .string s => quote s.toList
  | .array items => '[' :: compactItems items ++ [']']
  | .object members => '{' :: compactMembers members ++ ['}']

/-- Items with commas between them. -/
def compactItems : List Value → List Char
  | [] => []
  | [v] => v.compact
  | v :: rest => v.compact ++ ',' :: compactItems rest

/-- Members with commas between them. -/
def compactMembers : List (String × Value) → List Char
  | [] => []
  | [(k, v)] => quote k.toList ++ ':' :: v.compact
  | (k, v) :: rest => quote k.toList ++ ':' :: v.compact ++ ',' :: compactMembers rest

end

/-! ## Indented form -/

/-- A line break and the indentation of a level. -/
def newLine (level : Nat) : List Char := '\n' :: List.replicate (2 * level) ' '

mutual

/-- The indented form of a value at a level. -/
def Value.indented (level : Nat) : Value → List Char
  | .null => "null".toList
  | .bool b => boolText b
  | .number n => n.text
  | .string s => quote s.toList
  | .array items =>
    '[' :: indentedItems (level + 1) items ++ (if items.isEmpty then [] else newLine level) ++ [']']
  | .object members =>
    '{' :: indentedMembers (level + 1) members ++
      (if members.isEmpty then [] else newLine level) ++ ['}']

/-- Items, a line each. -/
def indentedItems (level : Nat) : List Value → List Char
  | [] => []
  | [v] => newLine level ++ v.indented level
  | v :: rest => newLine level ++ v.indented level ++ ',' :: indentedItems level rest

/-- Members, a line each. -/
def indentedMembers (level : Nat) : List (String × Value) → List Char
  | [] => []
  | [(k, v)] => newLine level ++ quote k.toList ++ ':' :: ' ' :: v.indented level
  | (k, v) :: rest =>
    newLine level ++ quote k.toList ++ ':' :: ' ' :: v.indented level ++
      ',' :: indentedMembers level rest

end

/-- The indented form of a value, as a document. -/
def Value.pretty (v : Value) : String := String.ofList (v.indented 0)

/-- The compact form of a value, as a document. -/
def Value.compactString (v : Value) : String := String.ofList v.compact

end ApiConsole.Json
