import ApiConsole.Text.Utf8

/-!
# Encodings in URLs

Percent-encoding and Punycode. Each part of a URL has a set of characters that it cannot hold as they
are. They are written as the bytes of their UTF-8 form, a percent sign and two upper-case hexadecimal
digits for each; every set holds the controls and all characters beyond ASCII. A label of a host with
such characters has an ASCII form of its own.
-/
namespace ApiConsole.Url

/-! ## Percent-encoding -/

/-- A hexadecimal digit in upper case. -/
def upperHexDigit (n : Nat) : Char := (Nat.digitChar n).toUpper

/-- A byte as a percent sign and two digits. -/
def percentByte (b : UInt8) : List Char :=
  ['%', upperHexDigit (b.toNat / 16), upperHexDigit (b.toNat % 16)]

/-- Whether a character is encoded in every part. -/
def isControl (c : Char) : Bool := c.toNat < 0x20 || 0x7F ≤ c.toNat

/-- Encodes the controls and the characters of a set. -/
def percentEncode (set : List Char) (s : List Char) : List Char :=
  s.flatMap fun c =>
    if isControl c || set.contains c then (String.utf8EncodeChar c).flatMap percentByte else [c]

def fragmentSet : List Char := [' ', '"', '<', '>', '`']

def pathSet : List Char := fragmentSet ++ ['#', '?', '\x7b', '\x7d']

def userinfoSet : List Char := pathSet ++ ['/', ':', ';', '=', '@', '[', '\\', ']', '^', '|']

def querySet : List Char := [' ', '"', '#', '<', '>']

/-- The set of a query under the schemes that name a server of a known kind. -/
def specialQuerySet : List Char := '\'' :: querySet

/-- The value of a hexadecimal digit of either case. -/
def hexValue? (c : Char) : Option Nat :=
  if c.isDigit then some (c.toNat - 48)
  else if 'a' ≤ c && c ≤ 'f' then some (c.toNat - 87)
  else if 'A' ≤ c && c ≤ 'F' then some (c.toNat - 55)
  else none

/-- The bytes of a text in which encoded bytes are resolved. -/
def percentDecodeBytes : List Char → List UInt8
  | [] => []
  | '%' :: a :: b :: rest =>
    match hexValue? a, hexValue? b with
    | some x, some y => UInt8.ofNat (x * 16 + y) :: percentDecodeBytes rest
    | _, _ => 0x25 :: percentDecodeBytes (a :: b :: rest)
  | c :: rest => String.utf8EncodeChar c ++ percentDecodeBytes rest

/-- Resolves the encoded bytes of a text; `none` if they are no UTF-8. -/
def percentDecode? (s : List Char) : Option (List Char) :=
  (Text.symbols (percentDecodeBytes s)).mapM (·.char?)

/-! ## Punycode

The ASCII form of a label with characters beyond ASCII: the ASCII characters, a hyphen, and then the
places and distances of the other characters as numbers in base 36. The digits of a number carry
weights that depend on a bias, which is adapted to the size of the numbers seen so far. -/

namespace Punycode

/-- The value of a digit in base 36: letters in lower case come first. -/
def digitValue? (c : Char) : Option Nat :=
  if 'a' ≤ c && c ≤ 'z' then some (c.toNat - 97)
  else if c.isDigit then some (c.toNat - 22) else none

/-- The least digit that is followed by another one, for the digit at place `k`. -/
def threshold (k bias : Nat) : Nat := max 1 (min 26 (k - bias))

/-- Divides a distance until it is small, counting 36 for each division. -/
def shrink (delta : Nat) : Nat × Nat :=
  if 455 < delta then
    let (small, count) := shrink (delta / 35)
    (small, count + 36)
  else (delta, 0)
termination_by delta
decreasing_by exact Nat.div_lt_self (by omega) (by decide)

/-- The bias behind a number, which is the distance to a place among `count`. -/
def adapt (delta count : Nat) (first : Bool) : Nat :=
  let halved := if first then delta / 700 else delta / 2
  let (small, places) := shrink (halved + halved / count)
  places + 36 * small / (small + 38)

/-- Reads a number digit by digit and adds it to `i`; gives what follows. -/
def readNumber (bias : Nat) : Nat → Nat → Nat → List Char → Option (Nat × List Char)
  | _, _, _, [] => none
  | k, weight, i, c :: rest =>
    (digitValue? c).bind fun d =>
      let i := i + d * weight
      let t := threshold k bias
      if d < t then some (i, rest) else readNumber bias (k + 36) (weight * (36 - t)) i rest

/-- Puts the characters of the numbers that are left into a label, in at most `rounds` steps. -/
def insertAll : Nat → Nat → Nat → Nat → List Char → List Char → Option (List Char)
  | _, _, _, _, label, [] => some label
  | 0, _, _, _, _, _ :: _ => none
  | rounds + 1, code, i, bias, label, c :: rest =>
    (readNumber bias 36 1 i (c :: rest)).bind fun (j, rest) =>
      let count := label.length + 1
      let code := code + j / count
      let place := j % count
      if h : code.isValidChar then
        insertAll rounds code (place + 1) (adapt (j - i) count (i == 0))
          (label.take place ++ Char.ofNatAux code h :: label.drop place) rest
      else none

/-- The label of an ASCII form, without the mark in front of it. -/
def decode? (s : List Char) : Option (List Char) :=
  let numbers := (s.reverse.takeWhile (· != '-')).reverse
  let ascii := s.take (s.length - numbers.length - 1)
  if ascii.isEmpty && s.contains '-' then none
  else insertAll s.length 128 0 72 ascii numbers

/-- Whether a label is no ASCII form or the form of a label with characters beyond ASCII. -/
def isLabel (label : List Char) : Bool :=
  match label with
  | 'x' :: 'n' :: '-' :: '-' :: rest =>
    match decode? rest with
    | some s => s.any (0x80 ≤ ·.toNat)
    | none => false
  | _ => true

end Punycode

end ApiConsole.Url
