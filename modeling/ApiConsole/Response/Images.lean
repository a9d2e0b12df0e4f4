import ApiConsole.Json.Value
import ApiConsole.Text.Basic

/-!
# Images in responses

A response names images in its `images` array, or else in `image_url` or `image`. Each name is
turned into a URL that can be shown: an absolute or data URL is one already, base64 text becomes a
data URL, and anything else is a path on the server. What counts as base64 text depends on the rule:
the heuristic one goes by length and alphabet and supposes PNG, the strict one decodes the text and
goes by the first bytes.
-/
namespace ApiConsole

open Json

/-! ## Base64

The standard alphabet with padding. Reading is strict: the padding has to be there, nothing may
follow it, and the bits that it cuts off have to be zero, so each byte string has one written form. -/

namespace Base64

/-- The character of six bits. -/
def letter (n : Nat) : Char :=
  if n < 26 then Char.ofNat (65 + n)
  else if n < 52 then Char.ofNat (71 + n)
  else if n < 62 then Char.ofNat (n - 4)
  else if n = 62 then '+' else '/'

/-- The six bits of a character. -/
def value? (c : Char) : Option Nat :=
  let n := c.toNat
  if 65 ≤ n && n ≤ 90 then some (n - 65)
  else if 97 ≤ n && n ≤ 122 then some (n - 71)
  else if 48 ≤ n && n ≤ 57 then some (n + 4)
  else if c == '+' then some 62
  else if c == '/' then some 63
  else none

/-- The written form of bytes, in groups of three. -/
def encode : List UInt8 → List Char
  | [] => []
  | [a] => [letter (a.toNat / 4), letter (a.toNat % 4 * 16), '=', '=']
  | [a, b] =>
    [letter (a.toNat / 4), letter (a.toNat % 4 * 16 + b.toNat / 16),
      letter (b.toNat % 16 * 4), '=']
  | a :: b :: c :: rest =>
    letter (a.toNat / 4) :: letter (a.toNat % 4 * 16 + b.toNat / 16) ::
      letter (b.toNat % 16 * 4 + c.toNat / 64) :: letter (c.toNat % 64) :: encode rest

/-- The bytes of a written form. -/
def decode? : List Char → Option (List UInt8)
  | [] => some []
  | [a, b, '=', '='] => do
    let x ← value? a
    let y ← value? b
    if y % 16 == 0 then some [UInt8.ofNat (x * 4 + y / 16)] else none
  | [a, b, c, '='] => do
    let x ← value? a
    let y ← value? b
    let z ← value? c
    if z % 4 == 0 then
      some [UInt8.ofNat (x * 4 + y / 16), UInt8.ofNat (y % 16 * 16 + z / 4)]
    else none
  | a :: b :: c :: d :: rest => do
    let x ← value? a
    let y ← value? b
    let z ← value? c
    let w ← value? d
    let tail ← decode? rest
    some (UInt8.ofNat (x * 4 + y / 16) :: UInt8.ofNat (y % 16 * 16 + z / 4) ::
      UInt8.ofNat (z % 4 * 64 + w) :: tail)
  | _ => none

/-- Whether a character may stand in a written form. -/
def isBase64Char (c : Char) : Bool := (value? c).isSome || c == '='

end Base64

/-! ## Images -/

/-- The rule by which text is taken for image data. -/
inductive ImageRule where
  | heuristic
  | strict
  deriving DecidableEq, Repr

namespace Images

/-- The length from which the heuristic rule takes text for image data. -/
def leastDataLength : Nat := 80

/-- Whether a name is a URL of its own. -/
def isAbsolute (name : List Char) : Bool :=
  "http://".toList.isPrefixOf name || "https://".toList.isPrefixOf name ||
    "data:".toList.isPrefixOf name

/-- The URL of a path on the server. -/
def onServer (base : String) (name : List Char) : List Char :=
  let base := Text.dropEndWhile (· == '/') base.toList
  if name.head? == some '/' then base ++ name else base ++ '/' :: name

/-- The image format that bytes begin as. -/
def mediaType? : List UInt8 → Option String
  | 0x89 :: 0x50 :: 0x4E :: 0x47 :: 0x0D :: 0x0A :: 0x1A :: 0x0A :: _ => some "image/png"
  | 0xFF :: 0xD8 :: 0xFF :: _ => some "image/jpeg"
  | 0x47 :: 0x49 :: 0x46 :: 0x38 :: _ => some "image/gif"
  | 0x52 :: 0x49 :: 0x46 :: 0x46 :: _ :: _ :: _ :: _ :: 0x57 :: 0x45 :: 0x42 :: 0x50 :: _ =>
    some "image/webp"
  | _ => none

/-- Whether a name holds nothing but characters of base64. -/
def isBase64Text (name : List Char) : Bool := !name.isEmpty && name.all Base64.isBase64Char

/-- The media type of a name that a rule takes for image data. -/
def dataType? (rule : ImageRule) (name : List Char) : Option String :=
  match rule with
  | .heuristic =>
    if leastDataLength ≤ name.length && isBase64Text name then some "image/png" else none
  | .strict => if isBase64Text name then (Base64.decode? name).bind mediaType? else none

/-- The URL of a name, `none` for the empty name. -/
def resolve (rule : ImageRule) (base name : String) : Option String :=
  let s := name.toList
  if s.isEmpty then none
  else if isAbsolute s then some name
  else match dataType? rule s with
    | some type => some (String.ofList ("data:".toList ++ type.toList ++ ";base64,".toList ++ s))
    | none => some (String.ofList (onServer base s))

/-- The names of images in a response. -/
def names (body : Value) : List String :=
  match (body.get? "images").bind (·.array?) with
  | some items => items.filterMap (·.string?)
  | none =>
    (["image_url", "image"].findSome? fun key => (body.get? key).bind (·.string?)).toList

end Images

/-- The URLs of the images in a response. -/
def imageUrls (rule : ImageRule) (base : String) (body : Value) : List String :=
  (Images.names body).filterMap (Images.resolve rule base)

end ApiConsole
