import ApiConsole.Text.Basic
import ApiConsole.Url.Encoding

/-!
# Hosts of URLs

A host is a name or an address. Under the schemes that name a server of a known kind, a host whose
last label is a number must be an IPv4 address in one to four parts, each decimal, octal or
hexadecimal; other hosts are domain names, ASCII letters in lower case and characters beyond ASCII
as they are. Brackets hold IPv6 addresses. Under other schemes a host is any text without
delimiters.
-/
namespace ApiConsole.Url

/-- Why a text is no URL. -/
inductive Fault where
  | relative
  | emptyHost
  | invalidPort
  | invalidIpv4
  | invalidIpv6
  | invalidDomain
  | invalidDomainCharacter
  deriving DecidableEq, Repr

def Fault.message : Fault → String
  | .relative => "relative URL without a base"
  | .emptyHost => "empty host"
  | .invalidPort => "invalid port number"
  | .invalidIpv4 => "invalid IPv4 address"
  | .invalidIpv6 => "invalid IPv6 address"
  | .invalidDomain => "invalid international domain name"
  | .invalidDomainCharacter => "invalid domain character"

/-- A host name (possibly empty), the 32 bits of an IPv4 address, or the eight pieces of an IPv6
address. -/
inductive Host where
  | name (text : String)
  | ipv4 (address : Nat)
  | ipv6 (pieces : List Nat)
  deriving DecidableEq, Repr

/-! ## IPv4 -/

/-- Splits a text at each occurrence of a character. -/
def splitAll (separator : Char) : List Char → List (List Char)
  | [] => [[]]
  | c :: rest =>
    match splitAll separator rest with
    | [] => [[c]]
    | part :: parts => if c == separator then [] :: part :: parts else (c :: part) :: parts

/-- Reads digits in a base. -/
def digitsValue? (base : Nat) (s : List Char) : Option Nat :=
  s.foldl (fun acc c =>
    acc.bind fun n => (hexValue? c).bind fun d => if d < base then some (n * base + d) else none)
    (some 0)

/-- Reads a part of an IPv4 address: hexadecimal behind `0x`, octal behind `0`, else decimal. -/
def ipv4Number? : List Char → Option Nat
  | [] => none
  | '0' :: 'x' :: digits => digitsValue? 16 digits
  | '0' :: 'X' :: digits => digitsValue? 16 digits
  | '0' :: d :: digits => digitsValue? 8 (d :: digits)
  | digits => digitsValue? 10 digits

/-- The labels of a host name without an empty one at the end. -/
def labels (s : List Char) : List (List Char) :=
  let parts := splitAll '.' s
  if parts.getLast? == some [] then parts.dropLast else parts

/-- Whether the last label is a number, so that the host has to be an IPv4 address. -/
def endsInNumber (s : List Char) : Bool :=
  match (labels s).getLast? with
  | none => false
  | some label => (!label.isEmpty && label.all Char.isDigit) || (ipv4Number? label).isSome

/-- The address of numbers of which the last one fills all bytes that are left. -/
def ipv4Address? (numbers : List Nat) : Option Nat :=
  match numbers.reverse with
  | [] => none
  | last :: others =>
    let front := others.reverse
    if 4 < numbers.length || front.any (255 < ·) || 1 <<< (8 * (4 - front.length)) ≤ last then none
    else some (front.zipIdx.foldl (fun address (n, i) => address + n <<< (8 * (3 - i))) last)

/-- Reads an IPv4 address. -/
def ipv4? (s : List Char) : Option Nat :=
  ((labels s).mapM ipv4Number?).bind ipv4Address?

/-- Four decimal numbers with points between them. -/
def ipv4Text (address : Nat) : String :=
  String.intercalate "." ((List.range 4).map fun i => toString (address >>> (8 * (3 - i)) % 256))

/-! ## IPv6 -/

/-- What is known of an IPv6 address while it is read: the pieces so far, and how many of them came
before the gap. -/
structure Ipv6Progress where
  pieces : List Nat
  gap : Option Nat

/-- The hexadecimal digits at the start, at most four. -/
def hexPiece (s : List Char) : List Char := (s.take 4).takeWhile fun c => (hexValue? c).isSome

/-- Reads one decimal byte without leading zeros, and gives what follows. -/
def decimalByte? (s : List Char) : Option (Nat × List Char) :=
  let digits := s.takeWhile Char.isDigit
  match digits, digitsValue? 10 digits with
  | [], _ => none
  | _, none => none
  | d :: more, some n => if (d == '0' && !more.isEmpty) || 255 < n then none
      else some (n, s.dropWhile Char.isDigit)

/-- Reads the four decimal bytes that may end an IPv6 address, as two pieces. -/
def ipv6Tail? (s : List Char) : Option (List Nat) := do
  let (a, s) ← decimalByte? s
  let (b, s) ← point s
  let (c, s) ← point s
  let (d, s) ← point s
  if s.isEmpty then some [a * 256 + b, c * 256 + d] else none
where
  /-- A byte behind a point. -/
  point : List Char → Option (Nat × List Char)
    | '.' :: rest => decimalByte? rest
    | _ => none

/-- Reads the pieces that are left, in at most `rounds` steps. -/
def ipv6Pieces? : Nat → Ipv6Progress → List Char → Option Ipv6Progress
  | 0, _, _ => none
  | _ + 1, p, [] => some p
  | rounds + 1, p, c :: rest =>
    if 8 ≤ p.pieces.length + (if p.gap.isSome then 1 else 0) then none
    else if c == ':' then
      if p.gap.isSome then none
      else ipv6Pieces? rounds { p with gap := some p.pieces.length } rest
    else
      let s := c :: rest
      let digits := hexPiece s
      let value := (digitsValue? 16 digits).getD 0
      match s.drop digits.length with
      | [] => some { p with pieces := p.pieces ++ [value] }
      | '.' :: _ =>
        if digits.isEmpty || 6 < p.pieces.length + (if p.gap.isSome then 1 else 0) then none
        else (ipv6Tail? s).map fun tail => { p with pieces := p.pieces ++ tail }
      | ':' :: [] => none
      | ':' :: more => ipv6Pieces? rounds { p with pieces := p.pieces ++ [value] } more
      | _ => none

/-- Puts zeros into the gap; without a gap there have to be eight pieces. -/
def Ipv6Progress.finish? (p : Ipv6Progress) : Option (List Nat) :=
  match p.gap with
  | none => if p.pieces.length == 8 then some p.pieces else none
  | some place =>
    if 8 ≤ p.pieces.length then none
    else some (p.pieces.take place ++ List.replicate (8 - p.pieces.length) 0 ++ p.pieces.drop place)

/-- Reads an IPv6 address. -/
def ipv6? (s : List Char) : Option (List Nat) :=
  match s with
  | ':' :: ':' :: rest => (ipv6Pieces? (s.length + 1) ⟨[], some 0⟩ rest).bind (·.finish?)
  | ':' :: _ => none
  | [] => none
  | [_] => none
  | _ => (ipv6Pieces? (s.length + 1) ⟨[], none⟩ s).bind (·.finish?)

/-- The first longest run of at least two zeros: its start and its length. -/
def zeroRun (pieces : List Nat) : Option (Nat × Nat) :=
  let runs := (List.range 8).map fun i => (i, ((pieces.drop i).takeWhile (· == 0)).length)
  let best := runs.foldl (fun acc r => if acc.2 < r.2 then r else acc) (0, 0)
  if 2 ≤ best.2 then some best else none

/-- The pieces in hexadecimal, the first longest run of zeros left out. -/
def ipv6Text (pieces : List Nat) : String :=
  let text (ps : List Nat) : String :=
    String.intercalate ":" (ps.map fun p => String.ofList (Nat.toDigits 16 p))
  match zeroRun pieces with
  | none => text pieces
  | some (start, length) => text (pieces.take start) ++ "::" ++ text (pieces.drop (start + length))

/-! ## Hosts -/

/-- Whether a character may not stand in a domain name. -/
def isForbiddenInDomain (c : Char) : Bool :=
  c.toNat ≤ 0x20 || c == '\x7f' || Text.isBlank c ||
    ['%', '#', '/', ':', '<', '>', '?', '@', '[', '\\', ']', '^', '|'].contains c

/-- Whether a character may not stand in the host of a scheme of unknown kind. -/
def isForbiddenInHost (c : Char) : Bool :=
  ['\x00', '\t', '\n', '\r', ' ', '#', '/', ':', '<', '>', '?', '@', '[', '\\', ']', '^',
    '|'].contains c

/-- Reads an address in brackets. -/
def bracketed (inner : List Char) : Except Fault Host :=
  match inner.getLast? with
  | some ']' =>
    match ipv6? inner.dropLast with
    | some pieces => .ok (.ipv6 pieces)
    | none => .error .invalidIpv6
  | _ => .error .invalidIpv6

/-- Reads the host of a server of a known kind. -/
def domainHost (s : List Char) : Except Fault Host :=
  match s with
  | '[' :: inner => bracketed inner
  | _ =>
    match percentDecode? s with
    | none => .error .invalidDomain
    | some decoded =>
      if decoded.any isForbiddenInDomain then .error .invalidDomain
      else
        let domain := decoded.map Char.toLower
        if domain.isEmpty then .error .emptyHost
        else if !(splitAll '.' domain).all Punycode.isLabel then .error .invalidDomain
        else if endsInNumber domain then
          match ipv4? domain with
          | some address => .ok (.ipv4 address)
          | none => .error .invalidIpv4
        else .ok (.name (String.ofList domain))

/-- Reads the host under any other scheme. -/
def plainHost (s : List Char) : Except Fault Host :=
  match s with
  | '[' :: inner => bracketed inner
  | _ =>
    if s.any isForbiddenInHost then .error .invalidDomainCharacter
    else .ok (.name (String.ofList (percentEncode [] s)))

def Host.text : Host → String
  | .name s => s
  | .ipv4 address => ipv4Text address
  | .ipv6 pieces => "[" ++ ipv6Text pieces ++ "]"

end ApiConsole.Url
