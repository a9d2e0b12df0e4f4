import ApiConsole.Text.Basic

/-!
# Timestamps

Points in time in Coordinated Universal Time, as the date and the time of day that a calendar and a
clock show. They are counted in nanoseconds from the start of 1970, written in the form of RFC 3339
with as many groups of three decimals as are needed, and read back in that form, with blanks between
the parts and any offset.
-/
namespace ApiConsole

/-- A calendar date and a time of day. A second may have the number 60. -/
structure Timestamp where
  year : Int
  month : Nat
  day : Nat
  hour : Nat
  minute : Nat
  second : Nat
  nanos : Nat
  deriving DecidableEq, Repr

namespace Timestamp

/-! ## Calendar -/

def isLeapYear (year : Int) : Bool :=
  year % 4 == 0 && (year % 100 != 0 || year % 400 == 0)

def daysInMonth (year : Int) (month : Nat) : Nat :=
  if month == 2 then (if isLeapYear year then 29 else 28)
  else if month == 4 || month == 6 || month == 9 || month == 11 then 30 else 31

/-- The number of days from the start of 1970 to a date, in years that begin in March. -/
def dayNumber (year : Int) (month day : Nat) : Int :=
  let y := if month ≤ 2 then year - 1 else year
  let m : Int := if month ≤ 2 then month + 9 else month - 3
  365 * y + y / 4 - y / 100 + y / 400 + (153 * m + 2) / 5 + day - 1 - 719468

/-- The year, month and day of a day number. -/
def dateOfDay (n : Int) : Int × Nat × Nat :=
  let z := n + 719468
  let era := z / 146097
  let inEra := z % 146097
  let yearOfEra := (inEra - inEra / 1460 + inEra / 36524 - inEra / 146096) / 365
  let inYear := inEra - (365 * yearOfEra + yearOfEra / 4 - yearOfEra / 100)
  let m := (5 * inYear + 2) / 153
  let day := inYear - (153 * m + 2) / 5 + 1
  let month := if m < 10 then m + 3 else m - 9
  (yearOfEra + era * 400 + (if month ≤ 2 then 1 else 0), month.toNat, day.toNat)

/-! ## Counting -/

/-- Nanoseconds since the start of 1970. -/
def sinceEpoch (t : Timestamp) : Int :=
  let minutes := (dayNumber t.year t.month t.day * 24 + t.hour) * 60 + t.minute
  (minutes * 60 + t.second) * 1000000000 + t.nanos

/-- The timestamp of a number of nanoseconds since the start of 1970. -/
def ofEpoch (n : Int) : Timestamp :=
  let seconds := n / 1000000000
  let (year, month, day) := dateOfDay (seconds / 86400)
  let inDay := (seconds % 86400).toNat
  ⟨year, month, day, inDay / 3600, inDay / 60 % 60, inDay % 60, (n % 1000000000).toNat⟩

def ofMillis (ms : Int) : Timestamp := ofEpoch (ms * 1000000)

/-- The timestamp a number of minutes later; seconds are left alone. -/
def addMinutes (t : Timestamp) (minutes : Int) : Timestamp :=
  let total := (dayNumber t.year t.month t.day * 24 + t.hour) * 60 + t.minute + minutes
  let (year, month, day) := dateOfDay (total / 1440)
  let inDay := (total % 1440).toNat
  { t with year := year, month := month, day := day, hour := inDay / 60, minute := inDay % 60 }

/-! ## Writing -/

/-- Decimal digits, filled with zeros on the left up to a width. -/
def digits (width n : Nat) : List Char :=
  let ds := Nat.toDigits 10 n
  List.replicate (width - ds.length) '0' ++ ds

/-- A year in four digits; with a sign outside the years 0 to 9999. -/
def yearText (year : Int) : List Char :=
  if 0 ≤ year && year ≤ 9999 then digits 4 year.toNat
  else (if year < 0 then '-' else '+') :: digits 4 year.natAbs

def dateText (t : Timestamp) : List Char :=
  yearText t.year ++ '-' :: digits 2 t.month ++ '-' :: digits 2 t.day

/-- Date and time of day, down to the second. -/
def secondText (t : Timestamp) : List Char :=
  t.dateText ++ 'T' :: digits 2 t.hour ++ ':' :: digits 2 t.minute ++ ':' :: digits 2 t.second

/-- The point and the decimals of a second, in the fewest groups of three. -/
def fractionText (nanos : Nat) : List Char :=
  if nanos == 0 then []
  else if nanos % 1000000 == 0 then '.' :: digits 3 (nanos / 1000000)
  else if nanos % 1000 == 0 then '.' :: digits 6 (nanos / 1000)
  else '.' :: digits 9 nanos

/-- The form of RFC 3339. -/
def text (t : Timestamp) : String :=
  String.ofList (t.secondText ++ fractionText t.nanos ++ ['Z'])

/-- The form of RFC 3339 with three decimals, what lies below them being dropped. -/
def milliText (t : Timestamp) : String :=
  String.ofList (t.secondText ++ '.' :: digits 3 (t.nanos / 1000000) ++ ['Z'])

/-- How long ago a timestamp was: in minutes or hours, or its date from a day on. -/
def ago (t now : Timestamp) : String :=
  let seconds := Int.tdiv (now.sinceEpoch - t.sinceEpoch) 1000000000
  if seconds < 60 then "just now"
  else if seconds < 3600 then s!"{seconds / 60}m ago"
  else if seconds < 86400 then s!"{seconds / 3600}h ago"
  else String.ofList t.dateText

/-! ## Reading -/

/-- Why a text is no timestamp. -/
inductive Fault where
  | outOfRange
  | impossible
  | invalid
  | tooShort
  | tooLong
  deriving DecidableEq, Repr

def Fault.message : Fault → String
  | .outOfRange => "input is out of range"
  | .impossible => "no possible date and time matching input"
  | .invalid => "input contains invalid characters"
  | .tooShort => "premature end of input"
  | .tooLong => "trailing input"

/-- Reads something at the start of a text and gives what is left of it. -/
abbrev Reader (α : Type) := List Char → Except Fault (α × List Char)

def digitValue (c : Char) : Nat := c.toNat - 48

/-- Reads a number of at most `width` digits, and at least one. -/
def number (width : Nat) : Reader Nat := fun s =>
  let ds := (s.take width).takeWhile Char.isDigit
  match s with
  | [] => .error .tooShort
  | _ :: _ =>
    if ds.isEmpty then .error .invalid
    else .ok (ds.foldl (fun n c => n * 10 + digitValue c) 0, s.drop ds.length)

/-- Reads a number that has to lie between two bounds, behind blanks. -/
def boundedNumber (low high : Nat) : Reader Nat := fun s => do
  let (n, rest) ← number 2 (Text.trimStart s)
  if low ≤ n && n ≤ high then pure (n, rest) else throw .outOfRange

/-- Reads a year: four digits at most, or a sign and any number of digits. -/
def readYear : Reader Int := fun s => do
  let (n, rest) ← match Text.trimStart s with
    | '-' :: rest => (number rest.length rest).map fun (n, rest) => (-(n : Int), rest)
    | '+' :: rest => (number rest.length rest).map fun (n, rest) => ((n : Int), rest)
    | rest => (number 4 rest).map fun (n, rest) => ((n : Int), rest)
  if n < -2147483648 || 2147483647 < n then throw .outOfRange
  pure (n, rest)

/-- Reads a mark, behind blanks. -/
def mark (c : Char) (s : List Char) : Except Fault (List Char) :=
  match Text.trimStart s with
  | [] => .error .tooShort
  | x :: rest => if x == c then .ok rest else .error .invalid

/-- Reads the decimals of a second, if there is a point. Decimals behind the ninth are dropped. -/
def readFraction : Reader Nat := fun s =>
  match s with
  | '.' :: rest => do
    let (n, tail) ← number 9 rest
    pure (n * Nat.pow 10 (9 - (rest.length - tail.length)), tail.dropWhile Char.isDigit)
  | _ => .ok (0, s)

/-- Reads two digits of which the first is below a bound. -/
def twoDigits : Reader Nat := fun s =>
  match s with
  | a :: b :: rest =>
    if a.isDigit && b.isDigit then .ok (digitValue a * 10 + digitValue b, rest)
    else .error .invalid
  | [a] => if a.utf8Size < 2 then .error .tooShort else .error .invalid
  | [] => .error .tooShort

/-- Reads an offset from Coordinated Universal Time, in minutes. -/
def readOffset : Reader Int := fun s =>
  match s with
  | [] => .error .tooShort
  | c :: rest =>
    if c == 'Z' || c == 'z' then .ok (0, rest)
    else if c == '+' || c == '-' || c == '−' then do
      let (hours, rest) ← twoDigits rest
      let (minutes, rest) ← twoDigits (rest.dropWhile fun c => c == ':' || Text.isBlank c)
      if 59 < minutes then throw .outOfRange
      let offset : Int := hours * 60 + minutes
      pure (if c == '+' then offset else -offset, rest)
    else .error .invalid

/-- Reads the letters `UTC` or an offset, behind blanks. -/
def readZone : Reader Int := fun s =>
  match Text.trimStart s with
  | a :: b :: c :: rest =>
    if [a, b, c].map Char.toUpper == ['U', 'T', 'C'] then .ok (0, rest)
    else readOffset (a :: b :: c :: rest)
  | rest => readOffset rest

/-- Reads the mark between the date and the time of day. -/
def timeMark (s : List Char) : Except Fault (List Char) :=
  match s with
  | [] => .error .tooShort
  | c :: rest => if c == 't' || c == 'T' || c == ' ' then .ok rest else .error .invalid

/-- Whether the year lies within the calendar and the month has the day. -/
def dateExists (year : Int) (month day : Nat) : Bool :=
  -262143 ≤ year && year ≤ 262142 && day ≤ daysInMonth year month

/-- Reads a timestamp in the form of RFC 3339. -/
def parse (s : String) : Except Fault Timestamp := do
  let (year, s) ← readYear s.toList
  let (month, s) ← boundedNumber 1 12 (← mark '-' s)
  let (day, s) ← boundedNumber 1 31 (← mark '-' s)
  let (hour, s) ← boundedNumber 0 23 (← timeMark s)
  let (minute, s) ← boundedNumber 0 59 (← mark ':' s)
  let (second, s) ← boundedNumber 0 60 (← mark ':' s)
  let (nanos, s) ← readFraction s
  let (offset, s) ← readZone s
  if !Text.allBlank s then throw .tooLong
  if !dateExists year month day || offset.natAbs ≥ 1440 then throw .outOfRange
  let t : Timestamp := ⟨year, month, day, hour, minute, second, nanos⟩
  if offset == 0 then pure t
  else
    let shifted := t.addMinutes (-offset)
    if dateExists shifted.year shifted.month shifted.day then pure shifted else throw .impossible

end Timestamp

end ApiConsole
