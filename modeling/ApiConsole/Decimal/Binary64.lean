/-!
# Binary fractions of 53 digits

The finite numbers of the 64-bit binary format, as sign, significand and exponent, with rounding
to nearest (ties to the even significand). The operations work on exact ratios of natural numbers;
a result beyond the largest number is `none`.
-/
namespace ApiConsole.Decimal

/-- The number `± significand · 2 ^ exponent`. The significand has 53 binary digits unless the
exponent is the least one. -/
structure Binary64 where
  negative : Bool
  significand : Nat
  exponent : Int
  deriving DecidableEq, Repr, Inhabited

/-- `num / den` rounded to a natural number, a tie going to the even neighbour. -/
def roundDiv (num den : Nat) : Nat :=
  let q := num / den
  let r := num % den
  if den < 2 * r || (2 * r == den && q % 2 == 1) then q + 1 else q

namespace Binary64

/-- The exponent of the smallest positive number. -/
def leastExponent : Int := -1074

/-- The exponent of the largest number. -/
def greatestExponent : Int := 971

def zero (negative : Bool) : Binary64 := ⟨negative, 0, leastExponent⟩

def isZero (x : Binary64) : Bool := x.significand == 0

def neg (x : Binary64) : Binary64 := { x with negative := !x.negative }

/-- `num · 2 ^ -e / den` rounded to a natural number. -/
def roundScaled (num den : Nat) (e : Int) : Nat :=
  roundDiv (num <<< (-e).toNat) (den <<< e.toNat)

/-- The exponent at which `num / den` has 53 binary digits, or the least one if it is smaller
than that. -/
def ratioExponent (num den : Nat) : Int :=
  let e : Int := (num.log2 : Int) - den.log2 - 53
  let e := if num <<< (-e).toNat < den <<< (e.toNat + 53) then e else e + 1
  max e leastExponent

/-- The number nearest to `num / den`, `none` beyond the largest one. -/
def ofRatio (negative : Bool) (num den : Nat) : Option Binary64 :=
  if num == 0 then some (zero negative)
  else
    let e := ratioExponent num den
    let m := roundScaled num den e
    let (m, e) := if m == 1 <<< 53 then (1 <<< 52, e + 1) else (m, e)
    if greatestExponent < e then none else some ⟨negative, m, e⟩

/-- The number nearest to a natural number. -/
def ofNat? (n : Nat) : Option Binary64 := ofRatio false n 1

/-- The magnitude as a ratio. -/
def ratio (x : Binary64) : Nat × Nat :=
  (x.significand <<< x.exponent.toNat, 1 <<< (-x.exponent).toNat)

def mul? (x y : Binary64) : Option Binary64 :=
  let (a, b) := x.ratio
  let (c, d) := y.ratio
  ofRatio (x.negative != y.negative) (a * c) (b * d)

/-- The quotient by a number that is not zero. -/
def div? (x y : Binary64) : Option Binary64 :=
  let (a, b) := x.ratio
  let (c, d) := y.ratio
  ofRatio (x.negative != y.negative) (a * d) (b * c)

/-- The magnitude with one decimal place, rounded from the exact value, a tie going to the even
digit. -/
def tenths (x : Binary64) : Nat :=
  let (a, b) := x.ratio
  roundDiv (10 * a) b

end Binary64

/-- The number nearest to a power of ten up to `10 ^ 308`. -/
def powerOfTen (k : Nat) : Binary64 := (Binary64.ofNat? (Nat.pow 10 k)).getD (.zero false)

end ApiConsole.Decimal
