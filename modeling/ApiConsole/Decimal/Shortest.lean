import ApiConsole.Decimal.Binary64

/-!
# Shortest decimals

The decimal with the fewest digits that reads back as a given binary fraction. The real numbers
that round to the fraction form an interval around it, whose ends belong to it when the significand
is even. On each decimal grid, coarsest first, only the two neighbours of the fraction can lie in
that interval; the first grid with a hit wins, of two hits the nearer one, and of two equally near
ones the even one.
-/
namespace ApiConsole.Decimal

/-- The number `digits · 10 ^ exponent`. -/
structure Scientific where
  digits : Nat
  exponent : Int
  deriving DecidableEq, Repr

/-- A positive number and the ends of the interval that rounds to it, over one denominator. -/
structure RoundingInterval where
  low : Nat
  value : Nat
  high : Nat
  den : Nat
  closed : Bool

/-- The interval of a positive binary fraction. Below a power of two the numbers lie twice as
close as above it. -/
def Binary64.interval (x : Binary64) : RoundingInterval :=
  let e := x.exponent - 2
  let scale (n : Nat) : Nat := n <<< e.toNat
  let below := if x.significand == 1 <<< 52 && Binary64.leastExponent < x.exponent then 1 else 2
  { low := scale (4 * x.significand - below)
    value := scale (4 * x.significand)
    high := scale (4 * x.significand + 2)
    den := 1 <<< (-e).toNat
    closed := x.significand % 2 == 0 }

namespace RoundingInterval

/-- Whether `n · 10 ^ p` lies in the interval. -/
def holds (i : RoundingInterval) (n : Nat) (p : Int) : Bool :=
  let a := n * Nat.pow 10 p.toNat * i.den
  let scale := Nat.pow 10 (-p).toNat
  if i.closed then i.low * scale ≤ a && a ≤ i.high * scale
  else i.low * scale < a && a < i.high * scale

/-- The neighbour of the value on the grid of multiples of `10 ^ p` that lies in the interval. -/
def onGrid (i : RoundingInterval) (p : Int) : Option Scientific :=
  let num := i.value * Nat.pow 10 (-p).toNat
  let den := i.den * Nat.pow 10 p.toNat
  let n := num / den
  let r := num % den
  let up := den < 2 * r || (2 * r == den && n % 2 == 1)
  match i.holds n p, i.holds (n + 1) p with
  | true, true => some ⟨if up then n + 1 else n, p⟩
  | true, false => some ⟨n, p⟩
  | false, true => some ⟨n + 1, p⟩
  | false, false => none

/-- The exponent of the first decimal digit of the value. -/
def decimalExponent (i : RoundingInterval) : Int :=
  let guess := (((i.value.log2 : Int) - i.den.log2) * 30103) / 100000 - 1
  let atLeast (k : Int) : Bool := i.den * Nat.pow 10 k.toNat ≤ i.value * Nat.pow 10 (-k).toNat
  if atLeast (guess + 2) then guess + 2 else if atLeast (guess + 1) then guess + 1 else guess

end RoundingInterval

/-- The number without the zeros at the end of its digits, of which it has at most twenty. -/
def Scientific.stripped (d : Scientific) : Scientific :=
  go 20 d.digits d.exponent
where
  /-- Divides by ten as long as that is exact, at most `fuel` times. -/
  go : Nat → Nat → Int → Scientific
    | 0, n, e => ⟨n, e⟩
    | fuel + 1, n, e => if n != 0 && n % 10 == 0 then go fuel (n / 10) (e + 1) else ⟨n, e⟩

/-- The shortest decimal of a positive number; seventeen digits always suffice. -/
def Binary64.shortest (x : Binary64) : Scientific :=
  let i := x.interval
  let top := i.decimalExponent
  let hit := (List.range 17).findSome? fun n => i.onGrid (top - (n : Nat))
  (hit.getD ⟨0, 0⟩).stripped

end ApiConsole.Decimal
