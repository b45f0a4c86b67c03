import Dispatch.Text.Basic

/-!
# The fewest digits that read back

A finite binary number is `mantissa · 2^exponent`. The reals nearer to it than to its neighbours
form an interval, closed exactly when the mantissa is even. Its shortest decimal form is the first
grid of one, two, … seventeen digits with a point in that interval; of two such points the nearer
is taken, and the even one when both are equally near.
-/

namespace Dispatch

/-- A positive decimal number `d.ddd · 10^exponent`: its digits, without zeros at the end, and the
exponent of the first of them. -/
structure Decimal where
  digits : Text
  exponent : Int
  deriving Repr, DecidableEq

namespace Decimal

/-- Three numbers over one denominator: the lower end, the number itself and the upper end. -/
structure Interval where
  low : Nat
  mid : Nat
  high : Nat
  den : Nat
  closed : Bool
  deriving Repr

/-- The reals that round to `mantissa · 2^exponent`. The gap below a power of two is half as wide
as the one above it, except at the least exponent. -/
def Interval.around (mantissa : Nat) (exponent : Int) : Interval :=
  let below := if mantissa = Nat.pow 2 52 ∧ exponent > -1074 then 1 else 2
  let scale := exponent - 2
  let up := if scale ≥ 0 then Nat.pow 2 scale.toNat else 1
  let den := if scale ≥ 0 then 1 else Nat.pow 2 (-scale).toNat
  { low := (4 * mantissa - below) * up
    mid := 4 * mantissa * up
    high := (4 * mantissa + 2) * up
    den := den
    closed := mantissa % 2 = 0 }

/-- The exponent of the first decimal digit of a positive quotient. -/
def leadingExponent (num den : Nat) : Int :=
  if den ≤ num then (Text.ofNat (num / den)).length - 1
  else
    let k := (Text.ofNat (den / num)).length - 1
    if den ≤ num * Nat.pow 10 k then -k else -(k + 1)

/-- The point nearest to the middle, among the two neighbours of the middle on the decimal grid of
unit `10^unit`, that lies in the interval. -/
def Interval.nearestOnGrid? (span : Interval) (unit : Int) : Option Nat :=
  let up := Nat.pow 10 (-unit).toNat
  let step := span.den * Nat.pow 10 unit.toNat
  let inside (n : Nat) : Bool :=
    if span.closed then span.low * up ≤ n * step && n * step ≤ span.high * up
    else span.low * up < n * step && n * step < span.high * up
  let floor := span.mid * up / step
  let twice := 2 * (span.mid * up - floor * step)
  match inside floor, inside (floor + 1) with
  | true, true =>
    some (if twice < step ∨ (twice = step ∧ floor % 2 = 0) then floor else floor + 1)
  | true, false => some floor
  | false, true => some (floor + 1)
  | false, false => none

/-- A number of the grid of unit `10^unit` as a decimal without zeros at its end. -/
def ofGrid (n : Nat) (unit : Int) : Decimal :=
  let digits := Text.ofNat n
  { digits := (digits.reverse.dropWhile (· = '0')).reverse
    exponent := unit + digits.length - 1 }

/-- The first of the grids of `count`, `count + 1`, … digits with a point in the interval. -/
def Interval.firstGrid (span : Interval) (lead : Int) : Nat → Nat → Decimal
  | _, 0 => ofGrid (span.mid / span.den) 0
  | count, fuel + 1 =>
    let unit := lead - count + 1
    match span.nearestOnGrid? unit with
    | some n => ofGrid n unit
    | none => span.firstGrid lead (count + 1) fuel

/-- The shortest decimal form of `mantissa · 2^exponent`, for a positive mantissa. -/
def shortest (mantissa : Nat) (exponent : Int) : Decimal :=
  let span := Interval.around mantissa exponent
  span.firstGrid (leadingExponent span.mid span.den) 1 17

example : shortest 1 0 = ⟨['1'], 0⟩ := by decide +kernel
example : shortest 1 (-1074) = ⟨['5'], -324⟩ := by decide +kernel
example : shortest 0x1999999999999A (-56) = ⟨['1'], -1⟩ := by decide +kernel

end Decimal

end Dispatch
