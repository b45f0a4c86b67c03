import Dispatch.Number.Reading
import Dispatch.Value.Basic

/-!
# Numbers of JSON

A number without fraction and exponent that fits a machine word stays an integer, except that a
negative zero is a floating-point number. Every other number is read as a significand of at most
one machine word, whose further digits are dropped, and one multiplication or division by a power
of ten; that may miss the nearest floating-point number by a little. A number too large for a
floating-point number is refused.
-/

namespace Dispatch.Json

/-- The greatest significand. -/
def maxWord : Nat := Nat.pow 2 64 - 1

/-- The greatest exponent that is read as a number. -/
def maxExponent : Nat := Nat.pow 2 31 - 1

/-- Puts digits behind a significand as long as it fits a word; also counts the digits taken. -/
def takeSignificand (significand : Nat) : Text → Nat × Nat
  | [] => (significand, 0)
  | c :: rest =>
    let next := significand * 10 + (c.toNat - 0x30)
    if next > maxWord then (significand, 0)
    else
      let (total, count) := takeSignificand next rest
      (total, count + 1)

/-- Whether a floating-point number is infinite. -/
def isInfinite (x : Float) : Bool := x == 1.0 / 0.0 || x == -1.0 / 0.0

/-- A power of ten with a floating-point number for it. -/
def powerOfTen (n : Nat) : Float := Float.ofScientific 1 false n

/-- Scales a floating-point number by a power of ten, in steps of at most `10^308`; the fourth step
down always meets a zero. -/
def scale (x : Float) (exponent : Int) : Nat → Option Float
  | 0 => some x
  | fuel + 1 =>
    if exponent.natAbs ≤ 308 then
      if 0 ≤ exponent then
        let y := x * powerOfTen exponent.natAbs
        if isInfinite y then none else some y
      else some (x / powerOfTen exponent.natAbs)
    else if x == 0.0 then some x
    else if 0 ≤ exponent then none
    else scale (x / powerOfTen 308) (exponent + 308) fuel

/-- The exponent behind a number, and the rest of the text; zero if there is none. -/
def readExponent? : Text → Option (Bool × Nat × Text)
  | [] => some (false, 0, [])
  | c :: rest =>
    if c = 'e' ∨ c = 'E' then
      let (negative, rest) := DecimalText.takeSign rest
      let (digits, rest) := DecimalText.takeDigits rest
      if digits.isEmpty then none
      else (Text.natOf? 10 digits).map fun n => (negative, n, rest)
    else some (false, 0, c :: rest)

/-- The value of a sign, a significand and an exponent. -/
def floatOf? (negative : Bool) (significand : Nat) (exponent : Int) : Option Value := do
  let x ← scale significand.toUInt64.toFloat exponent 4
  return .float (if negative then -x else x)

/-- Reads a number at the start of a text. -/
def readNumber? (text : Text) : Option (Value × Text) := do
  let (negative, text) := match text with
    | '-' :: rest => (true, rest)
    | rest => (false, rest)
  let (whole, text) := DecimalText.takeDigits text
  if whole.isEmpty ∨ (whole.head? = some '0' ∧ whole.length > 1) then none
  let (significand, used) := takeSignificand 0 whole
  let dropped := whole.length - used
  let (fraction, rest) ← match text with
    | '.' :: rest =>
      let (digits, rest) := DecimalText.takeDigits rest
      if digits.isEmpty then none else some (digits, rest)
    | rest => some ([], rest)
  let hasExponent := rest.head? = some 'e' ∨ rest.head? = some 'E'
  if fraction.isEmpty ∧ ¬hasExponent ∧ dropped = 0 then
    if ¬negative then return (.int significand, rest)
    else if 0 < significand ∧ significand ≤ Nat.pow 2 63 then return (.int (-significand), rest)
    else return (.float (-significand.toUInt64.toFloat), rest)
  else
    let (significand, places) := takeSignificand significand fraction
    let start : Int := (dropped : Int) - places
    let (down, exponent, rest) ← readExponent? rest
    if exponent > maxExponent then
      if significand ≠ 0 ∧ ¬down then none
      else return (.float (if negative then -0.0 else 0.0), rest)
    else
      let value ← floatOf? negative significand (if down then start - exponent else start + exponent)
      return (value, rest)

end Dispatch.Json
