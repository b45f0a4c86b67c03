import Dispatch.Text.Basic

/-!
# Reading a decimal number

A decimal literal is a sign, digits, a fraction and an exponent. `DecimalText.toFloat` gives the
nearest floating-point number. Numbers of JSON are read less exactly, see `Dispatch.Json.Number`.
-/

namespace Dispatch

/-- A decimal literal: `±digits · 10^exponent`. -/
structure DecimalText where
  negative : Bool
  digits : Nat
  exponent : Int
  deriving Repr, DecidableEq

namespace DecimalText

/-- Beyond this many places every literal of a text that could be written down is zero or
infinite, whatever its digits. -/
def exponentLimit : Int := 100000

/-- The floating-point number nearest to a literal. -/
def toFloat (d : DecimalText) : Float :=
  let magnitude : Float :=
    if d.digits = 0 then 0.0
    else if d.exponent > exponentLimit then 1.0 / 0.0
    else if d.exponent < -exponentLimit then 0.0
    else if 0 ≤ d.exponent then Float.ofScientific d.digits false d.exponent.toNat
    else Float.ofScientific d.digits true (-d.exponent).toNat
  if d.negative then -magnitude else magnitude

/-- The digits at the start of a text, and the rest. -/
def takeDigits (text : Text) : Text × Text := text.span Text.isDigit

/-- Reads an optional sign. -/
def takeSign : Text → Bool × Text
  | '-' :: rest => (true, rest)
  | '+' :: rest => (false, rest)
  | text => (false, text)

/-- Reads `e` or `E`, an optional sign and digits, at the end of a literal. -/
def exponent? : Text → Option Int
  | [] => some 0
  | c :: rest =>
    if c = 'e' ∨ c = 'E' then
      let (negative, digits) := takeSign rest
      if digits.isEmpty then none
      else (Text.natOf? 10 digits).map fun n => if negative then -(n : Int) else n
    else none

/-- Reads a whole text as a decimal literal: digits with at most one point, at least one digit, and
an optional exponent. -/
def parse? (text : Text) : Option DecimalText := do
  let (negative, text) := takeSign text
  let (whole, text) := takeDigits text
  let (fraction, text) := match text with
    | '.' :: rest => takeDigits rest
    | rest => ([], rest)
  if whole.isEmpty ∧ fraction.isEmpty then none
  let exponent ← exponent? text
  let digits ← Text.natOf? 10 (whole ++ fraction)
  return ⟨negative, digits, exponent - fraction.length⟩

end DecimalText

end Dispatch
