import Dispatch.Number.Shortest

/-!
# Writing a floating-point number

One record says how a number is laid out: which exponents are written positionally, how the
exponent is marked, and what stands for the values that are no number. Three records are in use:
`compact` for variables written as data, `printed` for a value printed by a template, and `nested`
for a value printed inside a list or a table.
-/

namespace Dispatch

/-- How a floating-point number is written. -/
structure FloatStyle where
  /-- The exponents of the first digit that are written without an exponent; all when absent. -/
  positional : Option (Int × Int)
  /-- Whether a positive exponent has a sign. -/
  plusSign : Bool
  infinity : Text
  nan : Text

namespace FloatStyle

/-- Numbers in data: an exponent from `1e+16` up and from `1e-6` down, and no number is `null`. -/
def compact : FloatStyle := ⟨some (-5, 15), true, ['n', 'u', 'l', 'l'], ['n', 'u', 'l', 'l']⟩

/-- Numbers that a template prints: never an exponent. -/
def printed : FloatStyle := ⟨none, false, ['i', 'n', 'f'], ['N', 'a', 'N']⟩

/-- Numbers inside printed lists and tables: an exponent from `1e16` up and below `1e-4`. -/
def nested : FloatStyle := ⟨some (-4, 15), false, ['i', 'n', 'f'], ['N', 'a', 'N']⟩

end FloatStyle

namespace Decimal

/-- The digits around the point, at least one on each side of it. -/
def positional (d : Decimal) : Text :=
  if d.exponent < 0 then
    ['0', '.'] ++ List.replicate (-d.exponent - 1).toNat '0' ++ d.digits
  else
    let whole := d.exponent.toNat + 1
    let padded := d.digits ++ List.replicate (whole - d.digits.length) '0'
    padded.take whole ++ ['.'] ++ (if whole < d.digits.length then d.digits.drop whole else ['0'])

/-- The digits with an exponent; a point only if there is more than one digit. -/
def scientific (plusSign : Bool) (d : Decimal) : Text :=
  let point := match d.digits with
    | first :: second :: rest => first :: '.' :: second :: rest
    | digits => digits
  point ++ ['e'] ++ (if plusSign ∧ 0 ≤ d.exponent then ['+'] else []) ++ Text.ofInt d.exponent

/-- The digits in a style. -/
def written (style : FloatStyle) (d : Decimal) : Text :=
  match style.positional with
  | none => d.positional
  | some (low, high) =>
    if low ≤ d.exponent ∧ d.exponent ≤ high then d.positional else d.scientific style.plusSign

example : positional ⟨['1', '2', '5'], 1⟩ = ['1', '2', '.', '5'] := by decide +kernel
example : positional ⟨['1'], 2⟩ = ['1', '0', '0', '.', '0'] := by decide +kernel
example : positional ⟨['3'], -5⟩ = ['0', '.', '0', '0', '0', '0', '3'] := by decide +kernel
example : scientific true ⟨['1', '2'], 22⟩ = ['1', '.', '2', 'e', '+', '2', '2'] := by decide +kernel

end Decimal

/-- A floating-point number in a style. Its bits are a sign, eleven bits of exponent and fifty-two
of mantissa. -/
def FloatStyle.write (style : FloatStyle) (x : Float) : Text :=
  let bits := x.toBits.toNat
  let negative := bits / Nat.pow 2 63 = 1
  let exponent : Nat := bits / Nat.pow 2 52 % 2048
  let fraction := bits % Nat.pow 2 52
  if exponent = 2047 ∧ fraction ≠ 0 then style.nan
  else
    let magnitude :=
      if exponent = 2047 then style.infinity
      else if exponent = 0 ∧ fraction = 0 then ['0', '.', '0']
      else if exponent = 0 then (Decimal.shortest fraction (-1074)).written style
      else (Decimal.shortest (Nat.pow 2 52 + fraction) ((exponent : Int) - 1075)).written style
    if negative then '-' :: magnitude else magnitude

end Dispatch
