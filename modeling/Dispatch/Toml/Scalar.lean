import Dispatch.Number.Reading
import Dispatch.Value.Basic

/-!
# Unquoted scalars of TOML

Booleans, integers, floating-point numbers, dates and times. A number may have single underscores
between its digits and no zero in front. A date or time is kept as a table of one field that holds
its text.
-/

namespace Dispatch.Toml

/-! ## 1. Numbers -/

/-- The digits of a row in which single underscores stand between digits. -/
def ungrouped? (isDigit : Char → Bool) : Text → Option Text
  | [] => none
  | [c] => if isDigit c then some [c] else none
  | c :: '_' :: rest =>
    if isDigit c then (ungrouped? isDigit rest).map (c :: ·) else none
  | c :: rest => if isDigit c then (ungrouped? isDigit rest).map (c :: ·) else none

/-- Whether a row of digits has a zero in front of others. -/
def hasLeadingZero : Text → Bool
  | '0' :: _ :: _ => true
  | _ => false

/-- An integer that a machine word, with or without sign, can hold. -/
def wordOf? (n : Int) : Option Value :=
  if -(Nat.pow 2 63) ≤ n ∧ n < Nat.pow 2 64 then some (.int n) else none

/-- The integer of a base, given the digits behind the mark of the base. -/
def radixInteger? (base : Nat) (digits : Text) : Option Value := do
  let isDigit (c : Char) : Bool := match Text.digitValue? c with
    | some d => d < base
    | none => false
  let n ← Text.natOf? base (← ungrouped? isDigit digits)
  wordOf? n

/-- The decimal integer of some digits. -/
def decimalInteger? (negative : Bool) (digits : Text) : Option Value := do
  let digits ← ungrouped? Text.isDigit digits
  if hasLeadingZero digits then none
  let n ← Text.natOf? 10 digits
  wordOf? (if negative then -(n : Int) else n)

/-- Whether a floating-point number is no finite one. -/
def isFinite (x : Float) : Bool := !(x.isNaN || x.isInf)

/-- The floating-point number of an unsigned literal: a whole part, and a fraction or an exponent.
A number too large is refused. -/
def float? (negative : Bool) (text : Text) : Option Value := do
  let (whole, rest) := text.span fun c => Text.isDigit c || c = '_'
  let whole ← ungrouped? Text.isDigit whole
  if hasLeadingZero whole then none
  let (fraction, rest) ← match rest with
    | '.' :: rest =>
      let (digits, rest) := rest.span fun c => Text.isDigit c || c = '_'
      (ungrouped? Text.isDigit digits).map fun digits => (digits, rest)
    | rest => some ([], rest)
  let exponent ← match rest with
    | [] => if fraction.isEmpty then none else some 0
    | c :: rest =>
      if c = 'e' ∨ c = 'E' then
        let (down, digits) := DecimalText.takeSign rest
        let n ← Text.natOf? 10 (← ungrouped? Text.isDigit digits)
        some (if down then -(n : Int) else (n : Int))
      else none
  let digits ← Text.natOf? 10 (whole ++ fraction)
  let x := DecimalText.toFloat ⟨negative, digits, exponent - fraction.length⟩
  if isFinite x then some (.float x) else none

/-- The value of a word that is a number. A number that is none has no value in tables. -/
def number? (word : Text) : Option Value :=
  match word with
  | '0' :: 'x' :: digits => radixInteger? 16 digits
  | '0' :: 'o' :: digits => radixInteger? 8 digits
  | '0' :: 'b' :: digits => radixInteger? 2 digits
  | word =>
    let (negative, unsigned) := DecimalText.takeSign word
    if unsigned = ['i', 'n', 'f'] ∨ unsigned = ['n', 'a', 'n'] then some .null
    else (decimalInteger? negative unsigned).or (float? negative unsigned)

/-! ## 2. Dates and times -/

/-- The number of exactly so many digits at the start of a text, and the rest. -/
def fixedNumber? (count : Nat) (text : Text) : Option (Nat × Text) := do
  let digits := text.take count
  if digits.length = count ∧ digits.all Text.isDigit then
    let n ← Text.natOf? 10 digits
    some (n, text.drop count)
  else none

/-- The number of days of a month. -/
def daysIn (year month : Nat) : Nat :=
  if month = 2 then
    if year % 4 = 0 ∧ (year % 100 ≠ 0 ∨ year % 400 = 0) then 29 else 28
  else if month ∈ [4, 6, 9, 11] then 30
  else 31

/-- A number with zeros in front up to a width. -/
def padded (width n : Nat) : Text :=
  let digits := Text.ofNat n
  List.replicate (width - digits.length) '0' ++ digits

/-- Reads a date; gives its text. -/
def date? (text : Text) : Option (Text × Text) := do
  let (year, text) ← fixedNumber? 4 text
  let text ← Text.after? ['-'] text
  let (month, text) ← fixedNumber? 2 text
  let text ← Text.after? ['-'] text
  let (day, text) ← fixedNumber? 2 text
  if 1 ≤ month ∧ month ≤ 12 ∧ 1 ≤ day ∧ day ≤ daysIn year month then
    some (padded 4 year ++ ['-'] ++ padded 2 month ++ ['-'] ++ padded 2 day, text)
  else none

/-- Reads the fraction of a second; at most nine of its digits count. -/
def secondFraction? : Text → Option (Text × Text)
  | '.' :: rest =>
    let (digits, rest) := rest.span Text.isDigit
    if digits.isEmpty then none
    else
      let kept := ((digits.take 9).reverse.dropWhile (· = '0')).reverse
      some (if kept.isEmpty then [] else '.' :: kept, rest)
  | text => some ([], text)

/-- Reads a time of day, whose seconds may be left out; gives its text. -/
def time? (text : Text) : Option (Text × Text) := do
  let (hour, text) ← fixedNumber? 2 text
  let text ← Text.after? [':'] text
  let (minute, text) ← fixedNumber? 2 text
  if hour > 23 ∨ minute > 59 then none
  let start := padded 2 hour ++ [':'] ++ padded 2 minute
  match text with
  | ':' :: text => do
    let (second, text) ← fixedNumber? 2 text
    if second > 60 then none
    let (fraction, text) ← secondFraction? text
    some (start ++ [':'] ++ padded 2 second ++ fraction, text)
  | text => some (start, text)

/-- Reads the offset of a time zone to the end of the text; gives its text. -/
def offset? : Text → Option Text
  | [] => some []
  | ['Z'] => some ['Z']
  | ['z'] => some ['Z']
  | sign :: text => do
    if sign ≠ '+' ∧ sign ≠ '-' then none
    let (hour, text) ← fixedNumber? 2 text
    let text ← Text.after? [':'] text
    let (minute, text) ← fixedNumber? 2 text
    if text.isEmpty ∧ hour ≤ 23 ∧ minute ≤ 59 then
      some ((if hour = 0 ∧ minute = 0 then '+' else sign) :: padded 2 hour ++ [':'] ++ padded 2 minute)
    else none

/-- The text of a word that is a date, a time, or both. -/
def dateTime? (word : Text) : Option Text :=
  match date? word with
  | some (date, []) => some date
  | some (date, separator :: rest) => do
    if separator ≠ 'T' ∧ separator ≠ 't' ∧ separator ≠ ' ' then none
    let (time, rest) ← time? rest
    let offset ← offset? rest
    some (date ++ ['T'] ++ time ++ offset)
  | none => do
    let (time, rest) ← time? word
    if rest.isEmpty then some time else none

/-- The name of the field that holds the text of a date. -/
def dateField : String := "$__toml_private_datetime"

/-- The value of an unquoted word. -/
def wordValue? (word : Text) : Option Value :=
  if word = "true".toList then some (.bool true)
  else if word = "false".toList then some (.bool false)
  else match dateTime? word with
    | some text => some (.table [(dateField, .string (String.ofList text))])
    | none => number? word

end Dispatch.Toml
