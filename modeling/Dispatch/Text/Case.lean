import Dispatch.Text.Blank
import Dispatch.Text.CaseTable

/-!
# Lower and upper case

The full case mappings of Unicode: a character may map to several, and a capital sigma is lowered
to its final form exactly where it ends a word.
-/

namespace Dispatch.Text

/-! ## 1. Lower case -/

/-- The lower-case form of a character, whatever stands around it. -/
def lowerChar (c : Char) : Text :=
  if c = 'İ' then ['i', '\u0307']
  else match CaseRun.lookup? c.toNat lowerRuns with
    | some n => [Char.ofNat n]
    | none => [c]

/-- Whether the first character that is not passed over is a letter with a case. -/
def startsCased : Text → Bool
  | [] => false
  | c :: rest =>
    if inRanges caseIgnorableRanges c.toNat then startsCased rest
    else inRanges casedRanges c.toNat

/-- The lower-case form of a character between the characters before it, nearest first, and those
behind it: a capital sigma that has a letter before it and none behind it takes the final form. -/
def lowerAt (before : Text) (c : Char) (behind : Text) : Text :=
  if c = 'Σ' then [if startsCased before && !startsCased behind then 'ς' else 'σ']
  else lowerChar c

/-- Lowers a text that follows the characters `before`, nearest first. -/
def lowerBehind (before : Text) : Text → Text
  | [] => []
  | c :: rest => lowerAt before c rest ++ lowerBehind (c :: before) rest

/-- The lower-case form of a text. -/
def lower (text : Text) : Text := lowerBehind [] text

@[simp] theorem lower_nil : lower [] = [] := rfl

/-! ## 2. Upper case -/

/-- The upper-case form of a character. -/
def upperChar (c : Char) : Text :=
  match upperExpansions.find? (·.1 == c.toNat) with
  | some (_, image) => image.map Char.ofNat
  | none =>
    match CaseRun.lookup? c.toNat upperRuns with
    | some n => [Char.ofNat n]
    | none => [c]

/-- The upper-case form of a text. -/
def upper (text : Text) : Text := text.flatMap upperChar

/-- Lowers the letters of ASCII and leaves every other character. -/
def lowerAscii (text : Text) : Text := text.map Char.toLower

example : lower ['A', 'Σ'] = ['a', 'ς'] := by decide +kernel
example : lower ['Σ', 'A'] = ['σ', 'a'] := by decide +kernel
example : lower ['İ'] = ['i', '\u0307'] := by decide +kernel
example : lower ['\u212A'] = ['k'] := by decide +kernel
example : upper ['ß'] = ['S', 'S'] := by decide +kernel

end Dispatch.Text
