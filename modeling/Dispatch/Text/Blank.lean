import Dispatch.Text.Basic

/-!
# Blank characters and trimming

The blank characters are those of the Unicode property `White_Space`. Trimming takes them off both
ends of a text; main statements: a trimmed text neither starts nor ends with a blank
(`trim_head_not_blank`, `trim_last_not_blank`), and trimming a second time changes nothing
(`trim_trim`).
-/

namespace Dispatch.Text

/-! ## 1. The property -/

/-- The code points with the property `White_Space`, as ranges. -/
def blankRanges : List (Nat × Nat) :=
  [(0x09, 0x0D), (0x20, 0x20), (0x85, 0x85), (0xA0, 0xA0), (0x1680, 0x1680), (0x2000, 0x200A),
   (0x2028, 0x2029), (0x202F, 0x202F), (0x205F, 0x205F), (0x3000, 0x3000)]

/-- Whether a code point lies in one of some ranges. -/
def inRanges (ranges : List (Nat × Nat)) (n : Nat) : Bool :=
  ranges.any fun (low, high) => low ≤ n && n ≤ high

/-- Whether a character is blank. -/
def isBlank (c : Char) : Bool := inRanges blankRanges c.toNat

/-- There are twenty-five blank characters. -/
example : (blankRanges.map fun (low, high) => high + 1 - low).sum = 25 := by decide

/-! ## 2. Trimming -/

/-- The text without the blanks at its start. -/
def trimStart (text : Text) : Text := text.dropWhile isBlank

/-- The text without the blanks at its end. -/
def trimEnd (text : Text) : Text := (text.reverse.dropWhile isBlank).reverse

/-- The text without the blanks at either end. -/
def trim (text : Text) : Text := trimEnd (trimStart text)

/-- Whether a text holds nothing but blanks. -/
def isBlankText (text : Text) : Bool := text.all isBlank

theorem dropWhile_head_not {p : Char → Bool} (text : Text) {c : Char}
    (h : (text.dropWhile p).head? = some c) : p c = false := by
  induction text with
  | nil => simp at h
  | cons d text ih =>
    by_cases hd : p d
    · exact ih (by simpa [List.dropWhile_cons, hd] using h)
    · simp only [List.dropWhile_cons, hd] at h
      simp at h
      subst h
      simpa using hd

theorem dropWhile_eq_self {p : Char → Bool} {text : Text}
    (h : ∀ c, text.head? = some c → p c = false) : text.dropWhile p = text := by
  cases text with
  | nil => rfl
  | cons c text => simp [h c rfl]

theorem trimEnd_last_not_blank {text : Text} {c : Char}
    (h : (trimEnd text).getLast? = some c) : isBlank c = false := by
  apply dropWhile_head_not text.reverse
  simpa [trimEnd] using h

theorem trim_last_not_blank {text : Text} {c : Char}
    (h : (trim text).getLast? = some c) : isBlank c = false :=
  trimEnd_last_not_blank h

/-- What `trimEnd` leaves is a beginning of the text, and blanks stand behind it. -/
theorem trimEnd_append (text : Text) :
    ∃ tail, text = trimEnd text ++ tail ∧ ∀ c ∈ tail, isBlank c = true := by
  refine ⟨(text.reverse.takeWhile isBlank).reverse, ?_, fun c hc => ?_⟩
  · rw [trimEnd, ← List.reverse_append, List.takeWhile_append_dropWhile, List.reverse_reverse]
  · exact List.all_eq_true.mp List.all_takeWhile c (List.mem_reverse.mp hc)

theorem trim_head_not_blank {text : Text} {c : Char}
    (h : (trim text).head? = some c) : isBlank c = false := by
  obtain ⟨tail, ht, -⟩ := trimEnd_append (trimStart text)
  apply dropWhile_head_not text
  rw [show text.dropWhile isBlank = trimStart text from rfl, ht]
  rw [trim] at h
  rw [List.head?_append, h]
  rfl

theorem trim_eq_trimEnd {text : Text} (h : ∀ c, text.head? = some c → isBlank c = false) :
    trim text = trimEnd text := by
  rw [trim, show trimStart text = text from dropWhile_eq_self h]

theorem trimEnd_eq_self {text : Text} (h : ∀ c, text.getLast? = some c → isBlank c = false) :
    trimEnd text = text := by
  rw [trimEnd, dropWhile_eq_self (by simpa using h), List.reverse_reverse]

/-- A text that neither starts nor ends with a blank is its own trimming. -/
theorem trim_eq_self {text : Text} (hhead : ∀ c, text.head? = some c → isBlank c = false)
    (hlast : ∀ c, text.getLast? = some c → isBlank c = false) : trim text = text := by
  rw [trim_eq_trimEnd hhead, trimEnd_eq_self hlast]

@[simp] theorem trim_trim (text : Text) : trim (trim text) = trim text :=
  trim_eq_self (fun _ => trim_head_not_blank) (fun _ => trim_last_not_blank)

@[simp] theorem trim_nil : trim [] = [] := rfl

/-- Behind a character that is not blank, the end is trimmed by itself. -/
theorem trimEnd_append_cons (text : Text) {c : Char} (h : isBlank c = false) (rest : Text) :
    trimEnd (text ++ c :: rest) = text ++ c :: trimEnd rest := by
  have hreverse : (text ++ c :: rest).reverse = rest.reverse ++ c :: text.reverse := by simp
  rw [trimEnd, trimEnd, hreverse, List.dropWhile_append]
  split
  · next hblank =>
    rw [List.isEmpty_iff.mp hblank, List.dropWhile_cons_of_neg (by simp [h])]
    simp
  · simp

/-- Trimming the end first changes nothing. -/
theorem trim_trimEnd (text : Text) : trim (trimEnd text) = trim text := by
  have hparts : text.takeWhile isBlank ++ trimStart text = text := List.takeWhile_append_dropWhile
  have hfront : ∀ c ∈ text.takeWhile isBlank, isBlank c = true := fun c hc =>
    List.all_eq_true.mp List.all_takeWhile c hc
  cases hstart : trimStart text with
  | nil =>
    have hall : ∀ c ∈ text, isBlank c = true := by
      rw [← hparts, hstart, List.append_nil]
      exact hfront
    have hdrop := @List.dropWhile_append_of_pos _ isBlank text.reverse []
      fun c hc => hall c (List.mem_reverse.mp hc)
    have hend : trimEnd text = [] := by
      rw [List.append_nil] at hdrop
      rw [trimEnd, hdrop]
      rfl
    rw [hend, trim, trim, hstart]
    rfl
  | cons c rest =>
    have hc : isBlank c = false := dropWhile_head_not text (by
      rw [show text.dropWhile isBlank = trimStart text from rfl, hstart]
      rfl)
    have hend : trimEnd text = text.takeWhile isBlank ++ c :: trimEnd rest := by
      rw [← trimEnd_append_cons _ hc, ← hstart, hparts]
    have hagain : trimStart (trimEnd text) = c :: trimEnd rest := by
      rw [hend, trimStart, List.dropWhile_append_of_pos hfront,
        List.dropWhile_cons_of_neg (by simp [hc])]
    have hwhole := trimEnd_append_cons [] hc
    have hlast : trimEnd (trimEnd rest) = trimEnd rest :=
      trimEnd_eq_self fun _ => trimEnd_last_not_blank
    rw [trim, trim, hagain, hstart]
    exact (hwhole (trimEnd rest)).trans ((congrArg (c :: ·) hlast).trans (hwhole rest).symm)

/-! ## 3. Blanks around a text -/

theorem trimEnd_append_blanks {right : Text} (h : ∀ c ∈ right, isBlank c = true) (text : Text) :
    trimEnd (text ++ right) = trimEnd text := by
  rw [trimEnd, List.reverse_append,
    List.dropWhile_append_of_pos fun c hc => h c (List.mem_reverse.mp hc), trimEnd]

theorem trim_append_blanks {right : Text} (h : ∀ c ∈ right, isBlank c = true) (text : Text) :
    trim (text ++ right) = trim text := by
  rw [← trim_trimEnd, trimEnd_append_blanks h, trim_trimEnd]

theorem trim_blanks_append {left : Text} (h : ∀ c ∈ left, isBlank c = true) (text : Text) :
    trim (left ++ text) = trim text := by
  have hstart : trimStart (left ++ text) = trimStart text := List.dropWhile_append_of_pos h
  rw [trim, hstart]
  rfl

/-- Blanks around a text are trimmed off. -/
theorem trim_between {left right : Text} (hleft : ∀ c ∈ left, isBlank c = true)
    (hright : ∀ c ∈ right, isBlank c = true) (text : Text) :
    trim (left ++ text ++ right) = trim text := by
  rw [trim_append_blanks hright, trim_blanks_append hleft]

/-- A text is its trimming with blanks around it. -/
theorem exists_trim (text : Text) :
    ∃ left right, text = left ++ trim text ++ right ∧ (∀ c ∈ left, isBlank c = true) ∧
      ∀ c ∈ right, isBlank c = true := by
  obtain ⟨right, hright, hblank⟩ := trimEnd_append (trimStart text)
  refine ⟨text.takeWhile isBlank, right, ?_, fun c hc => ?_, hblank⟩
  · rw [List.append_assoc, trim, ← hright, trimStart, List.takeWhile_append_dropWhile]
  · exact List.all_eq_true.mp List.all_takeWhile c hc

end Dispatch.Text
