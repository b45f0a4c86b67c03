import Mathlib.Data.List.Basic
import Dispatch.Proofs.Markup.TagSpelling

/-!
# Tags in any spelling

A valid name stands between brackets in every spelling that has its lower-case form, with blanks
around it and around the slash of a closing tag, as long as these do not end the line. Lowering keeps
the blanks, brackets, quotes, slashes and equals signs of a text, so such a spelling holds none
(`notMem_spelling`), and the text is one span that says the name and nothing else. Main statements:
`SpellsOpening.reads` and `SpellsClosing.reads`.
-/

namespace Dispatch.Markup

/-! ## 1. The texts -/

/-- Blanks that do not end the line. -/
def IsGap (gap : Text) : Prop := ∀ c ∈ gap, Text.isBlank c = true ∧ Tag.isLineEnd c = false

/-- The text is an opening tag without attributes, its name in any spelling, with blanks around. -/
inductive SpellsOpening (name : Text) : Text → Prop
  | intro {left spelling right : Text} (hleft : IsGap left)
      (hspelling : Text.lower spelling = name) (hright : IsGap right) :
      SpellsOpening name ('[' :: (left ++ spelling ++ right ++ [']']))

/-- The text is a closing tag, its name in any spelling, with blanks around that and the slash. -/
inductive SpellsClosing (name : Text) : Text → Prop
  | intro {left between spelling right : Text} (hleft : IsGap left) (hbetween : IsGap between)
      (hspelling : Text.lower spelling = name) (hright : IsGap right) :
      SpellsClosing name ('[' :: (left ++ '/' :: (between ++ spelling) ++ right ++ [']']))

namespace IsGap

theorem nil : IsGap [] := fun _ hc => absurd hc List.not_mem_nil

variable {gap : Text}

theorem blank (h : IsGap gap) : ∀ c ∈ gap, Text.isBlank c = true := fun c hc => (h c hc).1

theorem lineEnd (h : IsGap gap) : ∀ c ∈ gap, Tag.isLineEnd c = false := fun c hc => (h c hc).2

theorem crosses (h : IsGap gap) : Quoting.plain.Crosses gap .plain := by
  refine Quoting.crosses_plain fun c hc => ⟨?_, ?_, ?_⟩
  all_goals
    rintro rfl
    cases h.blank _ hc

end IsGap

/-! ## 2. The spelling of a name -/

section Spelling

variable {name spelling : Text} (hvalid : isValidName name = true)
  (hspelling : Text.lower spelling = name)
include hvalid hspelling

theorem lower_eq_of_spelling : Text.lower spelling = Text.lower name :=
  hspelling.trans (lower_of_valid hvalid).symm

/-- A spelling of a valid name holds no sign that a name may not hold. -/
theorem notMem_spelling {c : Char} (hsign : Text.isSign c = true) (hc : isNameChar c = false) :
    c ∉ spelling := fun hmem =>
  have hname := (Text.mem_iff_of_lower_eq (lower_eq_of_spelling hvalid hspelling) hsign).mp hmem
  ne_of_isNameChar (isNameChar_of_mem hvalid hname) hc rfl

theorem trim_spelling : Text.trim spelling = spelling :=
  Text.trim_eq_self_of_lower_eq (lower_eq_of_spelling hvalid hspelling) (trim_of_valid hvalid)

theorem spelling_ne_nil : spelling ≠ [] := by
  rintro rfl
  exact ne_nil_of_valid hvalid hspelling.symm

theorem crosses_spelling : Quoting.plain.Crosses spelling .plain := by
  refine Quoting.crosses_plain fun c hc => ⟨?_, ?_, ?_⟩
  all_goals
    rintro rfl
    exact notMem_spelling hvalid hspelling (by decide) (by decide) hc

theorem lineEnd_spelling : ∀ c ∈ spelling, Tag.isLineEnd c = false := by
  intro c hc
  have hnewline : c ≠ '\n' := by
    rintro rfl
    exact notMem_spelling hvalid hspelling (by decide) (by decide) hc
  have hreturn : c ≠ '\r' := by
    rintro rfl
    exact notMem_spelling hvalid hspelling (by decide) (by decide) hc
  simp [Tag.isLineEnd, hnewline, hreturn]

end Spelling

/-! ## 3. The tags that are read -/

section Reads

variable {name raw : Text} (hvalid : isValidName name = true)
include hvalid

/-- **An opening tag is read in every spelling.** -/
theorem SpellsOpening.reads (h : SpellsOpening name raw) :
    IsSpan raw ∧ Tag.ofSpan? raw = some (.opening name []) := by
  obtain ⟨hleft, hspelling, hright⟩ := h
  next left spelling right =>
  refine ⟨isSpan_of_crosses ((hleft.crosses.append
    (crosses_spelling hvalid hspelling)).append hright.crosses), ?_⟩
  have hline : ∀ c ∈ left ++ spelling ++ right, Tag.isLineEnd c = false := by
    simp only [List.mem_append]
    rintro c ((hc | hc) | hc)
    · exact hleft.lineEnd c hc
    · exact lineEnd_spelling hvalid hspelling c hc
    · exact hright.lineEnd c hc
  have hletters : ∀ d ∈ spelling, d ≠ '=' ∧ d ≠ ' ' := by
    refine fun d hd => ⟨?_, ?_⟩
    all_goals
      rintro rfl
      exact notMem_spelling hvalid hspelling (by decide) (by decide) hd
  have hslash : spelling.head? ≠ some '/' := fun hhead =>
    notMem_spelling hvalid hspelling (by decide) (by decide) (List.mem_of_head? hhead)
  rw [ofSpan?_brackets hline, Text.trim_between hleft.blank hright.blank,
    trim_spelling hvalid hspelling,
    ofInner?_of_name hletters hslash (spelling_ne_nil hvalid hspelling), hspelling]

/-- **A closing tag is read in every spelling.** -/
theorem SpellsClosing.reads (h : SpellsClosing name raw) :
    IsSpan raw ∧ Tag.ofSpan? raw = some (.closing name) := by
  obtain ⟨hleft, hbetween, hspelling, hright⟩ := h
  next left between spelling right =>
  have hslash : Quoting.plain.Crosses ['/'] .plain := Quoting.crosses_char fun _ => by decide
  have hinside := hslash.append (hbetween.crosses.append (crosses_spelling hvalid hspelling))
  refine ⟨isSpan_of_crosses ((hleft.crosses.append hinside).append hright.crosses), ?_⟩
  have hline : ∀ c ∈ left ++ '/' :: (between ++ spelling) ++ right, Tag.isLineEnd c = false := by
    simp only [List.mem_append, List.mem_cons]
    rintro c ((hc | rfl | hc | hc) | hc)
    · exact hleft.lineEnd c hc
    · decide
    · exact hbetween.lineEnd c hc
    · exact lineEnd_spelling hvalid hspelling c hc
    · exact hright.lineEnd c hc
  have htrim : Text.trim ('/' :: (between ++ spelling)) = '/' :: (between ++ spelling) := by
    refine Text.trim_eq_self (fun c hc => ?_) fun c hc => ?_
    · rw [List.head?_cons, Option.some.injEq] at hc
      exact hc ▸ by decide
    · rw [← List.cons_append, List.getLast?_append_of_ne_nil _ (spelling_ne_nil hvalid hspelling),
        ← trim_spelling hvalid hspelling] at hc
      exact Text.trim_last_not_blank hc
  rw [ofSpan?_brackets hline, Text.trim_between hleft.blank hright.blank, htrim, Tag.ofInner?,
    Text.trim_blanks_append hbetween.blank, trim_spelling hvalid hspelling, hspelling]

end Reads

end Dispatch.Markup
