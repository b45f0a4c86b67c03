import Dispatch.Proofs.Text.Case

/-!
# Signs have no case

Blanks, quotes, brackets, the slash and the equals sign are the signs that tags are written with.
Lowering leaves them as they are (`lowerAt_of_sign`) and makes no other character one of them
(`eq_of_mem_lowerAt`). So texts with the same lower-case form have the same signs in the same order
(`filter_eq_of_lower_eq`), also at their ends (`trim_eq_self_of_lower_eq`), and blanks behind a text
do not change how it is lowered (`lower_append_blanks`).
-/

namespace Dispatch.Text

/-! ## 1. Ranges of code points -/

/-- No code point lies in a range of both lists. -/
def apart (ranges others : List (Nat × Nat)) : Bool :=
  ranges.all fun (low, high) => others.all fun (first, last) => last < low || high < first

theorem inRanges_eq_true {ranges : List (Nat × Nat)} {n : Nat} :
    inRanges ranges n = true ↔ ∃ range ∈ ranges, range.1 ≤ n ∧ n ≤ range.2 := by
  simp [inRanges]

theorem not_inRanges_of_apart {ranges others : List (Nat × Nat)} (h : apart ranges others = true)
    {n : Nat} (hn : inRanges ranges n = true) : inRanges others n = false := by
  obtain ⟨range, hrange, hlow, hhigh⟩ := inRanges_eq_true.mp hn
  refine Bool.eq_false_iff.mpr fun hother => ?_
  obtain ⟨other, hmem, hfirst, hlast⟩ := inRanges_eq_true.mp hother
  have hboth := List.all_eq_true.mp (List.all_eq_true.mp h range hrange) other hmem
  rw [Bool.or_eq_true, decide_eq_true_eq, decide_eq_true_eq] at hboth
  omega

/-- The code points that have a lower-case form in the table. -/
def upperRanges : List (Nat × Nat) := lowerRuns.map fun run => (run.first, run.last)

/-- The code points that are a lower-case form in the table. -/
def lowerRanges : List (Nat × Nat) :=
  lowerRuns.map fun run => (run.image, run.image + (run.last - run.first))

theorem inRanges_of_lookup? {n image : Nat} (h : CaseRun.lookup? n lowerRuns = some image) :
    inRanges upperRanges n = true ∧ inRanges lowerRanges image = true := by
  obtain ⟨run, hrun, hfirst, hlast, -, rfl⟩ := exists_run_of_lookup? h
  constructor
  · exact inRanges_eq_true.mpr ⟨_, List.mem_map_of_mem hrun, hfirst, hlast⟩
  · refine inRanges_eq_true.mpr ⟨_, List.mem_map_of_mem hrun, Nat.le_add_right _ _, ?_⟩
    exact Nat.add_le_add_left (Nat.sub_le_sub_right hlast _) _

/-! ## 2. Signs -/

/-- The code points of the blanks and of `"`, `'`, `/`, `=`, `[` and `]`. -/
def signRanges : List (Nat × Nat) :=
  blankRanges ++
    [(0x22, 0x22), (0x27, 0x27), (0x2F, 0x2F), (0x3D, 0x3D), (0x5B, 0x5B), (0x5D, 0x5D)]

/-- Whether a character is a blank, a quote, a slash, an equals sign or a bracket. -/
def isSign (c : Char) : Bool := inRanges signRanges c.toNat

theorem isSign_of_isBlank {c : Char} (h : isBlank c = true) : isSign c = true := by
  unfold isBlank inRanges at h
  rw [isSign, inRanges, signRanges, List.any_append, h, Bool.true_or]

theorem signs_apart :
    apart signRanges upperRanges = true ∧ apart signRanges lowerRanges = true := by
  decide +kernel

theorem ne_of_isSign {c d : Char} (h : isSign c = true) (hd : isSign d = false) : c ≠ d := by
  rintro rfl
  exact Bool.false_ne_true (hd.symm.trans h)

/-- **A sign is lowered to itself.** -/
theorem lowerAt_of_sign {c : Char} (h : isSign c = true) (before behind : Text) :
    lowerAt before c behind = [c] := by
  have hsigma : c ≠ 'Σ' := ne_of_isSign h (by decide)
  have hdotted : c ≠ 'İ' := ne_of_isSign h (by decide)
  have hlookup : CaseRun.lookup? c.toNat lowerRuns = none := by
    cases hfound : CaseRun.lookup? c.toNat lowerRuns with
    | none => rfl
    | some image =>
      have hcased := (inRanges_of_lookup? hfound).1
      rw [not_inRanges_of_apart signs_apart.1 h] at hcased
      cases hcased
  rw [lowerAt, if_neg hsigma, lowerChar, if_neg hdotted, hlookup]

/-- **Nothing but a sign is lowered to it.** -/
theorem eq_of_mem_lowerAt {before behind : Text} {c d : Char} (hd : d ∈ lowerAt before c behind)
    (h : isSign d = true) : d = c := by
  have hnone {other : Char} (hother : isSign other = false) (heq : d = other) : d = c :=
    absurd heq (ne_of_isSign h hother)
  rw [lowerAt] at hd
  split at hd
  · refine hnone ?_ (List.mem_singleton.mp hd)
    split <;> decide
  · rw [lowerChar] at hd
    split at hd
    · rcases List.mem_cons.mp hd with hd | hd
      · exact hnone (by decide) hd
      · exact hnone (by decide) (List.mem_singleton.mp hd)
    · cases hlookup : CaseRun.lookup? c.toNat lowerRuns with
      | none =>
        rw [hlookup] at hd
        exact List.mem_singleton.mp hd
      | some image =>
        rw [hlookup] at hd
        refine hnone ?_ (List.mem_singleton.mp hd)
        by_cases hvalid : image.isValidChar
        · have hcode : (Char.ofNat image).toNat = image := by
            rw [Char.ofNat, dif_pos hvalid]
            rfl
          refine Bool.eq_false_iff.mpr fun hsign => ?_
          rw [isSign, hcode] at hsign
          have himage := (inRanges_of_lookup? hlookup).2
          rw [not_inRanges_of_apart signs_apart.2 hsign] at himage
          cases himage
        · rw [Char.ofNat, dif_neg hvalid]
          decide

theorem lowerAt_ne_nil (before : Text) (c : Char) (behind : Text) :
    lowerAt before c behind ≠ [] := by
  rw [lowerAt]
  split
  · exact List.cons_ne_nil _ _
  · rw [lowerChar]
    split
    · exact List.cons_ne_nil _ _
    · split <;> exact List.cons_ne_nil _ _

/-! ## 3. Signs of a text -/

section Filter

variable {p : Char → Bool} (hp : ∀ c, p c = true → isSign c = true)
include hp

theorem filter_lowerBehind (before text : Text) :
    (lowerBehind before text).filter p = text.filter p := by
  induction text generalizing before with
  | nil => rfl
  | cons c text ih =>
    rw [lowerBehind, List.filter_append, ih]
    by_cases hc : p c = true
    · rw [lowerAt_of_sign (hp c hc), List.filter_cons_of_pos hc, List.filter_cons_of_pos hc]
      rfl
    · have hnone : (lowerAt before c text).filter p = [] := by
        refine List.filter_eq_nil_iff.mpr fun d hd hdp => hc ?_
        rw [← eq_of_mem_lowerAt hd (hp d hdp)]
        exact hdp
      rw [hnone, List.filter_cons_of_neg hc, List.nil_append]

/-- **Texts with the same lower-case form have the same signs.** -/
theorem filter_eq_of_lower_eq {text other : Text} (h : lower text = lower other) :
    text.filter p = other.filter p := by
  rw [← filter_lowerBehind hp [] text, ← filter_lowerBehind hp [] other]
  exact congrArg (List.filter p) h

end Filter

theorem mem_iff_of_lower_eq {text other : Text} (h : lower text = lower other) {c : Char}
    (hc : isSign c = true) : c ∈ text ↔ c ∈ other := by
  have hsigns : text.filter (· = c) = other.filter (· = c) :=
    filter_eq_of_lower_eq (fun d (hd : decide (d = c) = true) => of_decide_eq_true hd ▸ hc) h
  have hmem (chars : Text) : c ∈ chars ↔ c ∈ chars.filter (· = c) := by simp
  rw [hmem text, hmem other, hsigns]

theorem lower_eq_nil_iff {text : Text} : lower text = [] ↔ text = [] := by
  constructor
  · intro h
    cases text with
    | nil => rfl
    | cons c text => exact absurd (List.append_eq_nil_iff.mp h).1 (lowerAt_ne_nil [] c text)
  · rintro rfl
    rfl

/-- A sign at the start of a text is at the start of its lower-case form, and the other way
round. -/
theorem head?_lower {c : Char} (hc : isSign c = true) (text : Text) :
    (lower text).head? = some c ↔ text.head? = some c := by
  cases text with
  | nil => rfl
  | cons d text =>
    have hfirst : (lower (d :: text)).head? = (lowerAt [] d text).head? := by
      obtain ⟨first, rest, hlower⟩ := List.exists_cons_of_ne_nil (lowerAt_ne_nil [] d text)
      rw [lower, lowerBehind, hlower]
      rfl
    rw [hfirst, List.head?_cons, Option.some.injEq]
    constructor
    · exact fun h => (eq_of_mem_lowerAt (List.mem_of_head? h) hc).symm
    · rintro rfl
      rw [lowerAt_of_sign hc]
      rfl

/-- What the last character of a text is lowered to stands at the end. -/
theorem exists_lowerBehind_concat (before text : Text) (c : Char) :
    ∃ front behind, lowerBehind before (text ++ [c]) = front ++ lowerAt behind c [] := by
  induction text generalizing before with
  | nil => exact ⟨[], before, List.append_nil _⟩
  | cons d text ih =>
    obtain ⟨front, behind, hlower⟩ := ih (d :: before)
    refine ⟨lowerAt before d (text ++ [c]) ++ front, behind, ?_⟩
    rw [List.cons_append, lowerBehind, hlower, List.append_assoc]

/-- A sign at the end of a text is at the end of its lower-case form, and the other way round. -/
theorem getLast?_lower {c : Char} (hc : isSign c = true) (text : Text) :
    (lower text).getLast? = some c ↔ text.getLast? = some c := by
  rcases text.eq_nil_or_concat with rfl | ⟨front, d, rfl⟩
  · rfl
  · rw [List.concat_eq_append]
    obtain ⟨start, behind, hlower⟩ := exists_lowerBehind_concat [] front d
    have hlast : (lower (front ++ [d])).getLast? = (lowerAt behind d []).getLast? := by
      rw [lower, hlower, List.getLast?_append,
        List.getLast?_eq_some_getLast (lowerAt_ne_nil behind d [])]
      rfl
    rw [hlast, List.getLast?_concat, Option.some.injEq]
    constructor
    · exact fun h => (eq_of_mem_lowerAt (List.mem_of_getLast? h) hc).symm
    · rintro rfl
      rw [lowerAt_of_sign hc]
      rfl

theorem head?_iff_of_lower_eq {text other : Text} (h : lower text = lower other) {c : Char}
    (hc : isSign c = true) : text.head? = some c ↔ other.head? = some c := by
  rw [← head?_lower hc, h, head?_lower hc]

/-- **A text with the same lower-case form as a trimmed one is trimmed.** -/
theorem trim_eq_self_of_lower_eq {text other : Text} (h : lower other = lower text)
    (htext : trim text = text) : trim other = other := by
  refine trim_eq_self (fun c hc => ?_) fun c hc => ?_
  · refine Bool.eq_false_iff.mpr fun hblank => ?_
    have hhead := (head?_iff_of_lower_eq h (isSign_of_isBlank hblank)).mp hc
    rw [← htext] at hhead
    rw [trim_head_not_blank hhead] at hblank
    cases hblank
  · refine Bool.eq_false_iff.mpr fun hblank => ?_
    have hsign := isSign_of_isBlank hblank
    have hlast : text.getLast? = some c := by
      rw [← getLast?_lower hsign, ← h, getLast?_lower hsign]
      exact hc
    rw [← htext] at hlast
    rw [trim_last_not_blank hlast] at hblank
    cases hblank

/-! ## 4. Blanks behind a text -/

theorem blanks_apart :
    apart blankRanges caseIgnorableRanges = true ∧ apart blankRanges casedRanges = true := by
  decide +kernel

section Blanks

variable {gap : Text} (hgap : ∀ c ∈ gap, isBlank c = true)
include hgap

/-- Blanks behind a text are no letters. -/
theorem startsCased_append_blanks (text : Text) :
    startsCased (text ++ gap) = startsCased text := by
  induction text with
  | nil =>
    cases gap with
    | nil => rfl
    | cons c gap =>
      have hc := hgap c List.mem_cons_self
      have hignorable := not_inRanges_of_apart blanks_apart.1 hc
      have hcased := not_inRanges_of_apart blanks_apart.2 hc
      change startsCased (c :: gap) = false
      rw [startsCased, hignorable, if_neg Bool.false_ne_true, hcased]
  | cons c text ih => rw [List.cons_append, startsCased, startsCased, ih]

theorem lowerBehind_blanks (before : Text) : lowerBehind before gap = gap := by
  refine lowerBehind_of_lowered (fun c hc => ?_) before
  have hsign := isSign_of_isBlank (hgap c hc)
  have hsigma : c ≠ 'Σ' := ne_of_isSign hsign (by decide)
  have hlower := lowerAt_of_sign hsign [] []
  rw [lowerAt, if_neg hsigma] at hlower
  exact ⟨hsigma, hlower⟩

theorem lowerBehind_append_blanks (before text : Text) :
    lowerBehind before (text ++ gap) = lowerBehind before text ++ gap := by
  induction text generalizing before with
  | nil => exact lowerBehind_blanks hgap before
  | cons c text ih =>
    have hfirst : lowerAt before c (text ++ gap) = lowerAt before c text := by
      rw [lowerAt, lowerAt, startsCased_append_blanks hgap]
    rw [List.cons_append, lowerBehind, hfirst, ih, lowerBehind, List.append_assoc]

/-- **Blanks behind a text stay there when it is lowered**, and change nothing in it. -/
theorem lower_append_blanks (text : Text) : lower (text ++ gap) = lower text ++ gap :=
  lowerBehind_append_blanks hgap [] text

end Blanks

end Dispatch.Text
