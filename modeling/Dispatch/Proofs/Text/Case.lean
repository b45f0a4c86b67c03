import Dispatch.Text.Case

/-!
# Lower case is reached at once

No character of a lowered text has a lower-case form of its own (`loweredChar_of_mem`), neither one
of the table nor one of the two forms of a small sigma. So a lowered text is its own lower-case form
(`lower_lower`).
-/

namespace Dispatch.Text

/-- A character that lowering leaves as it is, wherever it stands. -/
def LoweredChar (c : Char) : Prop := c ≠ 'Σ' ∧ lowerChar c = [c]

instance (c : Char) : Decidable (LoweredChar c) :=
  inferInstanceAs (Decidable (c ≠ 'Σ' ∧ lowerChar c = [c]))

/-- The image of a code point is that of a run that holds the code point, as far from the first image
as the code point lies from the first one of the run. -/
theorem exists_run_of_lookup? {n image : Nat} {runs : List CaseRun}
    (h : CaseRun.lookup? n runs = some image) :
    ∃ run ∈ runs, run.first ≤ n ∧ n ≤ run.last ∧ (n - run.first) % run.step = 0 ∧
      image = run.image + (n - run.first) := by
  induction runs with
  | nil => cases h
  | cons run runs ih =>
    rw [CaseRun.lookup?] at h
    split at h
    · cases h
    · split at h
      · next hbefore hhere =>
        obtain ⟨hle, hstep⟩ := Bool.and_eq_true_iff.mp hhere
        have hle : n ≤ run.last := of_decide_eq_true hle
        have hstep : (n - run.first) % run.step = 0 := eq_of_beq hstep
        exact ⟨run, List.mem_cons_self, by omega, hle, hstep, (Option.some.inj h).symm⟩
      · obtain ⟨other, hother, hbounds⟩ := ih h
        exact ⟨other, List.mem_cons_of_mem _ hother, hbounds⟩

namespace CaseRun

/-- The images of the run lie behind another run, or that run holds every second code point and none
of the images. -/
def avoids (run other : CaseRun) : Bool :=
  Nat.blt other.last run.image
    || (Nat.beq (run.step % 2) 0 || Nat.beq run.first run.last)
      && (Nat.beq other.step 2 && Nat.beq ((run.image + other.first) % 2) 1)

/-- No image of the run is looked up in other runs. The look-up goes no further than to the first run
that starts behind the images. -/
def misses (run : CaseRun) : List CaseRun → Bool
  | [] => true
  | other :: others =>
    Nat.blt (run.image + (run.last - run.first)) other.first
      || run.avoids other && misses run others

theorem not_mem_of_avoids {run other : CaseRun} (h : run.avoids other = true) {i : Nat}
    (hi : i < run.last - run.first + 1) (hstep : i % run.step = 0)
    (hfirst : other.first ≤ run.image + i) :
    ¬(run.image + i ≤ other.last ∧ (run.image + i - other.first) % other.step = 0) := by
  rintro ⟨hlast, hother⟩
  rw [avoids, Bool.or_eq_true, Nat.blt_eq] at h
  rcases h with hbehind | hparity
  · omega
  · simp only [Bool.and_eq_true, Bool.or_eq_true, Nat.beq_eq] at hparity
    obtain ⟨heven, htwo, hodd⟩ := hparity
    have hi2 : i % 2 = 0 := by
      rcases heven with heven | hsingle
      · have hdvd : 2 ∣ i :=
          Nat.dvd_trans (Nat.dvd_of_mod_eq_zero heven) (Nat.dvd_of_mod_eq_zero hstep)
        omega
      · omega
    rw [htwo] at hother
    omega

theorem lookup?_of_misses {run : CaseRun} {runs : List CaseRun} (h : run.misses runs = true)
    {i : Nat} (hi : i < run.last - run.first + 1) (hstep : i % run.step = 0) :
    lookup? (run.image + i) runs = none := by
  induction runs with
  | nil => rfl
  | cons other others ih =>
    rw [lookup?]
    by_cases hbefore : run.image + i < other.first
    · rw [if_pos hbefore]
    · rw [misses, Bool.or_eq_true, Nat.blt_eq] at h
      rcases h with hends | h
      · omega
      · obtain ⟨hhere, hothers⟩ := Bool.and_eq_true_iff.mp h
        have hnot := not_mem_of_avoids hhere hi hstep (Nat.le_of_not_lt hbefore)
        rw [if_neg hbefore, if_neg (by simpa using hnot), ih hothers]

end CaseRun

/-- No image of the table is in the table, and none is the dotted capital. -/
theorem misses_lowerRuns : (lowerRuns.all fun run =>
    run.misses lowerRuns && run.misses [⟨'İ'.toNat, 'İ'.toNat, 1, 0⟩]) = true := by
  decide +kernel

/-- Every image of the table is lowered. -/
theorem loweredChar_images {run : CaseRun} (hrun : run ∈ lowerRuns) {i : Nat}
    (hi : i < run.last - run.first + 1) (hstep : i % run.step = 0) :
    LoweredChar (Char.ofNat (run.image + i)) := by
  have hmisses := List.all_eq_true.mp misses_lowerRuns run hrun
  obtain ⟨htable, hdotted⟩ := Bool.and_eq_true_iff.mp hmisses
  have hlookup := CaseRun.lookup?_of_misses htable hi hstep
  have hdotless := CaseRun.lookup?_of_misses hdotted hi hstep
  by_cases hvalid : (run.image + i).isValidChar
  · have hcode : (Char.ofNat (run.image + i)).toNat = run.image + i := by
      rw [Char.ofNat, dif_pos hvalid]
      rfl
    have hsigma : Char.ofNat (run.image + i) ≠ 'Σ' := by
      intro heq
      rw [heq] at hcode
      rw [← hcode] at hlookup
      revert hlookup
      decide +kernel
    have hdot : Char.ofNat (run.image + i) ≠ 'İ' := by
      intro heq
      rw [heq] at hcode
      rw [← hcode] at hdotless
      revert hdotless
      decide +kernel
    refine ⟨hsigma, ?_⟩
    rw [lowerChar, if_neg hdot, hcode, hlookup]
  · have hzero : Char.ofNat (run.image + i) = '\x00' := by
      rw [Char.ofNat, dif_neg hvalid]
      rfl
    rw [hzero]
    decide +kernel

/-- **What a character is lowered to is lowered.** -/
theorem loweredChar_of_mem {before behind : Text} {c d : Char} (h : d ∈ lowerAt before c behind) :
    LoweredChar d := by
  rw [lowerAt] at h
  split at h
  · rw [List.mem_singleton.mp h]
    split
    · decide +kernel
    · decide +kernel
  · next hsigma =>
    rw [lowerChar] at h
    split at h
    · rcases List.mem_cons.mp h with rfl | h
      · decide +kernel
      · rw [List.mem_singleton.mp h]
        decide +kernel
    · next hdot =>
      cases hlookup : CaseRun.lookup? c.toNat lowerRuns with
      | none =>
        rw [hlookup] at h
        obtain rfl := List.mem_singleton.mp h
        refine ⟨hsigma, ?_⟩
        rw [lowerChar, if_neg hdot, hlookup]
      | some image =>
        rw [hlookup] at h
        obtain ⟨run, hrun, hfirst, hlast, hstep, rfl⟩ := exists_run_of_lookup? hlookup
        rw [List.mem_singleton.mp h]
        exact loweredChar_images hrun (by omega) hstep

/-- A text of lowered characters stays as it is. -/
theorem lowerBehind_of_lowered {text : Text} (h : ∀ c ∈ text, LoweredChar c) (before : Text) :
    lowerBehind before text = text := by
  induction text generalizing before with
  | nil => rfl
  | cons c text ih =>
    obtain ⟨hsigma, hchar⟩ := h c List.mem_cons_self
    have hrest := ih (fun d hd => h d (List.mem_cons_of_mem _ hd)) (c :: before)
    rw [lowerBehind, lowerAt, if_neg hsigma, hchar, hrest]
    rfl

theorem loweredChar_of_mem_lowerBehind {before text : Text} {c : Char}
    (h : c ∈ lowerBehind before text) : LoweredChar c := by
  induction text generalizing before with
  | nil => exact absurd h List.not_mem_nil
  | cons d text ih =>
    rcases List.mem_append.mp h with hhere | hrest
    · exact loweredChar_of_mem hhere
    · exact ih hrest

/-- **Lowering a second time changes nothing.** -/
theorem lower_lower (text : Text) : lower (lower text) = lower text :=
  lowerBehind_of_lowered (fun _ => loweredChar_of_mem_lowerBehind) []

end Dispatch.Text
