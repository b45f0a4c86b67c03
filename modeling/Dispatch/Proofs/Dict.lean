import Mathlib.Data.List.Sort
import Dispatch.Dict

/-!
# Dictionaries in ascending order

A dictionary that is built by insertions has its keys in ascending order (`ascending_ofList`). In
such a dictionary the entries are what is looked up (`Ascending.get?_eq_some_iff`), so two of them
with the same values under all keys are the same (`Ascending.ext`), and a key that is there is given
a new value in its place (`Ascending.insert_of_mem`). Overriding one dictionary by another, key by
key, is associative (`Ascending.override_override`).
-/

namespace Dispatch.Dict

variable {κ α : Type} [DecidableEq κ] [LT κ] [DecidableLT κ]

omit [DecidableEq κ] [DecidableLT κ] in
/-- The keys are in ascending order, so each stands once. -/
def Ascending (entries : Dict κ α) : Prop := entries.Pairwise fun entry later => entry.1 < later.1

instance (entries : Dict κ α) : Decidable entries.Ascending :=
  inferInstanceAs (Decidable (entries.Pairwise fun entry later => entry.1 < later.1))

/-! ## 1. Entries and what is looked up -/

theorem mem_of_mem_insert {key : κ} {value : α} {entries : Dict κ α} {entry : κ × α}
    (h : entry ∈ insert key value entries) : entry = (key, value) ∨ entry ∈ entries := by
  induction entries with
  | nil => exact Or.inl (List.mem_singleton.mp h)
  | cons first rest ih =>
    obtain ⟨k, a⟩ := first
    rw [insert] at h
    split at h
    · rcases List.mem_cons.mp h with rfl | h
      · exact Or.inl rfl
      · exact Or.inr (List.mem_cons_of_mem _ h)
    · split at h
      · exact List.mem_cons.mp h
      · rcases List.mem_cons.mp h with rfl | h
        · exact Or.inr List.mem_cons_self
        · exact (ih h).imp_right (List.mem_cons_of_mem _)

omit [LT κ] [DecidableLT κ] in
theorem mem_of_get? {key : κ} {value : α} {entries : Dict κ α} (h : get? key entries = some value) :
    (key, value) ∈ entries := by
  induction entries with
  | nil => cases h
  | cons entry rest ih =>
    rw [get?_cons] at h
    split at h
    · next hkey =>
      rw [hkey, ← Option.some.inj h]
      exact List.mem_cons_self
    · exact List.mem_cons_of_mem _ (ih h)

omit [LT κ] [DecidableLT κ] in
theorem get?_append (key : κ) (entries others : Dict κ α) :
    get? key (entries ++ others) = (get? key entries).or (get? key others) := by
  induction entries with
  | nil => rfl
  | cons entry rest ih =>
    rw [List.cons_append, get?_cons, get?_cons]
    split
    · rfl
    · exact ih

omit [LT κ] [DecidableLT κ] in
theorem get?_eq_none_iff {key : κ} {entries : Dict κ α} :
    get? key entries = none ↔ key ∉ keys entries := by
  rw [← contains_iff_mem_keys, contains, Bool.not_eq_true, Option.isSome_eq_false_iff,
    Option.isNone_iff_eq_none]

theorem mem_keys_insert {key other : κ} {value : α} {entries : Dict κ α} :
    other ∈ keys (insert key value entries) ↔ other = key ∨ other ∈ keys entries := by
  rw [← contains_iff_mem_keys, ← contains_iff_mem_keys, contains, contains, get?_insert]
  split
  · next hkey => exact iff_of_true rfl (Or.inl hkey)
  · next hkey => exact (or_iff_right hkey).symm

omit [LT κ] [DecidableLT κ] in
/-- Values that are changed under their keys. -/
theorem get?_map {β : Type} (f : κ → α → β) (key : κ) (entries : Dict κ α) :
    get? key (entries.map fun (k, a) => (k, f k a)) = (get? key entries).map (f key) := by
  induction entries with
  | nil => rfl
  | cons entry entries ih =>
    obtain ⟨k, a⟩ := entry
    rw [List.map_cons, get?_cons, get?_cons]
    by_cases hkey : key = k
    · subst hkey
      rw [if_pos rfl, if_pos rfl, Option.map_some]
    · rw [if_neg hkey, if_neg hkey]
      exact ih

/-! ## 2. Dictionaries in order -/

section Order

variable [LE κ] [Std.IsLinearOrder κ] [Std.LawfulOrderLT κ]

/-- **An insertion keeps the order.** -/
theorem Ascending.insert {entries : Dict κ α} (h : entries.Ascending) (key : κ) (value : α) :
    (Dict.insert key value entries).Ascending := by
  induction entries with
  | nil => exact List.pairwise_singleton _ _
  | cons first rest ih =>
    obtain ⟨k, a⟩ := first
    obtain ⟨hfirst, hrest⟩ := List.pairwise_cons.mp h
    rw [Dict.insert]
    split
    · next hkey =>
      subst hkey
      exact List.pairwise_cons.mpr ⟨hfirst, hrest⟩
    · next hne =>
      split
      · next hless =>
        refine List.pairwise_cons.mpr ⟨fun entry hentry => ?_, h⟩
        rcases List.mem_cons.mp hentry with rfl | hentry
        · exact hless
        · exact Std.lt_trans hless (hfirst entry hentry)
      · next hnot =>
        refine List.pairwise_cons.mpr ⟨fun entry hentry => ?_, ih hrest⟩
        rcases mem_of_mem_insert hentry with rfl | hentry
        · exact Std.lt_of_le_of_ne (Std.not_lt.mp hnot) fun he => hne he.symm
        · exact hfirst entry hentry

theorem Ascending.override {entries : Dict κ α} (h : entries.Ascending) (newer : Dict κ α) :
    (Dict.override entries newer).Ascending := by
  induction newer generalizing entries with
  | nil => exact h
  | cons entry rest ih => exact ih (h.insert entry.1 entry.2)

/-- **A dictionary built by insertions is in order.** -/
theorem ascending_ofList (entries : List (κ × α)) : (ofList entries).Ascending :=
  Ascending.override List.Pairwise.nil entries

omit [DecidableLT κ] [Std.IsLinearOrder κ] in
theorem Ascending.get?_eq_some_iff {entries : Dict κ α} (h : entries.Ascending) {key : κ}
    {value : α} : get? key entries = some value ↔ (key, value) ∈ entries := by
  refine ⟨mem_of_get?, fun hmem => ?_⟩
  induction entries with
  | nil => cases hmem
  | cons first rest ih =>
    obtain ⟨hfirst, hrest⟩ := List.pairwise_cons.mp h
    rw [get?_cons]
    rcases List.mem_cons.mp hmem with rfl | hmem
    · exact if_pos rfl
    · rw [if_neg fun he => Std.lt_irrefl (he ▸ hfirst _ hmem), ih hrest hmem]

/-- **A key that is there gets its new value in its place.** -/
theorem Ascending.insert_of_mem {entries : Dict κ α} (h : entries.Ascending) {key : κ}
    (hkey : key ∈ keys entries) (value : α) :
    Dict.insert key value entries =
      entries.map fun entry => if entry.1 = key then (key, value) else entry := by
  induction entries with
  | nil => cases hkey
  | cons first rest ih =>
    obtain ⟨k, a⟩ := first
    obtain ⟨hfirst, hrest⟩ := List.pairwise_cons.mp h
    rw [Dict.insert, List.map_cons]
    by_cases hsame : key = k
    · subst hsame
      have hothers : rest.map (fun entry => if entry.1 = key then (key, value) else entry) =
          rest.map id :=
        List.map_congr_left fun entry hentry =>
          if_neg fun he => Std.lt_irrefl (he ▸ hfirst entry hentry)
      rw [if_pos rfl, if_pos rfl, hothers, List.map_id]
    · have hmem : key ∈ keys rest := (List.mem_cons.mp hkey).resolve_left hsame
      obtain ⟨entry, hentry, rfl⟩ := List.mem_map.mp hmem
      have hnot : ¬entry.1 < k := fun hless =>
        Std.lt_irrefl (Std.lt_trans hless (hfirst entry hentry))
      rw [if_neg hsame, if_neg hnot, if_neg (Ne.symm hsame), ih hrest hmem]

/-- The value under a key is changed in its place. -/
theorem Ascending.insert_eq_map {entries : Dict κ α} (h : entries.Ascending) {key : κ} {value : α}
    (hkey : get? key entries = some value) (f : α → α) :
    Dict.insert key (f value) entries =
      entries.map fun (k, a) => (k, if k = key then f a else a) := by
  have hmem : key ∈ keys entries := List.mem_map_of_mem (mem_of_get? hkey)
  rw [h.insert_of_mem hmem]
  refine List.map_congr_left ?_
  rintro ⟨k, a⟩ hentry
  by_cases hsame : k = key
  · subst hsame
    obtain rfl : value = a := Option.some.inj (hkey.symm.trans (h.get?_eq_some_iff.mpr hentry))
    rw [if_pos rfl]
    exact congrArg (Prod.mk k) (if_pos rfl).symm
  · rw [if_neg hsame]
    exact congrArg (Prod.mk k) (if_neg hsame).symm

omit [DecidableLT κ] in
/-- **The values under the keys make the dictionary.** -/
theorem Ascending.ext {entries others : Dict κ α} (h : entries.Ascending)
    (hothers : others.Ascending) (hget : ∀ key, get? key entries = get? key others) :
    entries = others := by
  let before : κ × α → κ × α → Prop := fun entry later => entry.1 < later.1
  have : Std.Irrefl before := ⟨fun _ => Std.lt_irrefl⟩
  have : Std.Antisymm before := ⟨fun _ _ h h' => absurd (Std.lt_trans h h') Std.lt_irrefl⟩
  refine List.Pairwise.eq_of_mem_iff h hothers fun entry => ?_
  rw [← h.get?_eq_some_iff, ← hothers.get?_eq_some_iff, hget]

omit [DecidableLT κ] [Std.IsLinearOrder κ] in
theorem Ascending.get?_reverse {entries : Dict κ α} (h : entries.Ascending) (key : κ) :
    get? key entries.reverse = get? key entries := by
  have hmem {value : α} (hvalue : get? key entries.reverse = some value) :
      get? key entries = some value :=
    h.get?_eq_some_iff.mpr (List.mem_reverse.mp (mem_of_get? hvalue))
  cases hvalue : get? key entries.reverse with
  | some value => exact (hmem hvalue).symm
  | none =>
    rw [get?_eq_none_iff, keys, List.map_reverse, List.mem_reverse] at hvalue
    exact (get?_eq_none_iff.mpr hvalue).symm

theorem Ascending.ofList_eq {entries : Dict κ α} (h : entries.Ascending) :
    ofList entries = entries :=
  (ascending_ofList entries).ext h fun key => by rw [get?_ofList, h.get?_reverse]

/-! ## 3. Overriding -/

omit [LE κ] [Std.IsLinearOrder κ] [Std.LawfulOrderLT κ] in
/-- The newer dictionary decides on its own keys. -/
theorem get?_override (key : κ) (entries newer : Dict κ α) :
    get? key (override entries newer) = (get? key (ofList newer)).or (get? key entries) := by
  rw [get?_ofList, override, List.foldl_eq_foldr_reverse]
  induction newer.reverse with
  | nil => rfl
  | cons entry rest ih =>
    rw [List.foldr_cons, get?_insert, ih, get?_cons]
    split <;> rfl

/-- **Overriding is associative.** -/
theorem Ascending.override_override {entries between : Dict κ α} (h : entries.Ascending)
    (hbetween : between.Ascending) (newer : Dict κ α) :
    Dict.override entries (Dict.override between newer) =
      Dict.override (Dict.override entries between) newer := by
  refine (h.override _).ext ((h.override _).override _) fun key => ?_
  rw [get?_override, (hbetween.override newer).ofList_eq, get?_override, get?_override,
    get?_override, hbetween.ofList_eq, Option.or_assoc]

end Order

end Dispatch.Dict
