/-!
# Dictionaries

A dictionary is a list of entries. Insertion keeps the keys in ascending order and replaces the
value of a key that is there, so a dictionary built by insertions lists every key once, in order.
The two look-up equations (`get?_insert_self`, `get?_insert_of_ne`) hold of any list of entries.
-/

namespace Dispatch

/-- Entries under keys, in ascending order of the keys. -/
abbrev Dict (κ : Type) (α : Type) := List (κ × α)

namespace Dict

variable {κ α β : Type} [DecidableEq κ] [LT κ] [DecidableLT κ]

/-! ## 1. Look-up and insertion -/

omit [LT κ] [DecidableLT κ] in
/-- The value under a key. -/
def get? (key : κ) : Dict κ α → Option α
  | [] => none
  | (k, a) :: rest => if key = k then some a else get? key rest

omit [LT κ] [DecidableLT κ] in
/-- Whether a key has a value. -/
def contains (key : κ) (entries : Dict κ α) : Bool := (get? key entries).isSome

/-- Puts a value under a key, in place of the value that the key had. -/
def insert (key : κ) (value : α) : Dict κ α → Dict κ α
  | [] => [(key, value)]
  | (k, a) :: rest =>
    if key = k then (key, value) :: rest
    else if key < k then (key, value) :: (k, a) :: rest
    else (k, a) :: insert key value rest

/-- The dictionary of a list of entries, in which the last entry of a key wins. -/
def ofList (entries : List (κ × α)) : Dict κ α :=
  entries.foldl (fun dict entry => insert entry.1 entry.2 dict) []

/-- The first dictionary overridden key by key by the second. -/
def override (entries newer : Dict κ α) : Dict κ α :=
  newer.foldl (fun dict entry => insert entry.1 entry.2 dict) entries

omit [LT κ] [DecidableLT κ] in
/-- The dictionary without a key. -/
def erase (key : κ) (entries : Dict κ α) : Dict κ α := entries.filter fun entry => entry.1 ≠ key

/-- The keys, in the order of the entries. -/
def keys (entries : Dict κ α) : List κ := entries.map (·.1)

/-! ## 2. Laws of look-up -/

omit [LT κ] [DecidableLT κ] in
@[simp] theorem get?_nil (key : κ) : get? key ([] : Dict κ α) = none := rfl

omit [LT κ] [DecidableLT κ] in
theorem get?_cons (key k : κ) (a : α) (rest : Dict κ α) :
    get? key ((k, a) :: rest) = if key = k then some a else get? key rest := rfl

@[simp] theorem get?_insert_self (key : κ) (value : α) (entries : Dict κ α) :
    get? key (insert key value entries) = some value := by
  induction entries with
  | nil => simp [insert, get?]
  | cons entry rest ih =>
    obtain ⟨k, a⟩ := entry
    simp only [insert]
    split
    · simp [get?]
    · split
      · simp [get?]
      · next h _ => simp [get?, h, ih]

theorem get?_insert_of_ne {key other : κ} (h : other ≠ key) (value : α) (entries : Dict κ α) :
    get? other (insert key value entries) = get? other entries := by
  induction entries with
  | nil => simp [insert, get?, h]
  | cons entry rest ih =>
    obtain ⟨k, a⟩ := entry
    simp only [insert]
    split
    · next hk => subst hk; simp [get?, h]
    · split
      · simp [get?, h]
      · simp [get?, ih]

theorem get?_insert (key other : κ) (value : α) (entries : Dict κ α) :
    get? other (insert key value entries) =
      if other = key then some value else get? other entries := by
  by_cases h : other = key
  · subst h; simp
  · simp [h, get?_insert_of_ne h]

/-- In a dictionary made of a list of entries, a key has the value of its last entry. -/
theorem get?_ofList (key : κ) (entries : List (κ × α)) :
    get? key (ofList entries) = get? key entries.reverse := by
  rw [ofList, List.foldl_eq_foldr_reverse]
  induction entries.reverse with
  | nil => rfl
  | cons entry rest ih => rw [List.foldr_cons, get?_insert, ih, get?_cons]

theorem ofList_eq_nil_iff (entries : List (κ × α)) : ofList entries = [] ↔ entries = [] := by
  refine ⟨fun h => ?_, by rintro rfl; rfl⟩
  rcases List.eq_nil_or_concat entries with hnil | ⟨front, last, hsplit⟩
  · exact hnil
  · have hlast : get? last.1 (ofList entries) = some last.2 := by
      rw [get?_ofList, hsplit, List.concat_eq_append, List.reverse_append]
      exact if_pos rfl
    rw [h, get?_nil] at hlast
    cases hlast

omit [LT κ] [DecidableLT κ] in
theorem contains_iff_mem_keys (key : κ) (entries : Dict κ α) :
    contains key entries = true ↔ key ∈ keys entries := by
  induction entries with
  | nil => simp [contains, keys]
  | cons entry rest ih =>
    obtain ⟨k, a⟩ := entry
    by_cases h : key = k
    · simp [contains, get?, keys, h]
    · simpa [contains, get?, keys, h] using ih

end Dict

end Dispatch
