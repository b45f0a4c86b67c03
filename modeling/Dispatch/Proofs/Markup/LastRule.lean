import Mathlib.Data.List.Forall2
import Dispatch.Markup.Registry
import Dispatch.Markup.TagParser
import Dispatch.Proofs.Dict
import Dispatch.Proofs.Text.Case

/-!
# The last rule of a name

Parsers are built from rows in which names may stand several times: declarations, settings. A row
is gone through up to the first element that is not as it should be (`all_or_first_not`). The
last element of a name is the first one from the end (`lastOf_iff`), every name has one
(`exists_lastOf`), and what is made of the elements one by one has its last elements at the same
places (`LastOf.exists_image`). Rules that are put into a new parser one after another leave the
last rule of every name (`TagParser.get?_insertAll`).
-/

namespace Dispatch.Markup

/-! ## 1. Elements in a row -/

section Row

variable {α β : Type}

/-- All elements have a property, or there is a first one without it. -/
theorem all_or_first_not (property : α → Prop) (elements : List α) :
    (∀ element ∈ elements, property element) ∨
      ∃ before element after, elements = before ++ element :: after ∧
        (∀ other ∈ before, property other) ∧ ¬property element := by
  induction elements with
  | nil => exact Or.inl fun _ hmem => absurd hmem List.not_mem_nil
  | cons element rest ih =>
    by_cases helement : property element
    · rcases ih with hall | ⟨before, first, after, rfl, hbefore, hnot⟩
      · exact Or.inl (List.forall_mem_cons.mpr ⟨helement, hall⟩)
      · exact Or.inr ⟨element :: before, first, after, rfl,
          List.forall_mem_cons.mpr ⟨helement, hbefore⟩, hnot⟩
    · exact Or.inr ⟨[], element, rest, rfl, fun _ hmem => absurd hmem List.not_mem_nil, helement⟩

/-- What can be made of every element can be made of all in a row. -/
theorem exists_forall₂ {R : α → β → Prop} {elements : List α}
    (h : ∀ element ∈ elements, ∃ image, R element image) :
    ∃ images, List.Forall₂ R elements images := by
  induction elements with
  | nil => exact ⟨[], .nil⟩
  | cons element rest ih =>
    obtain ⟨⟨image, himage⟩, hrest⟩ := List.forall_mem_cons.mp h
    obtain ⟨images, hall⟩ := ih hrest
    exact ⟨image :: images, .cons himage hall⟩

theorem exists_of_mem_images {R : α → β → Prop} {elements : List α} {images : List β}
    (h : List.Forall₂ R elements images) {image : β} (hmem : image ∈ images) :
    ∃ element ∈ elements, R element image := by
  induction h with
  | nil => exact absurd hmem List.not_mem_nil
  | @cons element first elements images hfirst _ ih =>
    rcases List.mem_cons.mp hmem with rfl | hmem
    · exact ⟨element, List.mem_cons_self, hfirst⟩
    · obtain ⟨other, hother, hR⟩ := ih hmem
      exact ⟨other, List.mem_cons_of_mem _ hother, hR⟩

end Row

/-! ## 2. The last element of a name -/

section LastOf

variable {α β : Type} {name : α → Text}

/-- The element is the last one of its name. -/
def LastOf (name : α → Text) (elements : List α) (element : α) : Prop :=
  ∃ before after, elements = before ++ element :: after ∧
    ∀ later ∈ after, name later ≠ name element

theorem LastOf.mem {elements : List α} {element : α} (h : LastOf name elements element) :
    element ∈ elements := by
  obtain ⟨before, after, rfl, -⟩ := h
  exact List.mem_append_right _ List.mem_cons_self

theorem lastOf_iff {elements : List α} {element : α} :
    LastOf name elements element ↔
      elements.reverse.find? (fun other => name other = name element) = some element := by
  rw [List.find?_eq_some_iff_append]
  constructor
  · rintro ⟨before, after, rfl, hlater⟩
    refine ⟨decide_eq_true rfl, after.reverse, before.reverse, by simp, fun other h => ?_⟩
    simpa using hlater other (List.mem_reverse.mp h)
  · rintro ⟨-, after, before, hsplit, hlater⟩
    refine ⟨before.reverse, after.reverse, ?_, fun later h => ?_⟩
    · rw [← List.reverse_reverse elements, hsplit]
      simp
    · simpa using hlater later (List.mem_reverse.mp h)

/-- Every name of an element has a last element. -/
theorem exists_lastOf {elements : List α} {element : α} (h : element ∈ elements) :
    ∃ last, LastOf name elements last ∧ name last = name element := by
  have hsome : (elements.reverse.find? fun other => name other = name element).isSome = true :=
    List.find?_isSome.mpr ⟨element, List.mem_reverse.mpr h, decide_eq_true rfl⟩
  obtain ⟨last, hlast⟩ := Option.isSome_iff_exists.mp hsome
  have hname : name last = name element := by simpa using List.find?_some hlast
  rw [← hname] at hlast
  exact ⟨last, lastOf_iff.mpr hlast, hname⟩

theorem lastOf_concat {elements : List α} {last element : α} :
    LastOf name (elements ++ [last]) element ↔
      element = last ∨ LastOf name elements element ∧ name element ≠ name last := by
  rw [lastOf_iff, lastOf_iff, List.reverse_concat]
  by_cases hname : name last = name element
  · rw [List.find?_cons_of_pos (by simpa using hname)]
    simp [hname, eq_comm]
  · have hne : element ≠ last := fun he => hname (congrArg name he.symm)
    rw [List.find?_cons_of_neg (by simpa using hname)]
    simp [hne, Ne.symm hname]

/-- If no name stands twice, every element is the last one of its name. -/
theorem lastOf_of_nodup {elements : List α} (h : (elements.map name).Nodup) {element : α}
    (hmem : element ∈ elements) : LastOf name elements element := by
  obtain ⟨before, after, rfl⟩ := List.append_of_mem hmem
  rw [List.map_append, List.map_cons] at h
  have hfirst := (List.nodup_cons.mp (List.nodup_append.mp h).2.1).1
  exact ⟨before, after, rfl, fun later hlater he => hfirst (he ▸ List.mem_map_of_mem hlater)⟩

theorem LastOf.unique {elements : List α} {element other : α} (h : LastOf name elements element)
    (hother : LastOf name elements other) (hname : name element = name other) :
    element = other := by
  have hfind := lastOf_iff.mp h
  rw [hname, lastOf_iff.mp hother] at hfind
  exact (Option.some.inj hfind).symm

variable {key : β → Text} {R : α → β → Prop} (hR : ∀ a b, R a b → key b = name a)
include hR

theorem map_eq_of_forall₂ {elements : List α} {images : List β}
    (hall : List.Forall₂ R elements images) : images.map key = elements.map name := by
  induction hall with
  | nil => rfl
  | cons hfirst _ ih => rw [List.map_cons, List.map_cons, hR _ _ hfirst, ih]

theorem find?_of_forall₂ {elements : List α} {images : List β}
    (hall : List.Forall₂ R elements images) {text : Text} {element : α}
    (h : elements.find? (fun other => name other = text) = some element) :
    ∃ image, R element image ∧ images.find? (fun other => key other = text) = some image := by
  induction hall with
  | nil => cases h
  | @cons first image _ _ hfirst _ ih =>
    by_cases hname : name first = text
    · rw [List.find?_cons_of_pos (by simpa using hname)] at h
      obtain rfl := Option.some.inj h
      exact ⟨image, hfirst, List.find?_cons_of_pos (by simpa [hR _ _ hfirst] using hname)⟩
    · rw [List.find?_cons_of_neg (by simpa using hname)] at h
      rw [List.find?_cons_of_neg (by simpa [hR _ _ hfirst] using hname)]
      exact ih h

/-- What is made of the last element of a name is the last image of the name. -/
theorem LastOf.exists_image {elements : List α} {element : α} (h : LastOf name elements element)
    {images : List β} (hall : List.Forall₂ R elements images) :
    ∃ image, R element image ∧ LastOf key images image := by
  have hlast := lastOf_iff.mp h
  obtain ⟨image, himage, hfind⟩ := find?_of_forall₂ hR (List.rel_reverse hall) hlast
  rw [← hR _ _ himage] at hfind
  exact ⟨image, himage, lastOf_iff.mpr hfind⟩

end LastOf

/-! ## 3. Rules put in one after another -/

/-- A normal name is its own lower-case form. -/
theorem lower_normalName (tag : String) : Text.lower (normalName tag) = normalName tag :=
  Text.lower_lower _

namespace TagParser

/-- The parser with some rules put in, one after another. -/
def insertAll (parser : TagParser) (rows : List (Text × Rule)) : TagParser :=
  rows.foldl (fun parser (tag, rule) => parser.insert tag rule.options rule.formatter) parser

theorem insertAll_cons (parser : TagParser) (tag : Text) (rule : Rule) (rows : List (Text × Rule)) :
    parser.insertAll ((tag, rule) :: rows) =
      (parser.insert tag rule.options rule.formatter).insertAll rows := rfl

variable {rows : List (Text × Rule)}

/-- The rules of a parser that names in lower case are put into are a dictionary of them. -/
theorem rules_insertAll (hlower : ∀ row ∈ rows, Text.lower row.1 = row.1) :
    (insertAll {} rows).rules = Dict.ofList rows := by
  have hfold (parser : TagParser) : (parser.insertAll rows).rules =
      rows.foldl (fun rules row => Dict.insert row.1 row.2 rules) parser.rules := by
    induction rows generalizing parser with
    | nil => rfl
    | cons row rows ih =>
      obtain ⟨hrow, hrows⟩ := List.forall_mem_cons.mp hlower
      rw [insertAll_cons, ih hrows, insert, hrow]
      rfl
  exact hfold {}

theorem history_insertAll (rows : List (Text × Rule)) : (insertAll {} rows).history = [] := by
  have hfold (parser : TagParser) (hnone : parser.history = []) :
      (parser.insertAll rows).history = [] := by
    induction rows generalizing parser with
    | nil => exact hnone
    | cons row rows ih =>
      refine ih _ ?_
      change parser.history.filter _ = []
      rw [hnone, List.filter_nil]
  exact hfold {} rfl

theorem mem_tagNames_insertAll (hlower : ∀ row ∈ rows, Text.lower row.1 = row.1) (name : Text) :
    name ∈ (insertAll {} rows).tagNames ↔ name ∈ rows.map (·.1) := by
  rw [tagNames, ← Dict.contains_iff_mem_keys, rules_insertAll hlower, Dict.contains,
    Dict.get?_ofList]
  change Dict.contains name rows.reverse = true ↔ _
  rw [Dict.contains_iff_mem_keys, Dict.keys, List.map_reverse, List.mem_reverse]

/-- **The rule of a name is the last one that was put in.** -/
theorem get?_insertAll (hlower : ∀ row ∈ rows, Text.lower row.1 = row.1) {row : Text × Rule}
    (h : LastOf Prod.fst rows row) : Dict.get? row.1 (insertAll {} rows).rules = some row.2 := by
  obtain ⟨before, after, hsplit, hlater⟩ := h
  have hnone : Dict.get? row.1 after.reverse = none := by
    rw [Dict.get?_eq_none_iff, Dict.keys, List.map_reverse, List.mem_reverse]
    rintro hmem
    obtain ⟨later, hmem, hname⟩ := List.mem_map.mp hmem
    exact hlater later hmem hname
  rw [rules_insertAll hlower, Dict.get?_ofList, hsplit, List.reverse_append, List.reverse_cons,
    List.append_assoc, Dict.get?_append, hnone, Option.none_or, List.singleton_append]
  exact if_pos rfl

end TagParser

end Dispatch.Markup
