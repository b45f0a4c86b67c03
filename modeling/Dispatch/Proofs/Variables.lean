import Mathlib.Data.List.Forall2
import Mathlib.Data.List.Induction
import Dispatch.Proofs.Dict
import Dispatch.Settings

/-!
# The variables of several files

A file of variables gives variables, perhaps none, or it cannot be used (`gives_or_faulty`). Files
are loaded up to the first that cannot be used, and otherwise each overrides those before it
(`loadVariablesOver_of_gives`, `loadVariablesOver_of_firstFault`). As overriding is associative,
files in a row may be loaded in two parts. All of it holds with any readers of the texts. Main
statement: `loadVariables_append`.
-/

namespace Dispatch

/-! ## 1. What a file gives -/

/-- The variables that a file gives; none if the file is blank or holds a null. -/
inductive GivesVariables (read : Readers) (tree : FileTree) (path : Path) : Context → Prop
  | blank {text : String} (htext : tree.readText path = .ok text)
    (hblank : Text.isBlankText text.toList = true) : GivesVariables read tree path []
  | null {text : String} (htext : tree.readText path = .ok text)
    (hblank : Text.isBlankText text.toList = false)
    (hread : read (FileFormat.ofPath path) text.toList = .ok .null) :
    GivesVariables read tree path []
  | table {text : String} {fields : Context} (htext : tree.readText path = .ok text)
    (hblank : Text.isBlankText text.toList = false)
    (hread : read (FileFormat.ofPath path) text.toList = .ok (.table fields)) :
    GivesVariables read tree path (Dict.ofList fields)

/-- Why a file of variables cannot be used. -/
inductive FaultyFile (read : Readers) (tree : FileTree) (path : Path) : RenderError → Prop
  | missing (htext : tree.readText path = .error .notFound) :
    FaultyFile read tree path (.varsNotFound path)
  | unreadable {failure : OsError} (htext : tree.readText path = .error failure)
    (hfailure : failure ≠ .notFound) : FaultyFile read tree path (.io path failure)
  | malformed {text reason : String} (htext : tree.readText path = .ok text)
    (hblank : Text.isBlankText text.toList = false)
    (hread : read (FileFormat.ofPath path) text.toList = .error reason) :
    FaultyFile read tree path (.parse path (.malformed reason))
  | notTable {text : String} {value : Value} (htext : tree.readText path = .ok text)
    (hblank : Text.isBlankText text.toList = false)
    (hread : read (FileFormat.ofPath path) text.toList = .ok value) (hnull : value ≠ .null)
    (htable : ∀ fields : Context, value ≠ .table fields) :
    FaultyFile read tree path (.parse path .notTable)

section File

variable {read : Readers} {tree : FileTree} {path : Path}

theorem require_of_ok {text : String} (h : tree.readText path = .ok text) (missing : RenderError) :
    tree.require path missing = .ok text := by
  rw [FileTree.require, h]

theorem require_of_unreadable {failure : OsError} (h : tree.readText path = .error failure)
    (hfailure : failure ≠ .notFound) (missing : RenderError) :
    tree.require path missing = .error (.io path failure) := by
  rw [FileTree.require, h]
  cases failure with
  | notFound => exact absurd rfl hfailure
  | _ => rfl

/-- **A file gives variables or cannot be used.** -/
theorem gives_or_faulty (read : Readers) (tree : FileTree) (path : Path) :
    (∃ given, GivesVariables read tree path given) ∨
      ∃ failure, FaultyFile read tree path failure := by
  cases htext : tree.readText path with
  | error failure =>
    by_cases hfailure : failure = .notFound
    · subst hfailure
      exact Or.inr ⟨_, .missing htext⟩
    · exact Or.inr ⟨_, .unreadable htext hfailure⟩
  | ok text =>
    cases hblank : Text.isBlankText text.toList with
    | true => exact Or.inl ⟨_, .blank htext hblank⟩
    | false =>
      cases hread : read (FileFormat.ofPath path) text.toList with
      | error reason => exact Or.inr ⟨_, .malformed htext hblank hread⟩
      | ok value =>
        cases value with
        | null => exact Or.inl ⟨_, .null htext hblank hread⟩
        | table fields => exact Or.inl ⟨_, .table htext hblank hread⟩
        | _ =>
          exact Or.inr ⟨_, .notTable htext hblank hread (fun h => nomatch h) fun _ h => nomatch h⟩

theorem GivesVariables.ascending {given : Context} (h : GivesVariables read tree path given) :
    given.Ascending := by
  cases h with
  | blank => exact List.Pairwise.nil
  | null => exact List.Pairwise.nil
  | table => exact Dict.ascending_ofList _

/-- A file that gives variables is loaded over those of earlier files. -/
theorem GivesVariables.load {given : Context} (h : GivesVariables read tree path given)
    {vars : Context} (hvars : vars.Ascending) (events : List Event) :
    ((loadVariableFile tree path vars read).run events).1 = .ok (vars.override given) := by
  cases h with
  | blank htext hblank =>
    rw [loadVariableFile, require_of_ok htext]
    simp only [hblank, if_true]
    rfl
  | null htext hblank hread =>
    rw [loadVariableFile, require_of_ok htext]
    simp only [hblank, hread]
    rfl
  | @table text fields htext hblank hread =>
    have hsame : vars.override (Dict.ofList fields) = vars.override fields :=
      hvars.override_override List.Pairwise.nil fields
    rw [loadVariableFile, require_of_ok htext, hsame]
    simp only [hblank, hread]
    rfl

theorem FaultyFile.load {failure : RenderError} (h : FaultyFile read tree path failure)
    (vars : Context) (events : List Event) :
    ((loadVariableFile tree path vars read).run events).1 = .error failure := by
  cases h with
  | missing htext =>
    rw [loadVariableFile, FileTree.require, htext]
    rfl
  | unreadable htext hfailure =>
    rw [loadVariableFile, require_of_unreadable htext hfailure]
    rfl
  | malformed htext hblank hread =>
    rw [loadVariableFile, require_of_ok htext]
    simp only [hblank, hread]
    rfl
  | @notTable text value htext hblank hread hnull htable =>
    rw [loadVariableFile, require_of_ok htext]
    simp only [hblank, hread]
    cases value with
    | null => exact absurd rfl hnull
    | table fields => exact absurd rfl (htable fields)
    | _ => rfl

end File

/-! ## 2. Files in a row -/

/-- The failure of the first file in a row that cannot be used. -/
inductive FirstFault (read : Readers) (tree : FileTree) : List Path → RenderError → Prop
  | here {path : Path} {paths : List Path} {failure : RenderError}
    (h : FaultyFile read tree path failure) : FirstFault read tree (path :: paths) failure
  | later {path : Path} {paths : List Path} {given : Context} {failure : RenderError}
    (h : GivesVariables read tree path given) (hlater : FirstFault read tree paths failure) :
    FirstFault read tree (path :: paths) failure

/-- The variables of some files, each over those before it. -/
def overrideAll (givens : List Context) : Context := givens.foldl Dict.override []

section Row

variable {read : Readers} {tree : FileTree}

theorem give_or_firstFault (read : Readers) (tree : FileTree) (paths : List Path) :
    (∃ givens, List.Forall₂ (GivesVariables read tree) paths givens) ∨
      ∃ failure, FirstFault read tree paths failure := by
  induction paths with
  | nil => exact Or.inl ⟨[], .nil⟩
  | cons path paths ih =>
    rcases gives_or_faulty read tree path with ⟨given, hgiven⟩ | ⟨failure, hfailure⟩
    · rcases ih with ⟨givens, hgivens⟩ | ⟨failure, hfailure⟩
      · exact Or.inl ⟨given :: givens, .cons hgiven hgivens⟩
      · exact Or.inr ⟨failure, .later hgiven hfailure⟩
    · exact Or.inr ⟨failure, .here hfailure⟩

/-- The first file that cannot be used stands behind files that give variables. -/
theorem firstFault_iff {paths : List Path} {failure : RenderError} :
    FirstFault read tree paths failure ↔ ∃ front path behind, paths = front ++ path :: behind ∧
      (∀ earlier ∈ front, ∃ given, GivesVariables read tree earlier given) ∧
      FaultyFile read tree path failure := by
  constructor
  · intro h
    induction h with
    | @here path paths failure h =>
      exact ⟨[], path, paths, rfl, fun _ hmem => absurd hmem List.not_mem_nil, h⟩
    | @later first paths given failure h _ ih =>
      obtain ⟨front, path, behind, rfl, hfront, hfaulty⟩ := ih
      exact ⟨first :: front, path, behind, rfl, List.forall_mem_cons.mpr ⟨⟨given, h⟩, hfront⟩,
        hfaulty⟩
  · rintro ⟨front, path, behind, rfl, hfront, hfaulty⟩
    induction front with
    | nil => exact .here hfaulty
    | cons first front ih =>
      obtain ⟨⟨given, hgiven⟩, hrest⟩ := List.forall_mem_cons.mp hfront
      exact .later hgiven (ih hrest)

theorem firstFault_append {xs ys : List Path} {failure : RenderError} :
    FirstFault read tree (xs ++ ys) failure ↔ FirstFault read tree xs failure ∨
      (∃ givens, List.Forall₂ (GivesVariables read tree) xs givens) ∧
        FirstFault read tree ys failure := by
  induction xs with
  | nil =>
    refine ⟨fun h => Or.inr ⟨⟨[], .nil⟩, h⟩, ?_⟩
    rintro (h | ⟨-, h⟩)
    · cases h
    · exact h
  | cons path xs ih =>
    constructor
    · intro h
      cases h with
      | here hfaulty => exact Or.inl (.here hfaulty)
      | @later _ _ given _ hgiven hlater =>
        rcases ih.mp hlater with hfirst | ⟨⟨givens, hgivens⟩, hsecond⟩
        · exact Or.inl (.later hgiven hfirst)
        · exact Or.inr ⟨⟨given :: givens, .cons hgiven hgivens⟩, hsecond⟩
    · rintro (h | ⟨⟨givens, hgivens⟩, h⟩)
      · cases h with
        | here hfaulty => exact .here hfaulty
        | later hgiven hlater => exact .later hgiven (ih.mpr (Or.inl hlater))
      · cases hgivens with
        | @cons _ given _ givens hgiven hgivens =>
          exact .later hgiven (ih.mpr (Or.inr ⟨⟨givens, hgivens⟩, h⟩))

/-- A file without variables makes no difference to which file is the first that cannot be used. -/
theorem FirstFault.insert {xs ys : List Path} {failure : RenderError}
    (h : FirstFault read tree (xs ++ ys) failure) {path : Path}
    (hpath : GivesVariables read tree path []) :
    FirstFault read tree (xs ++ path :: ys) failure := by
  induction xs with
  | nil => exact .later hpath h
  | cons first xs ih =>
    cases h with
    | here hfaulty => exact .here hfaulty
    | later hgiven hlater => exact .later hgiven (ih hlater)

theorem forall₂_gives_insert {xs ys : List Path} {givens : List Context}
    (h : List.Forall₂ (GivesVariables read tree) (xs ++ ys) givens) {path : Path}
    (hpath : GivesVariables read tree path []) :
    ∃ others, List.Forall₂ (GivesVariables read tree) (xs ++ path :: ys) others ∧
      ∀ vars, others.foldl Dict.override vars = givens.foldl Dict.override vars := by
  induction xs generalizing givens with
  | nil => exact ⟨[] :: givens, .cons hpath h, fun _ => rfl⟩
  | cons first xs ih =>
    cases h with
    | @cons _ given _ givens hgiven hgivens =>
      obtain ⟨others, hothers, hsame⟩ := ih hgivens
      exact ⟨given :: others, .cons hgiven hothers, fun vars => hsame (vars.override given)⟩

theorem ascending_of_gives {paths : List Path} {givens : List Context}
    (h : List.Forall₂ (GivesVariables read tree) paths givens) :
    ∀ given ∈ givens, given.Ascending := by
  induction h with
  | nil => exact fun _ hmem => absurd hmem List.not_mem_nil
  | cons hgiven _ ih => exact List.forall_mem_cons.mpr ⟨hgiven.ascending, ih⟩

theorem loadVariablesOver_cons_ok {path : Path} {vars loaded : Context} {events : List Event}
    (h : ((loadVariableFile tree path vars read).run events).1 = .ok loaded) (paths : List Path) :
    ∃ later, (loadVariablesOver tree vars (path :: paths) read).run events =
      (loadVariablesOver tree loaded paths read).run later := by
  rw [loadVariablesOver]
  cases hrun : (loadVariableFile tree path vars read).run events with
  | mk outcome later =>
    rw [hrun] at h
    obtain rfl : outcome = .ok loaded := h
    refine ⟨later, ?_⟩
    rw [StateT.run_bind, hrun]
    rfl

theorem loadVariablesOver_cons_error {path : Path} {vars : Context} {failure : RenderError}
    {events : List Event}
    (h : ((loadVariableFile tree path vars read).run events).1 = .error failure)
    (paths : List Path) :
    ((loadVariablesOver tree vars (path :: paths) read).run events).1 = .error failure := by
  rw [loadVariablesOver]
  cases hrun : (loadVariableFile tree path vars read).run events with
  | mk outcome later =>
    rw [hrun] at h
    obtain rfl : outcome = .error failure := h
    rw [StateT.run_bind, hrun]
    rfl

/-- **Files that all give variables** are loaded one over the other. -/
theorem loadVariablesOver_of_gives {paths : List Path} {givens : List Context}
    (h : List.Forall₂ (GivesVariables read tree) paths givens) {vars : Context}
    (hvars : vars.Ascending) (events : List Event) :
    ((loadVariablesOver tree vars paths read).run events).1 =
      .ok (givens.foldl Dict.override vars) := by
  induction h generalizing vars events with
  | nil => rfl
  | @cons path given paths givens hgiven _ ih =>
    obtain ⟨later, hrun⟩ := loadVariablesOver_cons_ok (hgiven.load hvars events) paths
    rw [hrun]
    exact ih (hvars.override given) later

/-- **The first file that cannot be used** decides. -/
theorem loadVariablesOver_of_firstFault {paths : List Path} {failure : RenderError}
    (h : FirstFault read tree paths failure) {vars : Context} (hvars : vars.Ascending)
    (events : List Event) :
    ((loadVariablesOver tree vars paths read).run events).1 = .error failure := by
  induction h generalizing vars events with
  | here hfaulty => exact loadVariablesOver_cons_error (hfaulty.load vars events) _
  | @later path paths given failure hgiven _ ih =>
    obtain ⟨later, hrun⟩ := loadVariablesOver_cons_ok (hgiven.load hvars events) paths
    rw [hrun]
    exact ih (hvars.override given) later

end Row

/-! ## 3. Files loaded in two parts -/

section Parts

variable {read : Readers} {tree : FileTree} {paths : List Path} {events : List Event}

theorem loadVariables_of_gives {givens : List Context}
    (h : List.Forall₂ (GivesVariables read tree) paths givens) :
    ((loadVariables tree paths read).run events).1 = .ok (overrideAll givens) :=
  loadVariablesOver_of_gives h List.Pairwise.nil events

theorem loadVariables_eq_error {failure : RenderError} :
    ((loadVariables tree paths read).run events).1 = .error failure ↔
      FirstFault read tree paths failure := by
  refine ⟨fun h => ?_, fun h => loadVariablesOver_of_firstFault h List.Pairwise.nil events⟩
  rcases give_or_firstFault read tree paths with ⟨givens, hgivens⟩ | ⟨other, hother⟩
  · cases h.symm.trans (loadVariables_of_gives hgivens)
  · cases h.symm.trans (loadVariablesOver_of_firstFault hother List.Pairwise.nil events)
    exact hother

theorem loadVariables_eq_ok {vars : Context} :
    ((loadVariables tree paths read).run events).1 = .ok vars ↔
      ∃ givens, List.Forall₂ (GivesVariables read tree) paths givens ∧
        vars = overrideAll givens := by
  constructor
  · intro h
    rcases give_or_firstFault read tree paths with ⟨givens, hgivens⟩ | ⟨other, hother⟩
    · cases h.symm.trans (loadVariables_of_gives hgivens)
      exact ⟨givens, hgivens, rfl⟩
    · cases h.symm.trans (loadVariables_eq_error.mpr hother)
  · rintro ⟨givens, hgivens, rfl⟩
    exact loadVariables_of_gives hgivens

theorem ascending_foldl_override {vars : Context} (h : vars.Ascending) (givens : List Context) :
    (givens.foldl Dict.override vars).Ascending := by
  induction givens generalizing vars with
  | nil => exact h
  | cons given givens ih => exact ih (h.override given)

/-- **Variables over others are the others overridden at once.** -/
theorem foldl_override {vars : Context} (h : vars.Ascending) (givens : List Context) :
    givens.foldl Dict.override vars = vars.override (overrideAll givens) := by
  induction givens using List.reverseRecOn with
  | nil => rfl
  | append_singleton givens given ih =>
    rw [overrideAll, List.foldl_concat, List.foldl_concat, ih]
    exact (h.override_override (ascending_foldl_override List.Pairwise.nil givens) given).symm

theorem overrideAll_append (olders newers : List Context) :
    overrideAll (olders ++ newers) = (overrideAll olders).override (overrideAll newers) := by
  rw [overrideAll, List.foldl_append]
  exact foldl_override (ascending_foldl_override List.Pairwise.nil olders) newers

/-- The value of a variable is the one of the last file that gives one. -/
theorem get?_overrideAll {givens : List Context} (h : ∀ given ∈ givens, given.Ascending)
    (name : String) :
    Dict.get? name (overrideAll givens) = givens.reverse.findSome? (Dict.get? name) := by
  induction givens using List.reverseRecOn with
  | nil => rfl
  | append_singleton givens given ih =>
    have hgiven := h given List.mem_concat_self
    have hgivens := ih fun other hother => h other (List.mem_append_left _ hother)
    rw [overrideAll, List.foldl_concat, List.reverse_concat, List.findSome?_cons,
      Dict.get?_override, hgiven.ofList_eq]
    cases Dict.get? name given with
    | none => exact hgivens
    | some value => rfl

end Parts

section Loading

variable (read : Readers) (tree : FileTree) (xs ys : List Path) (events : List Event)

theorem loadVariables_rows :
    ((loadVariables tree (xs ++ ys) read).run events).1 = (do
      let older ← ((loadVariables tree xs read).run events).1
      let newer ← ((loadVariables tree ys read).run events).1
      return older.override newer) := by
  rcases give_or_firstFault read tree xs with ⟨olders, holders⟩ | ⟨failure, hfailure⟩
  · rcases give_or_firstFault read tree ys with ⟨newers, hnewers⟩ | ⟨failure, hfailure⟩
    · rw [loadVariables_of_gives holders, loadVariables_of_gives hnewers,
        loadVariables_of_gives (List.rel_append holders hnewers), overrideAll_append]
      rfl
    · rw [loadVariables_of_gives holders, loadVariables_eq_error.mpr hfailure]
      refine loadVariables_eq_error.mpr (firstFault_append.mpr (Or.inr ?_))
      exact ⟨⟨olders, holders⟩, hfailure⟩
  · rw [loadVariables_eq_error.mpr hfailure]
    exact loadVariables_eq_error.mpr (firstFault_append.mpr (Or.inl hfailure))

/-- A file without variables makes no difference. -/
theorem loadVariables_insert {path : Path} (hpath : GivesVariables read tree path []) :
    ((loadVariables tree (xs ++ path :: ys) read).run events).1 =
      ((loadVariables tree (xs ++ ys) read).run events).1 := by
  rcases give_or_firstFault read tree (xs ++ ys) with ⟨givens, hgivens⟩ | ⟨failure, hfailure⟩
  · obtain ⟨others, hothers, hsame⟩ := forall₂_gives_insert hgivens hpath
    rw [loadVariables_of_gives hothers, loadVariables_of_gives hgivens, overrideAll, hsame]
    rfl
  · rw [loadVariables_eq_error.mpr hfailure,
      loadVariables_eq_error.mpr (hfailure.insert hpath)]

end Loading

/-- A value made of two others is missing exactly if one of them is. -/
theorem exists_error_bind_iff {ε α β γ : Type} (first : Except ε α) (second : Except ε β)
    (f : α → β → γ) :
    (∃ failure, (do
        let a ← first
        let b ← second
        return f a b) = Except.error failure) ↔
      (∃ failure, first = .error failure) ∨ ∃ failure, second = .error failure := by
  cases first with
  | error failure => exact ⟨fun _ => Or.inl ⟨failure, rfl⟩, fun _ => ⟨failure, rfl⟩⟩
  | ok a =>
    cases second with
    | error failure => exact ⟨fun _ => Or.inr ⟨failure, rfl⟩, fun _ => ⟨failure, rfl⟩⟩
    | ok b =>
      constructor
      · rintro ⟨_, ⟨⟩⟩
      · rintro (⟨_, ⟨⟩⟩ | ⟨_, ⟨⟩⟩)

/-- **Files of variables are merged from left to right.** Two rows of files are loaded as the first
and then the second over it: they fail exactly if one of them fails, with the failure of the first
file that cannot be used. Otherwise each variable has the whole value of the last file that gives
it, and a file without variables makes no difference wherever it stands. The readers may be any
functions of a text. -/
theorem loadVariables_append (read : Readers) (tree : FileTree) (xs ys : List Path)
    (events : List Event) :
    let load := fun paths => ((loadVariables tree paths read).run events).1
    load (xs ++ ys) = (do
        let older ← load xs
        let newer ← load ys
        return older.override newer) ∧
      ((∃ failure, load (xs ++ ys) = .error failure) ↔
        (∃ failure, load xs = .error failure) ∨ ∃ failure, load ys = .error failure) ∧
      (∀ failure, load (xs ++ ys) = .error failure ↔
        ∃ front path behind, xs ++ ys = front ++ path :: behind ∧
          (∀ earlier ∈ front, ∃ given, GivesVariables read tree earlier given) ∧
          FaultyFile read tree path failure) ∧
      (∀ vars, load (xs ++ ys) = .ok vars →
        ∃ givens, List.Forall₂ (GivesVariables read tree) (xs ++ ys) givens ∧
          ∀ name, Dict.get? name vars = givens.reverse.findSome? (Dict.get? name)) ∧
      ∀ path, GivesVariables read tree path [] → load (xs ++ path :: ys) = load (xs ++ ys) := by
  refine ⟨loadVariables_rows read tree xs ys events, ?_, fun failure => ?_, fun vars hvars => ?_,
    fun path hpath => loadVariables_insert read tree xs ys events hpath⟩
  · rw [← exists_error_bind_iff, ← loadVariables_rows]
  · rw [loadVariables_eq_error, firstFault_iff]
  · obtain ⟨givens, hgivens, rfl⟩ := loadVariables_eq_ok.mp hvars
    exact ⟨givens, hgivens, get?_overrideAll (ascending_of_gives hgivens)⟩

/-- Three files of variables, two of them with the same variable, and a blank one. -/
def layeredFiles : FileTree where
  entries := [([['a']], .file "x={}".toUTF8), ([['b']], .file "y=1".toUTF8),
    ([['c']], .file "x=3".toUTF8), ([['e']], .file " ".toUTF8)]
  workingDirectory := []

theorem gives_layered :
    GivesVariables FileFormat.read layeredFiles ⟨"a"⟩ [("x", .table [])] ∧
      GivesVariables FileFormat.read layeredFiles ⟨"b"⟩ [("y", .int 1)] ∧
      GivesVariables FileFormat.read layeredFiles ⟨"c"⟩ [("x", .int 3)] ∧
      GivesVariables FileFormat.read layeredFiles ⟨"e"⟩ [] := by
  have ha := @GivesVariables.table FileFormat.read layeredFiles ⟨"a"⟩ "x={}" [("x", .table [])]
    (by decide +kernel) (by decide) rfl
  have hb := @GivesVariables.table FileFormat.read layeredFiles ⟨"b"⟩ "y=1" [("y", .int 1)]
    (by decide +kernel) (by decide) rfl
  have hc := @GivesVariables.table FileFormat.read layeredFiles ⟨"c"⟩ "x=3" [("x", .int 3)]
    (by decide +kernel) (by decide) rfl
  have he := @GivesVariables.blank FileFormat.read layeredFiles ⟨"e"⟩ " "
    (by decide +kernel) (by decide)
  exact ⟨ha, hb, hc, he⟩

theorem loadVariables_layered :
    let load := fun paths => ((loadVariables layeredFiles paths FileFormat.read).run []).1
    load [⟨"a"⟩, ⟨"b"⟩] = .ok [("x", .table []), ("y", .int 1)] ∧
      load [⟨"c"⟩] = .ok [("x", .int 3)] ∧
      GivesVariables FileFormat.read layeredFiles ⟨"e"⟩ [] ∧
      load [⟨"a"⟩, ⟨"b"⟩, ⟨"e"⟩, ⟨"c"⟩] = .ok [("x", .int 3), ("y", .int 1)] := by
  intro load
  obtain ⟨ha, hb, hc, he⟩ := gives_layered
  have hfirst : load [⟨"a"⟩, ⟨"b"⟩] = .ok [("x", .table []), ("y", .int 1)] :=
    loadVariables_of_gives (.cons ha (.cons hb .nil))
  have hsecond : load [⟨"c"⟩] = .ok [("x", .int 3)] := loadVariables_of_gives (.cons hc .nil)
  obtain ⟨hparts, -, -, -, hskip⟩ :=
    loadVariables_append FileFormat.read layeredFiles [⟨"a"⟩, ⟨"b"⟩] [⟨"c"⟩] []
  refine ⟨hfirst, hsecond, he, (hskip ⟨"e"⟩ he).trans (hparts.trans ?_)⟩
  change (load [⟨"a"⟩, ⟨"b"⟩] >>= fun older => load [⟨"c"⟩] >>= fun newer =>
    pure (older.override newer)) = _
  rw [hfirst, hsecond]
  rfl

end Dispatch
