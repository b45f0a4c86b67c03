import Mathlib.Data.List.Find
import Dispatch.Proofs.TemplateEngine

/-!
# Writing files

Writing a file puts its bytes at one place and touches nothing else (`FileTree.writeFile_eq`). It
makes no directory and takes none away, so after any writes the same paths lead to the same places
(`FileTree.WrittenAt.locate_eq_ok`), the same writes succeed (`FileTree.WrittenAt.writeFile_eq_ok`),
and templates whose files were not written have the texts they had
(`TemplateSource.texts_eq_of_writtenAt`). Only the reason of a failure may change
(`FileTree.WrittenAt.writeFile_eq_error`): where a path went through nothing before, it may go
through a file now.
-/

namespace Dispatch

namespace FileTree

/-! ## 1. Entries -/

theorem entryAt?_nil (tree : FileTree) : tree.entryAt? [] = some .directory := rfl

theorem isDirectoryAt_eq_true {tree : FileTree} {place : Place} :
    tree.isDirectoryAt place = true ↔ tree.entryAt? place = some .directory := by
  unfold isDirectoryAt
  rcases tree.entryAt? place with _ | _ | _ <;> simp

theorem entryAt?_put {place : Place} (hplace : place ≠ []) (entry : Entry) (tree : FileTree)
    (other : Place) :
    (tree.put place entry).entryAt? other =
      if other = place then some entry else tree.entryAt? other := by
  cases other with
  | nil => rw [if_neg (Ne.symm hplace), entryAt?_nil, entryAt?_nil]
  | cons piece pieces => exact Dict.get?_insert place (piece :: pieces) entry tree.entries

/-! ## 2. One write -/

/-- Whether a file can be written at a place: no directory is there, and the directory around it is
there or the file itself. -/
def canHold (tree : FileTree) (place : Place) : Bool :=
  !tree.isDirectoryAt place &&
    ((tree.entryAt? place).isSome || tree.isDirectoryAt place.dropLast)

theorem ne_nil_of_canHold {tree : FileTree} {place : Place} (h : tree.canHold place = true) :
    place ≠ [] := by
  rintro rfl
  cases h

theorem writeFile_of_locate {tree : FileTree} {path : Path} {place : Place}
    (h : tree.locate path = .ok place) (bytes : ByteArray) :
    tree.writeFile path bytes =
      match tree.entryAt? place with
      | some .directory => .error .isDirectory
      | some (.file _) => .ok (tree.put place (.file bytes))
      | none =>
        if tree.isDirectoryAt place.dropLast then .ok (tree.put place (.file bytes))
        else .error .notFound := by
  unfold writeFile
  rw [h]
  rfl

/-- What a write comes to at the place that its path leads to. -/
theorem writeFile_eq {tree : FileTree} {path : Path} {place : Place}
    (h : tree.locate path = .ok place) (bytes : ByteArray) :
    tree.writeFile path bytes =
      if tree.canHold place then .ok (tree.put place (.file bytes))
      else if tree.isDirectoryAt place then .error .isDirectory
      else .error .notFound := by
  rw [writeFile_of_locate h, canHold]
  rcases hentry : tree.entryAt? place with _ | old | _
  · have hdirectory : tree.isDirectoryAt place = false := by rw [isDirectoryAt, hentry]
    rw [hdirectory]
    cases tree.isDirectoryAt place.dropLast <;> rfl
  · have hdirectory : tree.isDirectoryAt place = false := by rw [isDirectoryAt, hentry]
    rw [hdirectory]
    rfl
  · rw [isDirectoryAt_eq_true.2 hentry]
    rfl

theorem writeFile_error {tree : FileTree} {path : Path} {failure : OsError}
    (h : tree.locate path = .error failure) (bytes : ByteArray) :
    tree.writeFile path bytes = .error failure := by
  unfold writeFile
  rw [h]
  rfl

/-- A write that succeeds put its bytes at the place that its path leads to. -/
theorem writeFile_eq_ok {tree after : FileTree} {path : Path} {bytes : ByteArray}
    (h : tree.writeFile path bytes = .ok after) :
    ∃ place, tree.locate path = .ok place ∧ tree.canHold place = true ∧
      after = tree.put place (.file bytes) := by
  cases hlocate : tree.locate path with
  | error failure =>
    rw [writeFile_error hlocate] at h
    cases h
  | ok place =>
    rw [writeFile_eq hlocate] at h
    refine ⟨place, rfl, ?_⟩
    split at h
    · next hhold => exact ⟨hhold, (Except.ok.inj h).symm⟩
    · split at h <;> cases h

theorem lookup_of_locate {tree : FileTree} {path : Path} {place : Place}
    (h : tree.locate path = .ok place) :
    tree.lookup path =
      match tree.entryAt? place with
      | some entry => .ok entry
      | none => .error .notFound := by
  unfold lookup
  rw [h]
  rfl

/-! ## 3. After some writes -/

/-- Nothing but the files at some places was written: the directories are as before, nothing is
gone, and the same places can hold files. -/
structure WrittenAt (written : Place → Prop) (before after : FileTree) : Prop where
  workingDirectory : after.workingDirectory = before.workingDirectory
  elsewhere : ∀ place, ¬written place → after.entryAt? place = before.entryAt? place
  isDirectoryAt : ∀ place, after.isDirectoryAt place = before.isDirectoryAt place
  kept : ∀ place, (before.entryAt? place).isSome → (after.entryAt? place).isSome
  canHold : ∀ place, after.canHold place = before.canHold place

/-- Two outcomes are the same, or the way to a place ends at a file where it ended at nothing. -/
def SameOrBlocked {α : Type} (after before : Except OsError α) : Prop :=
  after = before ∨ after = .error .notDirectory ∧ before = .error .notFound

namespace WrittenAt

variable {written : Place → Prop} {before after : FileTree}

theorem refl (written : Place → Prop) (tree : FileTree) : WrittenAt written tree tree where
  workingDirectory := rfl
  elsewhere _ _ := rfl
  isDirectoryAt _ := rfl
  kept _ h := h
  canHold _ := rfl

/-- One more file was written. -/
theorem put (h : WrittenAt written before after) {place : Place} (hwritten : written place)
    (hhold : before.canHold place = true) (bytes : ByteArray) :
    WrittenAt written before (after.put place (.file bytes)) := by
  have hentry := entryAt?_put (ne_nil_of_canHold hhold) (.file bytes) after
  have hno : before.isDirectoryAt place = false := by
    simp only [FileTree.canHold, Bool.and_eq_true, Bool.not_eq_true'] at hhold
    exact hhold.1
  have hdirectory (other : Place) :
      (after.put place (.file bytes)).isDirectoryAt other = before.isDirectoryAt other := by
    rw [← h.isDirectoryAt, FileTree.isDirectoryAt, hentry]
    by_cases hother : other = place
    · rw [if_pos hother, hother, h.isDirectoryAt, hno]
    · rw [if_neg hother]
      rfl
  refine ⟨h.workingDirectory, fun other hother => ?_, hdirectory, fun other hsome => ?_,
    fun other => ?_⟩
  · have hne : other ≠ place := fun heq => hother (heq ▸ hwritten)
    rw [hentry, if_neg hne]
    exact h.elsewhere other hother
  · rw [hentry]
    by_cases hother : other = place
    · rw [if_pos hother]
      rfl
    · rw [if_neg hother]
      exact h.kept other hsome
  · by_cases hother : other = place
    · rw [hother, hhold, FileTree.canHold, hdirectory, hno, hentry, if_pos rfl]
      rfl
    · rw [← h.canHold, FileTree.canHold, FileTree.canHold, hdirectory, hdirectory, hentry,
        if_neg hother, h.isDirectoryAt, h.isDirectoryAt]

/-- A step on a way to a place goes where it went, or still goes nowhere. -/
theorem step (h : WrittenAt written before after) (place : Place) (piece : Text) :
    SameOrBlocked (after.step place piece) (before.step place piece) := by
  have hdirectory := h.isDirectoryAt place
  have hkept := h.kept place
  unfold FileTree.step
  unfold FileTree.isDirectoryAt at hdirectory
  rcases hafter : after.entryAt? place with _ | _ | _ <;>
    rcases hbefore : before.entryAt? place with _ | _ | _ <;>
    simp_all [SameOrBlocked]

theorem foldlM_step (h : WrittenAt written before after) (pieces : List Text) (place : Place) :
    SameOrBlocked (pieces.foldlM after.step place) (pieces.foldlM before.step place) := by
  induction pieces generalizing place with
  | nil => exact .inl rfl
  | cons piece pieces ih =>
    rw [List.foldlM_cons, List.foldlM_cons]
    rcases h.step place piece with hsame | ⟨hafter, hbefore⟩
    · rw [hsame]
      cases before.step place piece with
      | error failure => exact .inl rfl
      | ok next => exact ih next
    · rw [hafter, hbefore]
      exact .inr ⟨rfl, rfl⟩

theorem start_eq (h : WrittenAt written before after) (path : Path) :
    after.start path = before.start path := by
  rw [start, start, h.workingDirectory]

theorem locateBy (h : WrittenAt written before after) (path : Path) (pieces : List Text) :
    SameOrBlocked (after.locateBy path pieces) (before.locateBy path pieces) := by
  unfold FileTree.locateBy
  split
  · exact .inl rfl
  · split
    · exact .inl rfl
    · rw [h.start_eq]
      exact h.foldlM_step pieces _

theorem locate (h : WrittenAt written before after) (path : Path) :
    SameOrBlocked (after.locate path) (before.locate path) := h.locateBy path path.pieces

/-- **The same paths lead to the same places.** -/
theorem locate_eq_ok (h : WrittenAt written before after) {path : Path} {place : Place} :
    after.locate path = .ok place ↔ before.locate path = .ok place := by
  rcases h.locate path with hsame | ⟨hafter, hbefore⟩
  · rw [hsame]
  · simp [hafter, hbefore]

/-- **The same writes succeed**, at the same places. -/
theorem writeFile_eq_ok (h : WrittenAt written before after) {path : Path} {bytes : ByteArray}
    {made : FileTree} (hwrite : after.writeFile path bytes = .ok made) :
    ∃ place, before.locate path = .ok place ∧ before.canHold place = true ∧
      before.writeFile path bytes = .ok (before.put place (.file bytes)) ∧
      made = after.put place (.file bytes) := by
  obtain ⟨place, hlocate, hhold, rfl⟩ := FileTree.writeFile_eq_ok hwrite
  rw [h.locate_eq_ok] at hlocate
  rw [h.canHold] at hhold
  exact ⟨place, hlocate, hhold, by rw [writeFile_eq hlocate, if_pos hhold], rfl⟩

/-- **The same writes fail**; for the same reason, unless the way now ends at a file. -/
theorem writeFile_eq_error (h : WrittenAt written before after) {path : Path} {bytes : ByteArray}
    {failure : OsError} (hwrite : after.writeFile path bytes = .error failure) :
    ∃ other, before.writeFile path bytes = .error other ∧
      (failure = other ∨ after.locate path ≠ before.locate path ∧
        failure = .notDirectory ∧ other = .notFound) := by
  rcases h.locate path with hsame | ⟨hafter, hbefore⟩
  · refine ⟨failure, ?_, .inl rfl⟩
    cases hlocate : before.locate path with
    | error other =>
      rw [writeFile_error (hsame.trans hlocate)] at hwrite
      rw [writeFile_error hlocate, hwrite]
    | ok place =>
      rw [writeFile_eq (hsame.trans hlocate), h.canHold, h.isDirectoryAt] at hwrite
      rw [writeFile_eq hlocate]
      cases hhold : before.canHold place with
      | true =>
        rw [if_pos hhold] at hwrite
        cases hwrite
      | false =>
        rw [hhold, if_neg Bool.false_ne_true] at hwrite
        rw [if_neg Bool.false_ne_true, hwrite]
  · rw [writeFile_error hafter] at hwrite
    obtain rfl := Except.error.inj hwrite
    refine ⟨.notFound, writeFile_error hbefore bytes, .inr ⟨?_, rfl, rfl⟩⟩
    rw [hafter, hbefore]
    simp

/-- What stands at a place is found under the paths that led there. -/
theorem lookup_eq_ok (h : WrittenAt written before after) {path : Path} {place : Place}
    (hlocate : before.locate path = .ok place) {entry : Entry}
    (hentry : after.entryAt? place = some entry) : after.lookup path = .ok entry := by
  rw [FileTree.lookup_of_locate (h.locate_eq_ok.2 hlocate), hentry]

/-- What stands at a place that was not written is found as before. -/
theorem lookup (h : WrittenAt written before after) {path : Path}
    (hpath : ∀ place, before.locate path = .ok place → ¬written place) :
    SameOrBlocked (after.lookup path) (before.lookup path) := by
  rcases h.locate path with hsame | ⟨hafter, hbefore⟩
  · refine .inl ?_
    cases hbefore : before.locate path with
    | error failure =>
      rw [FileTree.lookup, FileTree.lookup, hsame, hbefore]
      rfl
    | ok place =>
      rw [lookup_of_locate hbefore, lookup_of_locate (hsame.trans hbefore),
        h.elsewhere place (hpath place hbefore)]
  · rw [FileTree.lookup, FileTree.lookup, hafter, hbefore]
    exact .inr ⟨rfl, rfl⟩

theorem isFile_eq (h : WrittenAt written before after) {path : Path}
    (hpath : ∀ place, before.locate path = .ok place → ¬written place) :
    after.isFile path = before.isFile path := by
  unfold isFile
  rcases h.lookup hpath with hsame | ⟨hafter, hbefore⟩
  · rw [hsame]
  · rw [hafter, hbefore]

theorem readText_eq (h : WrittenAt written before after) {path : Path}
    (hpath : ∀ place, before.locate path = .ok place → ¬written place)
    (hfile : before.isFile path = true) : after.readText path = before.readText path := by
  unfold readText
  rcases h.lookup hpath with hsame | ⟨hafter, hbefore⟩
  · rw [hsame]
  · rw [isFile, hbefore] at hfile
    cases hfile

end WrittenAt

/-- A file that was written is read under its path. -/
theorem lookup_of_writeFile {tree after : FileTree} {path : Path} {bytes : ByteArray}
    (h : tree.writeFile path bytes = .ok after) : after.lookup path = .ok (.file bytes) := by
  obtain ⟨place, hlocate, hhold, rfl⟩ := writeFile_eq_ok h
  have hwritten := (WrittenAt.refl (· = place) tree).put rfl hhold bytes
  refine hwritten.lookup_eq_ok hlocate ?_
  rw [entryAt?_put (ne_nil_of_canHold hhold), if_pos rfl]

end FileTree

/-! ## 4. Templates -/

namespace TemplateSource

/-- What a directory gives for a name. -/
theorem texts_directory (root : Path) (files : FileTree) (name : String) :
    (directory root).texts files name =
      match (candidates root name).find? files.isFile with
      | none => .ok none
      | some path =>
        match files.readText path with
        | .error failure => .error ⟨path, failure⟩
        | .ok text => .ok (some text) := by
  unfold texts directory
  cases hfound : (candidates root name).find? files.isFile with
  | none => simp only [hfound]; rfl
  | some path =>
    cases hread : files.readText path with
    | error failure => simp only [hfound, hread]; rfl
    | ok text => simp only [hfound, hread]; rfl

/-- **A template whose files were not written** has the text it had. -/
theorem texts_eq_of_writtenAt {written : Place → Prop} {before after : FileTree}
    (h : FileTree.WrittenAt written before after) {root : Path} {name : String}
    (hname : ∀ path ∈ candidates root name, ∀ place,
      before.locate path = .ok place → ¬written place) :
    (directory root).texts after name = (directory root).texts before name := by
  rw [texts_directory, texts_directory]
  have hfind : (candidates root name).find? after.isFile =
      (candidates root name).find? before.isFile :=
    List.find?_congr fun path hpath => h.isFile_eq (hname path hpath)
  rw [hfind]
  cases hfound : (candidates root name).find? before.isFile with
  | none => rfl
  | some path =>
    have hmem := List.mem_of_find?_eq_some hfound
    have hfile : before.isFile path = true := List.find?_some hfound
    simp only [h.readText_eq (hname path hmem) hfile]

end TemplateSource

end Dispatch
