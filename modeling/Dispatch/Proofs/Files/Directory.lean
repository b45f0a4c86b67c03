import Mathlib.Data.List.TakeWhile
import Dispatch.Proofs.Files.Writing

/-!
# Files in a directory

A name without a separator, put behind the path of a directory, leads into that directory
(`FileTree.locate_join`). So different names lead to different places (`FileTree.locate_join_inj`),
and if the directory is there, writing other files changes nothing on the way
(`FileTree.WrittenAt.locate_join`). A directory that was made is there
(`FileTree.opens_of_makeDirectories`).
-/

namespace Dispatch

/-! ## 1. Pieces of a path -/

namespace Text

theorem splitOn_of_notMem {sep : Char} {text : Text} (h : sep ∉ text) :
    splitOn sep text = [text] := by
  induction text with
  | nil => rfl
  | cons c text ih =>
    rw [List.mem_cons, not_or] at h
    rw [splitOn, if_neg (Ne.symm h.1), ih h.2]

theorem splitOn_ne_nil (sep : Char) (text : Text) : splitOn sep text ≠ [] := by
  cases text with
  | nil => exact List.cons_ne_nil _ _
  | cons c text =>
    unfold splitOn
    split
    · exact List.cons_ne_nil _ _
    · split <;> exact List.cons_ne_nil _ _

theorem splitOn_append (sep : Char) (front back : Text) :
    splitOn sep (front ++ sep :: back) = splitOn sep front ++ splitOn sep back := by
  induction front with
  | nil => simp [splitOn]
  | cons c front ih =>
    rw [List.cons_append, splitOn, splitOn, ih]
    by_cases hc : c = sep
    · rw [if_pos hc, if_pos hc, List.cons_append]
    · rw [if_neg hc, if_neg hc]
      obtain ⟨piece, pieces, hfront⟩ := List.exists_cons_of_ne_nil (splitOn_ne_nil sep front)
      rw [hfront]
      rfl

end Text

namespace Path

/-- The pieces of a path behind which a name is put. -/
def base (directory : Path) : List Text :=
  if directory.text = "" then []
  else if directory.text.toList.getLast? = some '/' then directory.pieces.dropLast
  else directory.pieces

/-- The pieces of a path are those behind which a name is put, and perhaps an empty one. -/
theorem pieces_eq_base {directory : Path} (h : directory.text ≠ "") :
    directory.pieces = directory.base ∨ directory.pieces = directory.base ++ [[]] := by
  unfold base
  rw [if_neg h]
  by_cases hlast : directory.text.toList.getLast? = some '/'
  · rw [if_pos hlast]
    obtain ⟨front, hfront⟩ := List.getLast?_eq_some_iff.1 hlast
    have hpieces : directory.pieces = Text.splitOn '/' front ++ [[]] := by
      unfold pieces
      rw [hfront, Text.splitOn_append]
      rfl
    rw [hpieces, List.dropLast_concat]
    exact .inr rfl
  · rw [if_neg hlast]
    exact .inl rfl

theorem base_subset (directory : Path) : directory.base ⊆ directory.pieces := by
  unfold base
  split
  · exact List.nil_subset _
  · split
    · exact List.dropLast_subset _
    · exact List.Subset.refl _

variable {name : String}

theorem toList_join (directory : Path) (hname : '/' ∉ name.toList) :
    (directory.join name).text.toList =
      if directory.text = "" then name.toList
      else if directory.text.toList.getLast? = some '/' then directory.text.toList ++ name.toList
      else directory.text.toList ++ '/' :: name.toList := by
  have hrelative : name.toList.head? ≠ some '/' := fun h =>
    hname (List.mem_of_mem_head? h)
  unfold join
  rw [if_neg hrelative]
  by_cases hempty : directory.text = ""
  · simp [hempty]
  · by_cases hlast : directory.text.toList.getLast? = some '/'
    · simp [hempty, hlast]
    · simp [hempty, hlast, String.isEmpty_iff]

/-- A name without a separator is one more piece. -/
theorem pieces_join (directory : Path) (hname : '/' ∉ name.toList) :
    (directory.join name).pieces = directory.base ++ [name.toList] := by
  have hpiece := Text.splitOn_of_notMem hname
  unfold pieces base
  rw [toList_join directory hname]
  by_cases hempty : directory.text = ""
  · rw [if_pos hempty, if_pos hempty, hpiece]
    rfl
  · rw [if_neg hempty, if_neg hempty]
    by_cases hlast : directory.text.toList.getLast? = some '/'
    · obtain ⟨front, hfront⟩ := List.getLast?_eq_some_iff.1 hlast
      rw [if_pos hlast, if_pos hlast, pieces, hfront, List.append_assoc, List.singleton_append,
        Text.splitOn_append, Text.splitOn_append, hpiece]
      change _ = (Text.splitOn '/' front ++ [[]]).dropLast ++ _
      rw [List.dropLast_concat]
    · rw [if_neg hlast, if_neg hlast, Text.splitOn_append, hpiece]
      rfl

theorem isAbsolute_join (directory : Path) (hname : '/' ∉ name.toList) :
    (directory.join name).isAbsolute = directory.isAbsolute := by
  have hrelative : name.toList.head? ≠ some '/' := fun h =>
    hname (List.mem_of_mem_head? h)
  unfold isAbsolute
  rw [toList_join directory hname]
  by_cases hempty : directory.text = ""
  · simp [hempty, hrelative]
  · obtain ⟨c, text, htext⟩ : ∃ c text, directory.text.toList = c :: text := by
      refine List.exists_cons_of_ne_nil fun h => hempty ?_
      exact String.toList_eq_nil_iff.1 h
    rw [if_neg hempty, htext]
    split <;> rfl

end Path

theorem bind_eq_ok {ε α β : Type} {first : Except ε α} {next : α → Except ε β} {b : β} :
    (first >>= next) = .ok b ↔ ∃ a, first = .ok a ∧ next a = .ok b := by
  cases first with
  | error failure => simp [bind, Except.bind]
  | ok a => simp [bind, Except.bind]

namespace FileTree

/-! ## 2. Places in a directory -/

/-- The place of the directory in which a name behind a path is looked up. -/
def open? (tree : FileTree) (directory : Path) : Except OsError Place :=
  directory.base.foldlM tree.step (tree.start directory)

theorem start_join (tree : FileTree) (directory : Path) {name : String}
    (hname : '/' ∉ name.toList) :
    tree.start (directory.join name) = tree.start directory := by
  rw [start, start, Path.isAbsolute_join directory hname]

/-- A name behind a path leads into the directory of that path. -/
theorem locate_join (tree : FileTree) (directory : Path) {name : String}
    (hname : '/' ∉ name.toList) :
    tree.locate (directory.join name) =
      if (directory.join name).text = "" then .error .notFound
      else if '\x00' ∈ (directory.join name).text.toList then .error .nulInName
      else tree.open? directory >>= fun place => tree.step place name.toList := by
  unfold locate locateBy open?
  rw [Path.pieces_join directory hname, start_join tree directory hname, List.foldlM_append]
  simp only [String.isEmpty_iff, List.foldlM_cons, List.foldlM_nil, bind_pure]

/-- A name that an entry of a directory can have: it has no separator, and it is neither empty nor
a step to a directory. -/
structure IsEntryName (name : String) : Prop where
  separator : '/' ∉ name.toList
  ne_nil : name.toList ≠ []
  ne_here : name.toList ≠ ['.']
  ne_outside : name.toList ≠ ['.', '.']

/-- Such a name leads to a place of that name. -/
theorem step_eq_ok {tree : FileTree} {place next : Place} {name : String}
    (hname : IsEntryName name) (h : tree.step place name.toList = .ok next) :
    tree.isDirectoryAt place = true ∧ next = place ++ [name.toList] := by
  obtain ⟨-, hnil, hhere, houtside⟩ := hname
  unfold step at h
  rw [isDirectoryAt_eq_true]
  cases hentry : tree.entryAt? place with
  | none =>
    rw [hentry] at h
    cases h
  | some entry =>
    rw [hentry] at h
    cases entry with
    | file bytes => cases h
    | directory =>
      simp only [List.isEmpty_iff] at h
      rw [if_neg (not_or.2 ⟨hnil, hhere⟩), if_neg houtside] at h
      split at h
      · cases h
      · exact ⟨rfl, (Except.ok.inj h).symm⟩

theorem locate_join_eq_ok {tree : FileTree} {directory : Path} {name : String} {place : Place}
    (hname : IsEntryName name) (h : tree.locate (directory.join name) = .ok place) :
    ∃ inside, tree.open? directory = .ok inside ∧ tree.isDirectoryAt inside = true ∧
      place = inside ++ [name.toList] := by
  rw [locate_join tree directory hname.separator] at h
  split at h
  · cases h
  · split at h
    · cases h
    · cases hopen : tree.open? directory with
      | error failure =>
        rw [hopen] at h
        cases h
      | ok inside =>
        rw [hopen] at h
        exact ⟨inside, rfl, step_eq_ok hname h⟩

/-- **Different names lead to different places.** -/
theorem locate_join_inj {tree : FileTree} {directory : Path} {name other : String} {place : Place}
    (hname : IsEntryName name) (hother : IsEntryName other)
    (h : tree.locate (directory.join name) = .ok place)
    (h' : tree.locate (directory.join other) = .ok place) : name = other := by
  obtain ⟨inside, hopen, -, rfl⟩ := locate_join_eq_ok hname h
  obtain ⟨inside', hopen', -, hsame⟩ := locate_join_eq_ok hother h'
  rw [hopen, Except.ok.injEq] at hopen'
  rw [hopen', List.append_cancel_left_eq, List.cons.injEq] at hsame
  exact String.toList_inj.1 hsame.1

/-- The directory of a path is there. -/
def Opens (tree : FileTree) (directory : Path) : Prop :=
  ∃ inside, tree.open? directory = .ok inside ∧ tree.isDirectoryAt inside = true

theorem WrittenAt.step_of_isDirectoryAt {written : Place → Prop} {before after : FileTree}
    (h : WrittenAt written before after) {place : Place}
    (hplace : before.isDirectoryAt place = true) (piece : Text) :
    after.step place piece = before.step place piece := by
  have hafter := (h.isDirectoryAt place).trans hplace
  rw [isDirectoryAt_eq_true] at hplace hafter
  rw [FileTree.step, FileTree.step, hplace, hafter]

/-- **In a directory that is there** other files on the way make no difference. -/
theorem WrittenAt.locate_join {written : Place → Prop} {before after : FileTree}
    (h : WrittenAt written before after) {directory : Path} (hopens : before.Opens directory)
    {name : String} (hname : '/' ∉ name.toList) :
    after.locate (directory.join name) = before.locate (directory.join name) := by
  obtain ⟨inside, hopen, hinside⟩ := hopens
  have hafter : after.open? directory = .ok inside := by
    rcases h.foldlM_step directory.base (before.start directory) with hsame | ⟨-, hbefore⟩
    · rw [open?, h.start_eq, hsame]
      exact hopen
    · rw [open?, hbefore] at hopen
      cases hopen
  rw [FileTree.locate_join after directory hname, FileTree.locate_join before directory hname,
    hafter, hopen]
  exact if_congr Iff.rfl rfl (if_congr Iff.rfl rfl (h.step_of_isDirectoryAt hinside _))

/-! ## 3. Making a directory -/

/-- Pieces that say nothing lead nowhere. -/
theorem foldlM_step_silent {tree : FileTree} {place : Place}
    (hplace : tree.isDirectoryAt place = true) {pieces : List Text}
    (hsilent : ∀ piece ∈ pieces, piece = [] ∨ piece = ['.']) :
    pieces.foldlM tree.step place = .ok place := by
  induction pieces with
  | nil => rfl
  | cons piece pieces ih =>
    have hstep : tree.step place piece = .ok place := by
      rw [isDirectoryAt_eq_true] at hplace
      rw [step, hplace]
      rcases hsilent piece List.mem_cons_self with rfl | rfl <;> rfl
    rw [List.foldlM_cons, hstep]
    exact ih fun piece h => hsilent piece (List.mem_cons_of_mem _ h)

/-- A way to a place stays one when a directory is put where nothing was. -/
theorem foldlM_step_put {tree : FileTree} {made : Place} (hmade : tree.entryAt? made = none)
    {pieces : List Text} {place next : Place} (h : pieces.foldlM tree.step place = .ok next) :
    pieces.foldlM (tree.put made .directory).step place = .ok next := by
  have hnil : made ≠ [] := by
    rintro rfl
    cases hmade
  induction pieces generalizing place with
  | nil => exact h
  | cons piece pieces ih =>
    rw [List.foldlM_cons] at h ⊢
    cases hstep : tree.step place piece with
    | error failure =>
      rw [hstep] at h
      cases h
    | ok between =>
      rw [hstep] at h
      have hne : place ≠ made := by
        rintro rfl
        rw [step, hmade] at hstep
        cases hstep
      have hsame : (tree.put made .directory).step place piece = .ok between := by
        rw [step, entryAt?_put hnil, if_neg hne, ← hstep, step]
      rw [hsame]
      exact ih h

theorem locateBy_eq_ok {tree : FileTree} {path : Path} {pieces : List Text} {place : Place} :
    tree.locateBy path pieces = .ok place ↔
      path.text ≠ "" ∧ '\x00' ∉ path.text.toList ∧
        pieces.foldlM tree.step (tree.start path) = .ok place := by
  unfold locateBy
  by_cases hempty : path.text = ""
  · simp [hempty]
  · by_cases hnul : '\x00' ∈ path.text.toList <;> simp [hempty, hnul, String.isEmpty_iff]

theorem isDirectory_eq_true {tree : FileTree} {path : Path} :
    tree.isDirectory path = true ↔
      ∃ place, tree.locate path = .ok place ∧ tree.isDirectoryAt place = true := by
  unfold isDirectory lookup
  cases hlocate : tree.locate path with
  | error failure => simp [bind, Except.bind]
  | ok place =>
    simp only [bind, Except.bind, isDirectoryAt_eq_true, Except.ok.injEq, exists_eq_left']
    rcases tree.entryAt? place with _ | _ | _ <;> simp [pure, Except.pure, throw, throwThe,
      MonadExceptOf.throw]

/-- A path that leads to a directory opens it. -/
theorem opens_of_isDirectory {tree : FileTree} {directory : Path}
    (h : tree.isDirectory directory = true) : tree.Opens directory := by
  obtain ⟨place, hlocate, hplace⟩ := isDirectory_eq_true.1 h
  obtain ⟨hempty, -, hfold⟩ := locateBy_eq_ok.1 hlocate
  rcases Path.pieces_eq_base hempty with hbase | hbase
  · rw [hbase] at hfold
    exact ⟨place, hfold, hplace⟩
  · rw [hbase, List.foldlM_append] at hfold
    obtain ⟨inside, hopen, hstep⟩ := bind_eq_ok.1 hfold
    obtain ⟨next, hnext, -⟩ := bind_eq_ok.1 hstep
    have hinside : tree.isDirectoryAt inside = true := by
      rw [isDirectoryAt_eq_true]
      unfold step at hnext
      rcases hentry : tree.entryAt? inside with _ | _ | _ <;> simp_all
    exact ⟨inside, hopen, hinside⟩

/-- What making a directory comes to: a directory is put where nothing was. -/
theorem makeDirectory_eq_ok {tree made : FileTree} {path : Path}
    (h : tree.makeDirectory path = .ok made) :
    ∃ place, tree.locateBy path (path.pieces.reverse.dropWhile List.isEmpty).reverse = .ok place ∧
      tree.entryAt? place = none ∧ made = tree.put place .directory := by
  obtain ⟨place, hlocate, h⟩ := bind_eq_ok.1 h
  refine ⟨place, hlocate, ?_⟩
  cases hentry : tree.entryAt? place with
  | some entry =>
    rw [hentry] at h
    cases h
  | none =>
    rw [hentry] at h
    dsimp only at h
    split at h
    · exact ⟨rfl, (Except.ok.inj h).symm⟩
    · cases h

theorem isDirectory_of_makeDirectory {tree made : FileTree} {path : Path}
    (h : tree.makeDirectory path = .ok made) : made.isDirectory path = true := by
  obtain ⟨place, hlocate, hentry, rfl⟩ := makeDirectory_eq_ok h
  obtain ⟨hempty, hnul, hfold⟩ := locateBy_eq_ok.1 hlocate
  have hnil : place ≠ [] := by
    rintro rfl
    cases hentry
  have hplace : (tree.put place .directory).isDirectoryAt place = true := by
    rw [isDirectoryAt_eq_true, entryAt?_put hnil, if_pos rfl]
  -- The pieces that were left out at the end of the path are empty, so they lead nowhere.
  have hpieces : path.pieces = (path.pieces.reverse.dropWhile List.isEmpty).reverse ++
      (path.pieces.reverse.takeWhile List.isEmpty).reverse := by
    rw [← List.reverse_append, List.takeWhile_append_dropWhile, List.reverse_reverse]
  refine isDirectory_eq_true.2 ⟨place, locateBy_eq_ok.2 ⟨hempty, hnul, ?_⟩, hplace⟩
  rw [hpieces, List.foldlM_append]
  refine bind_eq_ok.2 ⟨place, foldlM_step_put hentry hfold, ?_⟩
  refine foldlM_step_silent hplace fun piece hpiece => .inl ?_
  rw [List.mem_reverse] at hpiece
  exact List.isEmpty_iff.1 (List.mem_takeWhile_imp hpiece)

/-- A path without components opens the working directory. -/
theorem opens_of_components_isEmpty {tree : FileTree} {path : Path}
    (hhere : tree.isDirectoryAt tree.workingDirectory = true)
    (h : path.components.isEmpty = true) : tree.Opens path := by
  rw [List.isEmpty_iff, Path.components, List.append_eq_nil_iff] at h
  have hrelative : path.isAbsolute = false := by
    by_contra habsolute
    rw [if_pos (by simpa using habsolute)] at h
    cases h.1
  have hstart : tree.start path = tree.workingDirectory := by
    rw [start, hrelative]
    rfl
  refine ⟨tree.workingDirectory, ?_, hhere⟩
  rw [open?, hstart]
  refine foldlM_step_silent hhere fun piece hpiece => ?_
  have hmem := Path.base_subset path hpiece
  by_contra hsays
  have hstep : piece ∈ path.pieces.filter fun piece => piece ≠ [] ∧ piece ≠ ['.'] :=
    List.mem_filter.2 ⟨hmem, by simpa [not_or] using hsays⟩
  have hnone := List.map_eq_nil_iff.1 h.2
  rw [hnone] at hstep
  cases hstep

/-- **A directory that was made is there**, or the working directory is meant and is there. -/
theorem opens_of_makeDirectories {tree made : FileTree} {path : Path}
    (hhere : tree.isDirectoryAt tree.workingDirectory = true)
    (h : tree.makeDirectories path = .ok made) : made.Opens path := by
  unfold makeDirectories makeDirectoriesWithin at h
  split at h
  · next hempty =>
    obtain rfl := Except.ok.inj h
    exact opens_of_components_isEmpty hhere hempty
  · refine opens_of_isDirectory ?_
    have hthere {tree : FileTree} {failure : OsError}
        (h : (if tree.isDirectory path then Except.ok tree else .error failure) = .ok made) :
        made.isDirectory path = true := by
      split at h
      · next hdirectory =>
        obtain rfl := Except.ok.inj h
        exact hdirectory
      · cases h
    split at h
    · next hmake =>
      obtain rfl := Except.ok.inj h
      exact isDirectory_of_makeDirectory hmake
    · split at h
      · cases h
      · obtain ⟨tree', -, h⟩ := bind_eq_ok.1 h
        split at h
        · next hmake =>
          obtain rfl := Except.ok.inj h
          exact isDirectory_of_makeDirectory hmake
        · exact hthere h
    · exact hthere h

end FileTree

end Dispatch
