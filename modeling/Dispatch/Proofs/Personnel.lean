import Dispatch.Personnel
import Dispatch.Proofs.Dict

/-!
# What resolving personnel substitutes

Collecting information succeeds exactly if the groups are tables of tables, and then knows of every
person what the last group with the person holds (`ofGroups_succeeds`). With it, a name, a position,
a group and a row of groups are resolved exactly if all names in them are known, and then each name
has its information in its place (`lookup_succeeds`, `position_succeeds`, `group_succeeds`,
`replaceNames_succeeds`): a group that is resolved is a value of the variables that is given a new
value in its place, and the groups are different ones, so none is resolved twice. Main statement:
`resolvePersonnel_substitutes`.
-/

namespace Dispatch

/-! ## 1. When a program succeeds -/

section Succeeds

variable {ε α β : Type} {good other : Prop} {value : α → Prop}

/-- The outcome is a success exactly if the condition holds, and then the value is as told. -/
def Succeeds (outcome : Except ε α) (good : Prop) (value : α → Prop) : Prop :=
  match outcome with
  | .ok a => good ∧ value a
  | .error _ => ¬good

namespace Succeeds

variable {outcome : Except ε α} (h : Succeeds outcome good value)
include h

theorem exists_ok_iff : (∃ a, outcome = .ok a) ↔ good := by
  cases outcome with
  | ok a => exact ⟨fun _ => h.1, fun _ => ⟨a, rfl⟩⟩
  | error failure => exact ⟨fun ⟨_, hok⟩ => (nomatch hok), fun hgood => absurd hgood h⟩

theorem value_of_ok {a : α} (ha : outcome = .ok a) : value a := by
  subst ha
  exact h.2

theorem imp {told : α → Prop} (hgood : good ↔ other) (hvalue : ∀ a, good → value a → told a) :
    Succeeds outcome other told := by
  cases outcome with
  | ok a => exact ⟨hgood.mp h.1, hvalue a h.1 h.2⟩
  | error failure => exact mt hgood.mpr h

theorem map {f : α → β} {told : β → Prop} (hvalue : ∀ a, value a → told (f a)) :
    Succeeds (outcome.map f) good told := by
  cases outcome with
  | ok a => exact ⟨h.1, hvalue a h.2⟩
  | error failure => exact h

/-- One program after another: both succeed. -/
theorem bind {next : α → Except ε β} {told : β → Prop}
    (hnext : ∀ a, good → value a → Succeeds (next a) other told) :
    Succeeds (outcome >>= next) (good ∧ other) told := by
  cases outcome with
  | ok a => exact (hnext a h.1 h.2).imp ⟨fun hother => ⟨h.1, hother⟩, And.right⟩ fun _ _ => id
  | error failure => exact fun hboth => h hboth.1

end Succeeds

/-- All elements of a list are mapped exactly if each of them is. -/
theorem succeeds_mapM {f : α → Except ε β} {good : α → Prop} {image : α → β}
    (h : ∀ a, Succeeds (f a) (good a) (· = image a)) (items : List α) :
    Succeeds (items.mapM f) (∀ a ∈ items, good a) (· = items.map image) := by
  induction items with
  | nil => exact ⟨fun _ hmem => absurd hmem List.not_mem_nil, rfl⟩
  | cons item items ih =>
    rw [List.mapM_cons, List.forall_mem_cons, List.map_cons]
    refine (h item).bind fun b _ hb => ?_
    exact ih.map fun others hothers => hb ▸ hothers ▸ rfl

end Succeeds

/-! ## 2. The information that the variables hold -/

/-- The information on a member of a group, with the name of the person. -/
def memberInfo (person : String) (members : Fields) : Option Fields :=
  match Dict.get? person members with
  | some (.table info) => some (Dict.insert "name" (.string person) info)
  | _ => none

/-- The information that a group of the variables holds on a person. -/
def groupInfo (vars : Context) (person group : String) : Option Fields :=
  match Dict.get? group vars with
  | some (.table members) => memberInfo person members
  | _ => none

/-- The information that some groups of the variables hold on a person: that of the last one. -/
def heldInfo (vars : Context) (groups : List String) (person : String) : Option Fields :=
  groups.reverse.findSome? (groupInfo vars person)

/-- The person occurs in one of the groups. -/
def Occurs (vars : Context) (groups : List String) (person : String) : Prop :=
  ∃ group ∈ groups, ∃ members, Dict.get? group vars = some (.table members) ∧
    person ∈ Dict.keys members

/-- Every field is a table. -/
def AllTables (members : Fields) : Prop := ∀ entry ∈ members, ∃ info, entry.2 = .table info

/-- The group is a table of tables. -/
def IsPeopleGroup (vars : Context) (group : String) : Prop :=
  ∃ members, Dict.get? group vars = some (.table members) ∧ AllTables members

/-- The variables are a dictionary, and so is every table among them. -/
structure ProperVars (vars : Context) : Prop where
  ascending : vars.Ascending
  tables : ∀ group members, Dict.get? group vars = some (.table members) → Dict.Ascending members

theorem heldInfo_cons (vars : Context) (group : String) (groups : List String) (person : String) :
    heldInfo vars (group :: groups) person =
      (heldInfo vars groups person).or (groupInfo vars person group) := by
  rw [heldInfo, List.reverse_cons, List.findSome?_append, List.findSome?_singleton]
  rfl

theorem isSome_memberInfo {members : Fields} (h : AllTables members) (person : String) :
    (memberInfo person members).isSome = true ↔ person ∈ Dict.keys members := by
  rw [← Dict.contains_iff_mem_keys, Dict.contains, memberInfo]
  cases hfound : Dict.get? person members with
  | none => exact Iff.rfl
  | some value =>
    obtain ⟨info, hinfo⟩ := h _ (Dict.mem_of_get? hfound)
    obtain rfl : value = .table info := hinfo
    exact Iff.rfl

/-- Groups of tables hold information on the persons that occur in them. -/
theorem isSome_heldInfo {vars : Context} {groups : List String}
    (h : ∀ group ∈ groups, IsPeopleGroup vars group) (person : String) :
    (heldInfo vars groups person).isSome = true ↔ Occurs vars groups person := by
  rw [heldInfo, List.findSome?_isSome_iff]
  constructor
  · rintro ⟨group, hmem, hinfo⟩
    have hmem := List.mem_reverse.mp hmem
    obtain ⟨members, hmembers, htables⟩ := h group hmem
    rw [groupInfo, hmembers, isSome_memberInfo htables] at hinfo
    exact ⟨group, hmem, members, hmembers, hinfo⟩
  · rintro ⟨group, hmem, members, hmembers, hperson⟩
    obtain ⟨others, hothers, htables⟩ := h group hmem
    obtain rfl : members = others := by
      rw [hmembers] at hothers
      exact Value.table.inj (Option.some.inj hothers)
    refine ⟨group, List.mem_reverse.mpr hmem, ?_⟩
    rw [groupInfo, hmembers, isSome_memberInfo htables]
    exact hperson

namespace PeopleInfo

/-- The members of a group are known exactly if each of them is a table. -/
theorem addMembers_succeeds (group : String) (people : Dict String Fields) {members : Fields}
    (hmembers : Dict.Ascending members) :
    Succeeds (addMembers group people members) (AllTables members) fun known =>
      ∀ person, Dict.get? person known =
        (memberInfo person members).or (Dict.get? person people) := by
  induction members generalizing people with
  | nil => exact ⟨fun _ hmem => absurd hmem List.not_mem_nil, fun _ => rfl⟩
  | cons entry rest ih =>
    obtain ⟨name, value⟩ := entry
    obtain ⟨hfirst, hrest⟩ := List.pairwise_cons.mp hmembers
    cases value with
    | table info =>
      have htables : AllTables rest ↔ AllTables ((name, .table info) :: rest) := by
        refine ⟨fun h => List.forall_mem_cons.mpr ⟨⟨info, rfl⟩, h⟩, fun h => ?_⟩
        exact (List.forall_mem_cons.mp h).2
      rw [addMembers]
      refine (ih _ hrest).imp htables fun known _ hknown person => ?_
      rw [hknown]
      by_cases hname : person = name
      · -- a person stands once in a group, so the rest does not hold the person
        subst hname
        have hnone : Dict.get? person rest = none := Dict.get?_eq_none_iff.mpr fun hmem => by
          obtain ⟨entry, hentry, rfl⟩ := List.mem_map.mp hmem
          exact Std.lt_irrefl (hfirst entry hentry)
        rw [memberInfo, hnone, Dict.get?_insert_self, memberInfo, Dict.get?_cons, if_pos rfl]
        rfl
      · have hothers : memberInfo person ((name, .table info) :: rest) =
            memberInfo person rest := by
          rw [memberInfo, Dict.get?_cons, if_neg hname, memberInfo]
        rw [Dict.get?_insert_of_ne hname, hothers]
    | _ =>
      intro htables
      obtain ⟨info, hinfo⟩ := htables _ List.mem_cons_self
      cases hinfo

/-- The groups are known exactly if each of them is a table of tables. -/
theorem addGroups_succeeds {vars : Context} (hvars : ProperVars vars)
    (people : Dict String Fields) (groups : List String) :
    Succeeds (addGroups vars people groups) (∀ group ∈ groups, IsPeopleGroup vars group)
      fun known => ∀ person, Dict.get? person known =
        (heldInfo vars groups person).or (Dict.get? person people) := by
  induction groups generalizing people with
  | nil => exact ⟨fun _ hmem => absurd hmem List.not_mem_nil, fun _ => rfl⟩
  | cons group groups ih =>
    rw [addGroups, List.forall_mem_cons]
    cases hgroup : Dict.get? group vars with
    | none =>
      rintro ⟨⟨members, hmembers, -⟩, -⟩
      cases hgroup.symm.trans hmembers
    | some value =>
      cases value with
      | table members =>
        have hmembers := addMembers_succeeds group people (hvars.tables group members hgroup)
        have htables : AllTables members ↔ IsPeopleGroup vars group := by
          refine ⟨fun h => ⟨members, hgroup, h⟩, ?_⟩
          rintro ⟨others, hothers, h⟩
          cases hgroup.symm.trans hothers
          exact h
        refine (hmembers.imp htables fun _ _ => id).bind fun known _ hknown => ?_
        refine (ih known).imp Iff.rfl fun result _ hresult person => ?_
        rw [hresult, hknown, heldInfo_cons, groupInfo, hgroup, Option.or_assoc]
      | _ =>
        rintro ⟨⟨members, hmembers, -⟩, -⟩
        cases hgroup.symm.trans hmembers

/-- **Information is collected exactly if the groups are tables of tables**, and is what the last
group with a person holds. -/
theorem ofGroups_succeeds {vars : Context} (hvars : ProperVars vars) (groups : List String) :
    Succeeds (ofGroups vars groups) (∀ group ∈ groups, IsPeopleGroup vars group) fun info =>
      ∀ person, info.get? person = heldInfo vars groups person :=
  (addGroups_succeeds hvars [] groups).map fun _ hknown person =>
    (hknown person).trans Option.or_none

end PeopleInfo

/-! ## 3. Names and their substitution -/

/-- The value is a name, and the name is known. -/
def IsName (known : String → Prop) : Value → Prop
  | .string name => known name
  | _ => False

/-- The value of a position is a known name, or a list of such. -/
def IsPosition (known : String → Prop) : Value → Prop
  | .list names => ∀ name ∈ names, IsName known name
  | name => IsName known name

/-- The group is a table of positions. -/
def IsPersonnelGroup (known : String → Prop) (vars : Context) (group : String) : Prop :=
  ∃ positions, Dict.get? group vars = some (.table positions) ∧
    ∀ entry ∈ positions, IsPosition known entry.2

/-- A name with the information in its place. -/
def substituteName (info : String → Option Fields) : Value → Value
  | .string name =>
    match info name with
    | some fields => .table fields
    | none => .string name
  | value => value

/-- A position with the information in place of its name, or of each in its list. -/
def substitutePosition (info : String → Option Fields) : Value → Value
  | .list names => .list (names.map (substituteName info))
  | name => substituteName info name

/-- A group with its positions substituted. -/
def substituteGroup (info : String → Option Fields) : Value → Value
  | .table positions =>
    .table (positions.map fun (position, names) => (position, substitutePosition info names))
  | value => value

/-- The variables with some groups substituted: each variable in its place, the others as they
are. -/
def substitute (info : String → Option Fields) (groups : List String) (vars : Context) : Context :=
  vars.map fun (name, value) =>
    (name, if name ∈ groups then substituteGroup info value else value)

section Substitute

variable (info : String → Option Fields) (groups : List String) (vars : Context)

theorem substituteName_substituteName (value : Value) :
    substituteName info (substituteName info value) = substituteName info value := by
  cases value with
  | string name =>
    rw [substituteName]
    cases hinfo : info name with
    | none => simp only [substituteName, hinfo]
    | some fields => rfl
  | _ => rfl

theorem substitutePosition_substitutePosition (value : Value) :
    substitutePosition info (substitutePosition info value) = substitutePosition info value := by
  cases value with
  | list names =>
    simp only [substitutePosition, List.map_map, Function.comp_def, substituteName_substituteName]
  | string name =>
    cases hinfo : info name with
    | none => simp only [substitutePosition, substituteName, hinfo]
    | some fields => simp only [substitutePosition, substituteName, hinfo]
  | _ => rfl

/-- A group is substituted once and for all. -/
theorem substituteGroup_substituteGroup (value : Value) :
    substituteGroup info (substituteGroup info value) = substituteGroup info value := by
  cases value with
  | table positions =>
    simp only [substituteGroup, List.map_map, Function.comp_def,
      substitutePosition_substitutePosition]
  | _ => rfl

theorem keys_substitute : Dict.keys (substitute info groups vars) = Dict.keys vars :=
  List.map_map

theorem get?_substitute (name : String) :
    Dict.get? name (substitute info groups vars) =
      (Dict.get? name vars).map fun value =>
        if name ∈ groups then substituteGroup info value else value :=
  Dict.get?_map (fun name value => if name ∈ groups then substituteGroup info value else value) name
    vars

theorem ascending_substitute {vars : Context} (h : vars.Ascending) :
    (substitute info groups vars).Ascending := List.pairwise_map.mpr h

/-- One group and then others are all of them together. -/
theorem substitute_substitute (group : String) :
    substitute info groups (substitute info [group] vars) =
      substitute info (group :: groups) vars := by
  rw [substitute, substitute, substitute, List.map_map]
  refine List.map_congr_left ?_
  rintro ⟨name, value⟩ -
  by_cases hname : name = group
  · subst hname
    by_cases hmem : name ∈ groups <;> simp [hmem, substituteGroup_substituteGroup]
  · simp [hname]

theorem isPersonnelGroup_substitute {known : String → Prop} {group other : String}
    (h : other ≠ group) :
    IsPersonnelGroup known (substitute info [group] vars) other ↔
      IsPersonnelGroup known vars other := by
  have hnot : other ∉ [group] := fun hmem => h (List.mem_singleton.mp hmem)
  have hsame : Dict.get? other (substitute info [group] vars) = Dict.get? other vars := by
    rw [get?_substitute]
    simp only [if_neg hnot, Option.map_id']
  rw [IsPersonnelGroup, hsame]
  rfl

end Substitute

/-! ## 4. Replacing names -/

namespace PeopleInfo

variable (info : PeopleInfo)

/-- There is information on the person. -/
def Knows (name : String) : Prop := (info.get? name).isSome = true

theorem lookup_succeeds (value : Value) :
    Succeeds (info.lookup value) (IsName info.Knows value)
      (· = substituteName info.get? value) := by
  cases value with
  | string name =>
    rw [lookup, IsName, Knows, substituteName]
    cases info.get? name with
    | none => exact Bool.false_ne_true
    | some fields => exact ⟨rfl, rfl⟩
  | _ => exact id

theorem position_succeeds (value : Value) :
    Succeeds (info.position value) (IsPosition info.Knows value)
      (· = substitutePosition info.get? value) := by
  have hname := info.lookup_succeeds value
  cases value with
  | list names =>
    exact (succeeds_mapM info.lookup_succeeds names).map fun _ hitems => congrArg Value.list hitems
  | _ => exact hname

/-- Positions are resolved exactly if each of them can be. -/
theorem positions_succeeds (fields : Fields) :
    Succeeds (info.positions fields).2 (∀ entry ∈ fields, IsPosition info.Knows entry.2) fun _ =>
      (info.positions fields).1 =
        fields.map fun (position, names) => (position, substitutePosition info.get? names) := by
  induction fields with
  | nil => exact ⟨fun _ hmem => absurd hmem List.not_mem_nil, rfl⟩
  | cons entry rest ih =>
    obtain ⟨name, names⟩ := entry
    have hfirst := info.position_succeeds names
    rw [positions, List.forall_mem_cons]
    cases hposition : info.position names with
    | error failure =>
      rw [hposition] at hfirst
      exact fun hall => hfirst hall.1
    | ok value =>
      rw [hposition] at hfirst
      obtain ⟨hgood, rfl⟩ := hfirst
      exact ih.imp ⟨fun hrest => ⟨hgood, hrest⟩, And.right⟩ fun _ _ hrest =>
        congrArg (List.cons _) hrest

/-- **A group is resolved exactly if it is a table of positions**, and then in its place. -/
theorem group_succeeds {vars : Context} (hvars : vars.Ascending) (name : String) :
    Succeeds (info.group vars name).2 (IsPersonnelGroup info.Knows vars name) fun _ =>
      (info.group vars name).1 = substitute info.get? [name] vars := by
  rw [group]
  cases hgroup : Dict.get? name vars with
  | none =>
    rintro ⟨fields, hfields, -⟩
    cases hgroup.symm.trans hfields
  | some value =>
    cases value with
    | table fields =>
      have hgood : (∀ entry ∈ fields, IsPosition info.Knows entry.2) ↔
          IsPersonnelGroup info.Knows vars name := by
        refine ⟨fun h => ⟨fields, hgroup, h⟩, ?_⟩
        rintro ⟨others, hothers, h⟩
        cases hgroup.symm.trans hothers
        exact h
      refine (info.positions_succeeds fields).imp hgood fun _ _ hfields => ?_
      change Dict.insert name (.table (info.positions fields).1) vars = _
      rw [hfields, substitute]
      simp only [List.mem_singleton]
      exact hvars.insert_eq_map hgroup (substituteGroup info.get?)
    | _ =>
      rintro ⟨fields, hfields, -⟩
      cases hgroup.symm.trans hfields

/-- **Different groups are resolved exactly if each of them can be**, and then in their places. -/
theorem replaceNames_succeeds {vars : Context} (hvars : vars.Ascending) {groups : List String}
    (hdistinct : groups.Nodup) (events : List Event) :
    Succeeds ((info.replaceNames vars groups).run events).1.2
      (∀ group ∈ groups, IsPersonnelGroup info.Knows vars group) fun _ =>
        ((info.replaceNames vars groups).run events).1.1 = substitute info.get? groups vars := by
  induction groups generalizing vars events with
  | nil =>
    refine ⟨fun _ hmem => absurd hmem List.not_mem_nil, ?_⟩
    rw [substitute]
    exact (List.map_id vars).symm
  | cons name rest ih =>
    obtain ⟨hname, hrest⟩ := List.nodup_cons.mp hdistinct
    have hgroup := info.group_succeeds hvars name
    rw [replaceNames, List.forall_mem_cons]
    cases hresolved : info.group vars name with
    | mk resolved outcome =>
      rw [hresolved] at hgroup
      cases outcome with
      | error failure => exact fun hall => hgroup hall.1
      | ok _ =>
        obtain ⟨hgood, hsubstituted⟩ := hgroup
        obtain rfl : resolved = substitute info.get? [name] vars := hsubstituted
        have hothers : (∀ group ∈ rest,
            IsPersonnelGroup info.Knows (substitute info.get? [name] vars) group) ↔
              ∀ group ∈ rest, IsPersonnelGroup info.Knows vars group :=
          forall₂_congr fun group hmem =>
            isPersonnelGroup_substitute _ _ fun he => hname (he ▸ hmem)
        have hordered : (substitute info.get? [name] vars).Ascending :=
          ascending_substitute _ _ hvars
        refine (ih hordered hrest (events ++ [.replacedNames name])).imp
          (hothers.trans ⟨fun h => ⟨hgood, h⟩, And.right⟩) fun _ _ hvalue => ?_
        exact hvalue.trans (substitute_substitute _ _ _ name)

end PeopleInfo

/-! ## 5. Resolving personnel -/

/-- Personnel can be resolved: the groups with information on people are tables of tables, and every
position in the groups of personnel is the name of a person who occurs in those, or a list of such
names. -/
structure Resolvable (vars : Context) (people personnel : List String) : Prop where
  tables : ∀ group ∈ people, IsPeopleGroup vars group
  names : ∀ group ∈ personnel, IsPersonnelGroup (Occurs vars people) vars group

variable {vars : Context} {people personnel : List String}

theorem resolvePersonnel_succeeds (hvars : ProperVars vars) (hdistinct : personnel.Nodup)
    (events : List Event) :
    let result := ((resolvePersonnel vars people personnel).run events).1
    Succeeds result.2 (Resolvable vars people personnel) fun _ =>
      result.1 = substitute (heldInfo vars people) personnel vars := by
  have hpeople := PeopleInfo.ofGroups_succeeds hvars people
  dsimp only
  rw [resolvePersonnel, collectPeople]
  cases hinfo : PeopleInfo.ofGroups vars people with
  | error failure =>
    rw [hinfo] at hpeople
    exact fun hresolvable => hpeople hresolvable.tables
  | ok info =>
    rw [hinfo] at hpeople
    obtain ⟨hgood, hheld⟩ := hpeople
    have hget : info.get? = heldInfo vars people := funext hheld
    have hknows : info.Knows = Occurs vars people := by
      funext name
      rw [PeopleInfo.Knows, hheld]
      exact propext (isSome_heldInfo hgood name)
    have hreplaced := info.replaceNames_succeeds hvars.ascending hdistinct
      (events ++ [.loadedPeople info.size])
    rw [hget, hknows] at hreplaced
    exact hreplaced.imp ⟨fun h => ⟨hgood, h⟩, fun h => h.names⟩ fun _ _ => id

theorem Resolvable.perm (h : Resolvable vars people personnel) {others : List String}
    (hperm : others.Perm personnel) : Resolvable vars people others :=
  ⟨h.tables, fun group hmem => h.names group (hperm.mem_iff.mp hmem)⟩

/-- The order of the groups does not matter. -/
theorem substitute_perm (info : String → Option Fields) {groups others : List String}
    (h : others.Perm groups) (vars : Context) :
    substitute info others vars = substitute info groups vars := by
  simp only [substitute, h.mem_iff]

/-- **Resolving personnel puts the information in place of the names.** It succeeds exactly if all
groups are as they should be and every person is known. Then the variables are the same, each in its
place; in the groups of personnel each name is the information that the last group with the person
held at the start; and the order of the groups of personnel does not matter. -/
theorem resolvePersonnel_substitutes (vars : Context) (people personnel : List String)
    (hvars : ProperVars vars) (hdistinct : personnel.Nodup) (events : List Event) :
    let result := ((resolvePersonnel vars people personnel).run events).1
    (result.2 = .ok () ↔ Resolvable vars people personnel) ∧
      (result.2 = .ok () → result.1 = substitute (heldInfo vars people) personnel vars ∧
        Dict.keys result.1 = Dict.keys vars ∧
        ∀ name, name ∉ personnel → Dict.get? name result.1 = Dict.get? name vars) ∧
      ∀ others, others.Perm personnel →
        let again := ((resolvePersonnel vars people others).run events).1
        (again.2 = .ok () ↔ result.2 = .ok ()) ∧ (result.2 = .ok () → again.1 = result.1) := by
  intro result
  have hsucceeds (groups : List String) (hgroups : groups.Nodup) :
      let outcome := ((resolvePersonnel vars people groups).run events).1
      (outcome.2 = .ok () ↔ Resolvable vars people groups) ∧
        (outcome.2 = .ok () → outcome.1 = substitute (heldInfo vars people) groups vars) := by
    have h := @resolvePersonnel_succeeds vars people groups hvars hgroups events
    refine ⟨⟨fun hok => h.exists_ok_iff.mp ⟨(), hok⟩, fun hgood => ?_⟩, h.value_of_ok⟩
    obtain ⟨_, hok⟩ := h.exists_ok_iff.mpr hgood
    exact hok
  obtain ⟨hiff, hvalue⟩ := hsucceeds personnel hdistinct
  refine ⟨hiff, fun hok => ⟨hvalue hok, ?_, fun name hname => ?_⟩, fun others hperm => ?_⟩
  · rw [hvalue hok, keys_substitute]
  · rw [hvalue hok, get?_substitute]
    simp only [if_neg hname, Option.map_id']
  · obtain ⟨hagain, hother⟩ := hsucceeds others (hperm.nodup_iff.mpr hdistinct)
    have hsame : Resolvable vars people others ↔ Resolvable vars people personnel :=
      ⟨fun h => h.perm hperm.symm, fun h => h.perm hperm⟩
    refine ⟨hagain.trans (hsame.trans hiff.symm), fun hok => ?_⟩
    rw [hother (hagain.mpr (hsame.mpr (hiff.mp hok))), hvalue hok, substitute_perm _ hperm]

/-- Two groups of people and one of personnel, whose pilot stands in both. -/
def crewVars : Context :=
  [("crew", .table [("navigator", .list [.string "Bo"]), ("pilot", .string "Ann")]),
   ("first", .table [("Ann", .table [("home", .string "A")]), ("Bo", .table [])]),
   ("second", .table [("Ann", .table [("home", .string "B")])])]

theorem resolvePersonnel_crewVars :
    ProperVars crewVars ∧ Resolvable crewVars ["first", "second"] ["crew"] ∧
      Dict.get? "crew" ((resolvePersonnel crewVars ["first", "second"] ["crew"]).run []).1.1 =
        some (.table
          [("navigator", .list [.table [("name", .string "Bo")]]),
           ("pilot", .table [("home", .string "B"), ("name", .string "Ann")])]) := by
  have hproper : ProperVars crewVars := by
    refine ⟨by decide, fun group members hmembers => ?_⟩
    have hmem := Dict.mem_of_get? hmembers
    simp only [crewVars, List.mem_cons, List.not_mem_nil, or_false, Prod.mk.injEq,
      Value.table.injEq] at hmem
    rcases hmem with ⟨-, rfl⟩ | ⟨-, rfl⟩ | ⟨-, rfl⟩ <;> decide
  obtain ⟨hiff, hvalue, -⟩ :=
    resolvePersonnel_substitutes crewVars ["first", "second"] ["crew"] hproper (by decide) []
  have hok := hiff.mp rfl
  refine ⟨hproper, hok, ?_⟩
  rw [(hvalue rfl).1]
  rfl

end Dispatch
