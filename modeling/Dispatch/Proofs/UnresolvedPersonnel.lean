import Dispatch.Proofs.Personnel
import Dispatch.Proofs.Reporting

/-!
# What a failed resolution leaves

Resolving goes on up to the first position that cannot be resolved, and does not go back. So after a
failure the groups before the failing one are substituted, and in that group the positions before
the failing one; nothing else is touched (`PeopleInfo.replaceNames_leaves`). What was substituted is
no name any more: as long as a group stays as a failure left it, resolving it again fails, whatever
is known of people (`LeftBy.not_isPersonnelGroup`). Main statement: `resolvePersonnel_leaves`.
-/

namespace Dispatch

/-! ## 1. A group up to a position -/

/-- Positions with the information in place of their names. -/
def substitutePositions (info : String → Option Fields) (positions : Fields) : Fields :=
  positions.map fun (position, names) => (position, substitutePosition info names)

/-- A group in which so many positions are substituted, the first ones. -/
def substituteFirst (info : String → Option Fields) (count : Nat) : Value → Value
  | .table positions =>
    .table (substitutePositions info (positions.take count) ++ positions.drop count)
  | value => value

/-- The variables with the first positions of one group substituted. -/
def substituteStart (info : String → Option Fields) (group : String) (count : Nat)
    (vars : Context) : Context :=
  vars.map fun (name, value) =>
    (name, if name = group then substituteFirst info count value else value)

/-- Where resolving stops in a group: at the start if the group is missing or no table, otherwise at
the first position that is no known name and no list of known names. -/
inductive StopsAt (known : String → Prop) : Option Value → Nat → Prop
  | missing : StopsAt known none 0
  | notTable {value : Value} (h : ∀ positions : Fields, value ≠ .table positions) :
    StopsAt known (some value) 0
  | position {front behind : Fields} {entry : String × Value}
    (hfront : ∀ earlier ∈ front, IsPosition known earlier.2)
    (hentry : ¬IsPosition known entry.2) :
    StopsAt known (some (.table (front ++ entry :: behind))) front.length

/-- What is left of the variables when the resolution of some groups fails: the groups before the
failing one are substituted, and in that group the positions before the failing one. -/
inductive LeftBy (info : PeopleInfo) (groups : List String) (vars : Context) : Context → Prop
  | failure {done rest : List String} {group : String} {count : Nat}
    (hgroups : groups = done ++ group :: rest)
    (hdone : ∀ name ∈ done, IsPersonnelGroup info.Knows vars name)
    (hstop : StopsAt info.Knows (Dict.get? group (substitute info.get? done vars)) count) :
    LeftBy info groups vars (substituteStart info.get? group count (substitute info.get? done vars))

section Start

variable (info : String → Option Fields) (group : String) (count : Nat) (vars : Context)

theorem keys_substituteStart :
    Dict.keys (substituteStart info group count vars) = Dict.keys vars :=
  List.map_map

theorem get?_substituteStart (name : String) :
    Dict.get? name (substituteStart info group count vars) =
      (Dict.get? name vars).map fun value =>
        if name = group then substituteFirst info count value else value :=
  Dict.get?_map (fun name value => if name = group then substituteFirst info count value else value)
    name vars

theorem substituteFirst_zero (value : Value) : substituteFirst info 0 value = value := by
  cases value <;> rfl

theorem substituteStart_zero : substituteStart info group 0 vars = vars := by
  refine (List.map_congr_left ?_).trans (List.map_id vars)
  rintro ⟨name, value⟩ -
  simp only [substituteFirst_zero, ite_self]
  rfl

theorem substitute_nil : substitute info [] vars = vars := by
  refine (List.map_congr_left ?_).trans (List.map_id vars)
  rintro ⟨name, value⟩ -
  simp

end Start

namespace LeftBy

variable {info : PeopleInfo} {vars left : Context} {name : String} {rest : List String}

/-- The first group fails. -/
theorem first {count : Nat} (h : StopsAt info.Knows (Dict.get? name vars) count) :
    LeftBy info (name :: rest) vars (substituteStart info.get? name count vars) := by
  rw [← substitute_nil info.get? vars] at h
  have hleft := @LeftBy.failure info (name :: rest) vars [] rest name count rfl
    (fun _ hmem => absurd hmem List.not_mem_nil) h
  rwa [substitute_nil] at hleft

/-- The first group is resolved, and one behind it fails. -/
theorem later (hname : IsPersonnelGroup info.Knows vars name)
    (h : LeftBy info rest (substitute info.get? [name] vars) left) :
    LeftBy info (name :: rest) vars left := by
  obtain ⟨rfl, hdone, hstop⟩ := h
  rename_i done behind group count
  rw [substitute_substitute] at hstop ⊢
  refine .failure rfl (List.forall_mem_cons.mpr ⟨hname, fun other hother => ?_⟩) hstop
  by_cases hsame : other = name
  · exact hsame ▸ hname
  · exact (isPersonnelGroup_substitute _ _ hsame).mp (hdone other hother)

end LeftBy

/-! ## 2. Failures -/

namespace PeopleInfo

variable (info : PeopleInfo)

/-- Positions are resolved up to the first that cannot be. -/
theorem positions_leaves {fields : Fields} {failure : RenderError}
    (h : (info.positions fields).2 = .error failure) :
    ∃ front entry behind, fields = front ++ entry :: behind ∧
      (∀ earlier ∈ front, IsPosition info.Knows earlier.2) ∧ ¬IsPosition info.Knows entry.2 ∧
      (info.positions fields).1 =
        substitutePositions info.get? front ++ entry :: behind := by
  induction fields with
  | nil => cases h
  | cons entry rest ih =>
    obtain ⟨name, names⟩ := entry
    have hfirst := info.position_succeeds names
    rw [positions] at h ⊢
    cases hposition : info.position names with
    | error cause =>
      rw [hposition] at hfirst
      exact ⟨[], (name, names), rest, rfl, fun _ hmem => absurd hmem List.not_mem_nil, hfirst, rfl⟩
    | ok value =>
      rw [hposition] at hfirst h
      obtain ⟨hgood, rfl⟩ := hfirst
      obtain ⟨front, entry, behind, rfl, hfront, hentry, hleft⟩ := ih h
      refine ⟨(name, names) :: front, entry, behind, rfl,
        List.forall_mem_cons.mpr ⟨hgood, hfront⟩, hentry, ?_⟩
      exact congrArg (List.cons _) hleft

/-- A group is resolved up to the first position that cannot be. -/
theorem group_leaves {vars : Context} (hvars : vars.Ascending) {name : String}
    {failure : RenderError} (h : (info.group vars name).2 = .error failure) :
    ∃ count, StopsAt info.Knows (Dict.get? name vars) count ∧
      (info.group vars name).1 = substituteStart info.get? name count vars := by
  rw [group] at h ⊢
  cases hgroup : Dict.get? name vars with
  | none => exact ⟨0, .missing, (substituteStart_zero _ _ vars).symm⟩
  | some value =>
    rw [hgroup] at h
    cases value with
    | table fields =>
      obtain ⟨front, entry, behind, rfl, hfront, hentry, hleft⟩ := info.positions_leaves h
      refine ⟨front.length, .position hfront hentry, ?_⟩
      have hvalue : .table (info.positions (front ++ entry :: behind)).1 =
          substituteFirst info.get? front.length (.table (front ++ entry :: behind)) := by
        rw [hleft, substituteFirst, List.take_left, List.drop_left]
      change Dict.insert name (.table (info.positions (front ++ entry :: behind)).1) vars = _
      rw [hvalue]
      exact hvars.insert_eq_map hgroup (substituteFirst info.get? front.length)
    | _ =>
      refine ⟨0, .notTable ?_, (substituteStart_zero _ _ vars).symm⟩
      intro fields hvalue
      cases hvalue

/-- **Groups are resolved up to the first position that cannot be.** -/
theorem replaceNames_leaves {vars : Context} (hvars : vars.Ascending) {groups : List String}
    {events : List Event} {failure : RenderError}
    (h : ((info.replaceNames vars groups).run events).1.2 = .error failure) :
    LeftBy info groups vars ((info.replaceNames vars groups).run events).1.1 := by
  induction groups generalizing vars events with
  | nil => cases h
  | cons name rest ih =>
    have hgroup := info.group_succeeds hvars name
    have hleaves := @group_leaves info vars hvars name
    rw [replaceNames] at h ⊢
    cases hresolved : info.group vars name with
    | mk resolved outcome =>
      rw [hresolved] at hgroup hleaves h
      cases outcome with
      | error cause =>
        obtain ⟨count, hstop, rfl⟩ := hleaves rfl
        exact .first hstop
      | ok _ =>
        obtain ⟨hgood, hsubstituted⟩ := hgroup
        obtain rfl : resolved = substitute info.get? [name] vars := hsubstituted
        exact .later hgood (ih (ascending_substitute _ _ hvars) h)

/-- Groups that are all resolved were all groups of known names at the start. -/
theorem isPersonnelGroup_of_replaceNames {vars : Context} (hvars : vars.Ascending)
    {groups : List String} {events : List Event}
    (h : ((info.replaceNames vars groups).run events).1.2 = .ok ()) :
    ∀ name ∈ groups, IsPersonnelGroup info.Knows vars name := by
  induction groups generalizing vars events with
  | nil => exact fun _ hmem => absurd hmem List.not_mem_nil
  | cons name rest ih =>
    have hgroup := info.group_succeeds hvars name
    rw [replaceNames] at h
    cases hresolved : info.group vars name with
    | mk resolved outcome =>
      rw [hresolved] at hgroup h
      cases outcome with
      | error cause => cases h
      | ok _ =>
        obtain ⟨hgood, hsubstituted⟩ := hgroup
        obtain rfl : resolved = substitute info.get? [name] vars := hsubstituted
        have hrest := ih (ascending_substitute _ _ hvars) h
        refine List.forall_mem_cons.mpr ⟨hgood, fun other hother => ?_⟩
        by_cases hsame : other = name
        · exact hsame ▸ hgood
        · exact (isPersonnelGroup_substitute _ _ hsame).mp (hrest other hother)

end PeopleInfo

/-! ## 3. Resolving again -/

section Again

variable (info : String → Option Fields)

/-- What is substituted for a name is no name. -/
theorem substituteName_eq_or (value : Value) :
    substituteName info value = value ∨ ∀ known, ¬IsName known (substituteName info value) := by
  cases value with
  | string name =>
    rw [substituteName]
    cases info name with
    | none => exact Or.inl rfl
    | some fields => exact Or.inr fun _ => id
  | _ => exact Or.inl rfl

/-- What is substituted for the names of a position is no position. -/
theorem substitutePosition_eq_or (value : Value) :
    substitutePosition info value = value ∨
      ∀ known, ¬IsPosition known (substitutePosition info value) := by
  cases value with
  | list names =>
    by_cases hall : ∀ name ∈ names, substituteName info name = name
    · exact Or.inl (congrArg Value.list ((List.map_congr_left hall).trans (List.map_id names)))
    · simp only [not_forall] at hall
      obtain ⟨name, hmem, hname⟩ := hall
      refine Or.inr fun known hnames => ?_
      exact (substituteName_eq_or info name).resolve_left hname known
        (hnames _ (List.mem_map_of_mem hmem))
  | string name =>
    simp only [substitutePosition, substituteName]
    cases info name with
    | none => exact Or.inl rfl
    | some fields => exact Or.inr fun _ => id
  | _ => exact Or.inl rfl

/-- A group in which positions were substituted holds something that is no position. -/
theorem substituteFirst_eq_or (count : Nat) (value : Value) :
    substituteFirst info count value = value ∨
      ∃ positions, substituteFirst info count value = .table positions ∧
        ∃ entry ∈ positions, ∀ known, ¬IsPosition known entry.2 := by
  cases value with
  | table positions =>
    by_cases hall : ∀ entry ∈ positions.take count, substitutePosition info entry.2 = entry.2
    · have hfirst : substitutePositions info (positions.take count) = positions.take count := by
        refine (List.map_congr_left fun entry hentry => ?_).trans (List.map_id _)
        exact congrArg (Prod.mk entry.1) (hall entry hentry)
      rw [substituteFirst, hfirst, List.take_append_drop]
      exact Or.inl rfl
    · simp only [not_forall] at hall
      obtain ⟨⟨position, names⟩, hmem, hentry⟩ := hall
      have hplace : (position, substitutePosition info names) ∈
          substitutePositions info (positions.take count) := List.mem_map.mpr ⟨_, hmem, rfl⟩
      exact Or.inr ⟨_, rfl, _, List.mem_append_left _ hplace,
        (substitutePosition_eq_or info names).resolve_left hentry⟩
  | _ => exact Or.inl rfl

theorem substituteFirst_substituteGroup (count : Nat) (value : Value) :
    substituteFirst info count (substituteGroup info value) = substituteGroup info value := by
  cases value with
  | table positions =>
    have hagain : substitutePositions info ((substitutePositions info positions).take count) =
        (substitutePositions info positions).take count := by
      simp only [substitutePositions, ← List.map_take, List.map_map, Function.comp_def,
        substitutePosition_substitutePosition]
    change substituteFirst info count (.table (substitutePositions info positions)) =
      .table (substitutePositions info positions)
    rw [substituteFirst, hagain, List.take_append_drop]
  | _ => rfl

theorem exists_substituteGroup_eq (value : Value) :
    ∃ count, substituteGroup info value = substituteFirst info count value := by
  cases value with
  | table positions =>
    refine ⟨positions.length, ?_⟩
    rw [substituteFirst, List.take_length, List.drop_length, List.append_nil]
    rfl
  | _ => exact ⟨0, rfl⟩

end Again

namespace LeftBy

variable {info : PeopleInfo} {groups : List String} {vars left : Context}
  (h : LeftBy info groups vars left)
include h

theorem keys_eq : Dict.keys left = Dict.keys vars := by
  cases h
  rw [keys_substituteStart, keys_substitute]

/-- Variables that are none of the groups are as they were. -/
theorem get?_of_notMem {name : String} (hname : name ∉ groups) :
    Dict.get? name left = Dict.get? name vars := by
  obtain ⟨rfl, -, -⟩ := h
  rename_i done rest group count
  have hgroup : name ≠ group := fun he => hname (he ▸ List.mem_append_right _ List.mem_cons_self)
  have hdone : name ∉ done := fun hmem => hname (List.mem_append_left _ hmem)
  rw [get?_substituteStart, get?_substitute]
  simp only [if_neg hgroup, if_neg hdone, Option.map_id']

/-- A variable is left with so many of its first positions substituted. -/
theorem exists_get?_eq (name : String) :
    ∃ count, Dict.get? name left =
      (Dict.get? name vars).map (substituteFirst info.get? count) := by
  obtain ⟨-, -, -⟩ := h
  rename_i done rest group count
  rw [get?_substituteStart, get?_substitute]
  cases Dict.get? name vars with
  | none => exact ⟨0, rfl⟩
  | some value =>
    simp only [Option.map_some, Option.some.injEq]
    by_cases hdone : name ∈ done
    · obtain ⟨all, hall⟩ := exists_substituteGroup_eq info.get? value
      refine ⟨all, ?_⟩
      rw [if_pos hdone, substituteFirst_substituteGroup, ite_self, hall]
    · rw [if_neg hdone]
      by_cases hgroup : name = group
      · exact ⟨count, if_pos hgroup⟩
      · exact ⟨0, (if_neg hgroup).trans (substituteFirst_zero info.get? value).symm⟩

/-- **A group that was changed is no group of names any more**, whatever names are known. -/
theorem not_isPersonnelGroup {name : String} (hchanged : Dict.get? name left ≠ Dict.get? name vars)
    {fixed : Context} (hfixed : Dict.get? name fixed = Dict.get? name left)
    (known : String → Prop) : ¬IsPersonnelGroup known fixed name := by
  obtain ⟨count, hleft⟩ := h.exists_get?_eq name
  rintro ⟨positions, hpositions, hnames⟩
  cases hvalue : Dict.get? name vars with
  | none =>
    rw [hvalue] at hleft hchanged
    exact hchanged hleft
  | some value =>
    rw [hvalue] at hleft hchanged
    rcases substituteFirst_eq_or info.get? count value with
      hsame | ⟨others, hothers, entry, hmem, hnot⟩
    · exact hchanged (hleft.trans (congrArg some hsame))
    · rw [Option.map_some, hothers] at hleft
      cases hpositions.symm.trans (hfixed.trans hleft)
      exact hnot known (hnames entry hmem)

end LeftBy

/-! ## 4. Failed resolutions -/

/-- The program fails, whatever was reported before. -/
def Fails (action : Logged (Context × Except RenderError Unit)) : Prop :=
  action.Returns fun result => ∃ failure, result.2 = .error failure

theorem fails_replaceNames (info : PeopleInfo) {vars : Context} (hvars : vars.Ascending)
    {groups : List String} {name : String} (hname : name ∈ groups)
    (h : ¬IsPersonnelGroup info.Knows vars name) : Fails (info.replaceNames vars groups) := by
  intro events
  cases hresult : ((info.replaceNames vars groups).run events).1.2 with
  | error failure => exact ⟨failure, rfl⟩
  | ok _ => exact absurd (info.isPersonnelGroup_of_replaceNames hvars hresult name hname) h

/-- Resolving is collecting information and then replacing names, unless there is none. -/
theorem resolvePersonnel_cases (vars : Context) (people personnel : List String)
    (events : List Event) :
    (∃ failure, PeopleInfo.ofGroups vars people = .error failure ∧
        ((resolvePersonnel vars people personnel).run events).1 = (vars, .error failure)) ∨
      ∃ info, PeopleInfo.ofGroups vars people = .ok info ∧
        ((resolvePersonnel vars people personnel).run events).1 =
          ((info.replaceNames vars personnel).run (events ++ [.loadedPeople info.size])).1 := by
  rw [resolvePersonnel, collectPeople]
  cases PeopleInfo.ofGroups vars people with
  | error failure => exact Or.inl ⟨failure, rfl, rfl⟩
  | ok info => exact Or.inr ⟨info, rfl, rfl⟩

/-- **Resolving fails where a group is no group of names**, whatever is known of people. -/
theorem fails_resolvePersonnel {vars : Context} (hvars : vars.Ascending) {groups : List String}
    {name : String} (hname : name ∈ groups)
    (h : ∀ known : String → Prop, ¬IsPersonnelGroup known vars name) (people : List String) :
    Fails (resolvePersonnel vars people groups) := by
  intro events
  rcases resolvePersonnel_cases vars people groups events with
    ⟨cause, -, hresult⟩ | ⟨info, -, hresult⟩
  · exact ⟨cause, congrArg Prod.snd hresult⟩
  · rw [hresult]
    exact fails_replaceNames info hvars hname (h _) _

/-- **A failed resolution leaves what was resolved before the failure.** If no information can be
collected, the variables are as they were. If names cannot be replaced, with whatever information,
the groups before the failing one are substituted, and in that group the positions before the
failing one; the other variables are as they were. As long as a group that was changed stays as it
was left, every later call that lists it fails. -/
theorem resolvePersonnel_leaves (vars : Context) (people personnel : List String)
    (hvars : vars.Ascending) (events : List Event) :
    (∀ info : PeopleInfo,
        let result := ((info.replaceNames vars personnel).run events).1
        ∀ failure, result.2 = .error failure → LeftBy info personnel vars result.1) ∧
      (let result := ((resolvePersonnel vars people personnel).run events).1
        ∀ failure, result.2 = .error failure →
          PeopleInfo.ofGroups vars people = .error failure ∧ result.1 = vars ∨
            ∃ info, PeopleInfo.ofGroups vars people = .ok info ∧
              LeftBy info personnel vars result.1) ∧
      ∀ info left, LeftBy info personnel vars left →
        Dict.keys left = Dict.keys vars ∧
          (∀ name, name ∉ personnel → Dict.get? name left = Dict.get? name vars) ∧
          ∀ name, Dict.get? name left ≠ Dict.get? name vars →
            ∀ fixed : Context, fixed.Ascending → Dict.get? name fixed = Dict.get? name left →
              ∀ later : List String, name ∈ later →
                (∀ other : PeopleInfo, Fails (other.replaceNames fixed later)) ∧
                  ∀ others, Fails (resolvePersonnel fixed others later) := by
  refine ⟨fun info failure hfailure => info.replaceNames_leaves hvars hfailure,
    fun failure hfailure => ?_, fun info left hleft => ⟨hleft.keys_eq, fun name hname =>
      hleft.get?_of_notMem hname, fun name hchanged fixed hordered hfixed later hlater => ?_⟩⟩
  · rcases resolvePersonnel_cases vars people personnel events with
      ⟨cause, hcause, hresult⟩ | ⟨info, hinfo, hresult⟩
    · rw [hresult] at hfailure ⊢
      cases hfailure
      exact Or.inl ⟨hcause, rfl⟩
    · rw [hresult] at hfailure ⊢
      exact Or.inr ⟨info, hinfo, info.replaceNames_leaves hvars hfailure⟩
  · have hnot := hleft.not_isPersonnelGroup hchanged hfixed
    exact ⟨fun other => fails_replaceNames other hordered hlater (hnot _),
      fails_resolvePersonnel hordered hlater hnot⟩

/-- A crew of two, on one of whom there is no information. -/
def halfKnownVars : Context :=
  [("crew", .table [("cook", .string "Ann"), ("pilot", .string "Zed")]),
   ("people", .table [("Ann", .table [])])]

/-- The variables with information on both. -/
def withBoth (vars : Context) : Context :=
  Dict.insert "people" (.table [("Ann", .table []), ("Zed", .table [])]) vars

/-- The call for the crew and the passengers fails at the pilot; as long as the crew is as it was
left, a call for the crew alone fails as well. -/
theorem resolvePersonnel_halfKnown :
    let left := ((resolvePersonnel halfKnownVars ["people"] ["crew", "passengers"]).run []).1.1
    halfKnownVars.Ascending ∧
      (∃ info, PeopleInfo.ofGroups halfKnownVars ["people"] = .ok info ∧
        LeftBy info ["crew", "passengers"] halfKnownVars left) ∧
      Dict.get? "crew" left ≠ Dict.get? "crew" halfKnownVars ∧
      Fails (resolvePersonnel (withBoth left) ["people"] ["crew"]) := by
  intro left
  have hordered : halfKnownVars.Ascending := by decide
  obtain ⟨-, hfails, hagain⟩ :=
    resolvePersonnel_leaves halfKnownVars ["people"] ["crew", "passengers"] hordered []
  rcases hfails (.personNotFound "Zed") rfl with ⟨hnone, -⟩ | ⟨info, hinfo, hleft⟩
  · cases hnone
  · have hcrew : Dict.get? "crew" left = some (.table
        [("cook", .table [("name", .string "Ann")]), ("pilot", .string "Zed")]) := rfl
    have hchanged : Dict.get? "crew" left ≠ Dict.get? "crew" halfKnownVars := by
      rw [hcrew]
      intro hsame
      cases hsame
    refine ⟨hordered, ⟨info, hinfo, hleft⟩, hchanged, ?_⟩
    exact ((hagain info left hleft).2.2 "crew" hchanged (withBoth left) (by decide) rfl ["crew"]
      List.mem_cons_self).2 ["people"]

/-- The first position is resolved although the second fails, and with the missing information the
variables that are left are not resolved as the ones at the start are. -/
theorem resolvePersonnel_not_undone :
    let failed := ((resolvePersonnel halfKnownVars ["people"] ["crew"]).run []).1
    failed.2 = .error (.personNotFound "Zed") ∧ failed.1 ≠ halfKnownVars ∧
      ((resolvePersonnel (withBoth halfKnownVars) ["people"] ["crew"]).run []).1.2 = .ok () ∧
      ((resolvePersonnel (withBoth failed.1) ["people"] ["crew"]).run []).1.2 =
        .error (.personNotFound "\x7b\"name\":\"Ann\"\x7d") := by
  intro failed
  have hleft : failed.1 =
      [("crew", .table [("cook", .table [("name", .string "Ann")]), ("pilot", .string "Zed")]),
       ("people", .table [("Ann", .table [])])] := rfl
  refine ⟨rfl, fun hsame => ?_, rfl, rfl⟩
  rw [hleft] at hsame
  cases hsame

end Dispatch
