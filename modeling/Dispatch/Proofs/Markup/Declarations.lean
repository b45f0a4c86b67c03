import Mathlib.Data.List.Induction
import Mathlib.Data.List.Nodup
import Dispatch.Proofs.Markup.Builds
import Dispatch.Proofs.Markup.LastRule

/-!
# Draining a registry

A declaration by itself makes a formatter or fails (`Declaration.makes_or_fails`). Draining goes
through the declarations up to the first that fails (`Registry.drainInto_append`,
`Registry.drainInto_fails`), and puts the formatters made so far into a list in which a name keeps
the place of its first declaration and the formatter of its last one (`tags_placeAll`,
`mem_placeAll`). So no name stands twice in the list, and adding its formatters to a parser
replaces none of them (`addLoadedFormatters_run`). Main statement: `Registry.drain_declared`.
-/

namespace Dispatch.Markup

/-! ## 1. One declaration -/

namespace Declaration

/-- The name that a declaration means. -/
def name (declaration : Declaration) : Text := normalName declaration.tag

/-- The declaration makes this formatter. -/
structure Makes (declaration : Declaration) (formatter : LoadedFormatter) : Prop where
  valid : isValidName declaration.name = true
  handler : declaration.construct = .ok formatter.handler
  tag : formatter.tag = declaration.name
  options : formatter.options = declaration.options

/-- What is wrong with the declaration. A name that is not valid is told as it was declared. -/
inductive Fails (declaration : Declaration) : LoadError → Prop
  | name (invalid : isValidName declaration.name = false) :
      Fails declaration (.invalidTagName declaration.tag declaration.typeName)
  | handler {cause : HandlerError} (valid : isValidName declaration.name = true)
      (construct : declaration.construct = .error cause) :
      Fails declaration (.construct declaration.name declaration.typeName cause)

theorem makes_or_fails (declaration : Declaration) :
    (∃ formatter, declaration.Makes formatter) ∨ ∃ failure, declaration.Fails failure := by
  cases hvalid : isValidName declaration.name with
  | false => exact Or.inr ⟨_, .name hvalid⟩
  | true =>
    cases hconstruct : declaration.construct with
    | error cause => exact Or.inr ⟨_, .handler hvalid hconstruct⟩
    | ok handler =>
      exact Or.inl ⟨⟨declaration.name, declaration.options, handler⟩, hvalid, hconstruct, rfl, rfl⟩

theorem exists_makes_iff (declaration : Declaration) :
    (∃ formatter, declaration.Makes formatter) ↔
      isValidName declaration.name = true ∧ ∃ handler, declaration.construct = .ok handler := by
  constructor
  · rintro ⟨formatter, hmakes⟩
    exact ⟨hmakes.valid, _, hmakes.handler⟩
  · rintro ⟨hvalid, handler, hconstruct⟩
    exact ⟨⟨declaration.name, declaration.options, handler⟩, hvalid, hconstruct, rfl, rfl⟩

end Declaration

/-! ## 2. Formatters in their places -/

/-- Some formatters put into a list, one after another. -/
def placeAll (loaded formatters : List LoadedFormatter) : List LoadedFormatter :=
  formatters.foldl (fun loaded formatter => formatter.place loaded) loaded

namespace LoadedFormatter

theorem tags_place (formatter : LoadedFormatter) (loaded : List LoadedFormatter) :
    (formatter.place loaded).map (·.tag) =
      if formatter.tag ∈ loaded.map (·.tag) then loaded.map (·.tag)
      else loaded.map (·.tag) ++ [formatter.tag] := by
  induction loaded with
  | nil => rfl
  | cons other rest ih =>
    rw [place]
    by_cases hsame : other.tag = formatter.tag
    · rw [if_pos hsame, if_pos (by simp [hsame]), List.map_cons, List.map_cons, hsame]
    · rw [if_neg hsame, List.map_cons, List.map_cons, ih]
      by_cases hmem : formatter.tag ∈ rest.map (·.tag)
      · rw [if_pos hmem, if_pos (List.mem_cons_of_mem _ hmem)]
      · rw [if_neg hmem, if_neg (by simp [Ne.symm hsame, hmem]), List.cons_append]

/-- If no name stands twice in a list, a formatter that is put into it takes the place of the
others of its name. -/
theorem mem_place {loaded : List LoadedFormatter} (hdistinct : (loaded.map (·.tag)).Nodup)
    {formatter other : LoadedFormatter} :
    other ∈ formatter.place loaded ↔
      other = formatter ∨ other ∈ loaded ∧ other.tag ≠ formatter.tag := by
  induction loaded with
  | nil => simp [place]
  | cons first rest ih =>
    obtain ⟨hfirst, hrest⟩ := List.nodup_cons.mp hdistinct
    rw [place]
    by_cases hsame : first.tag = formatter.tag
    · have hothers : other ∈ rest → other.tag ≠ formatter.tag := fun hmem he =>
        hfirst (List.mem_map.mpr ⟨other, hmem, he.trans hsame.symm⟩)
      rw [if_pos hsame, List.mem_cons, List.mem_cons]
      constructor
      · exact Or.imp_right fun hmem => ⟨Or.inr hmem, hothers hmem⟩
      · rintro (he | ⟨rfl | hmem, hne⟩)
        · exact Or.inl he
        · exact absurd hsame hne
        · exact Or.inr hmem
    · rw [if_neg hsame, List.mem_cons, ih hrest, List.mem_cons]
      constructor
      · rintro (rfl | he | ⟨hmem, hne⟩)
        · exact Or.inr ⟨Or.inl rfl, hsame⟩
        · exact Or.inl he
        · exact Or.inr ⟨Or.inr hmem, hne⟩
      · rintro (he | ⟨hmem | hmem, hne⟩)
        · exact Or.inr (Or.inl he)
        · exact Or.inl hmem
        · exact Or.inr (Or.inr ⟨hmem, hne⟩)

end LoadedFormatter

theorem placeAll_concat (loaded formatters : List LoadedFormatter) (last : LoadedFormatter) :
    placeAll loaded (formatters ++ [last]) = last.place (placeAll loaded formatters) := by
  rw [placeAll, List.foldl_append]
  rfl

theorem eraseDups_concat (names : List Text) (last : Text) :
    (names ++ [last]).eraseDups =
      if last ∈ names then names.eraseDups else names.eraseDups ++ [last] := by
  rw [List.eraseDups_append]
  by_cases hmem : last ∈ names
  · rw [if_pos hmem]
    simp [List.removeAll, hmem]
  · rw [if_neg hmem]
    simp [List.removeAll, hmem, List.eraseDups_cons]

theorem nodup_eraseDups (names : List Text) : names.eraseDups.Nodup := by
  induction names using List.reverseRecOn with
  | nil => exact List.nodup_nil
  | append_singleton names last ih =>
    rw [eraseDups_concat]
    split
    · exact ih
    · next hmem =>
      refine List.nodup_append.mpr ⟨ih, List.pairwise_singleton _ last, ?_⟩
      rintro name hname other hother rfl
      exact hmem (List.mem_eraseDups.mp (List.mem_singleton.mp hother ▸ hname))

/-- **A name has the place of its first formatter**, and only that one. -/
theorem tags_placeAll (formatters : List LoadedFormatter) :
    (placeAll [] formatters).map (·.tag) = (formatters.map (·.tag)).eraseDups := by
  induction formatters using List.reverseRecOn with
  | nil => rfl
  | append_singleton formatters last ih =>
    rw [placeAll_concat, LoadedFormatter.tags_place, ih, List.map_append, List.map_cons,
      List.map_nil, eraseDups_concat]
    by_cases hmem : last.tag ∈ formatters.map (·.tag)
    · rw [if_pos (List.mem_eraseDups.mpr hmem), if_pos hmem]
    · rw [if_neg (mt List.mem_eraseDups.mp hmem), if_neg hmem]

/-- **A name has its last formatter.** -/
theorem mem_placeAll {formatters : List LoadedFormatter} {formatter : LoadedFormatter} :
    formatter ∈ placeAll [] formatters ↔ LastOf LoadedFormatter.tag formatters formatter := by
  induction formatters using List.reverseRecOn with
  | nil => exact ⟨fun h => absurd h List.not_mem_nil, fun h => absurd h.mem List.not_mem_nil⟩
  | append_singleton formatters last ih =>
    have hdistinct : ((placeAll [] formatters).map (·.tag)).Nodup := by
      rw [tags_placeAll]
      exact nodup_eraseDups _
    rw [placeAll_concat, LoadedFormatter.mem_place hdistinct, ih, lastOf_concat]

/-! ## 3. Draining -/

namespace Registry

variable {declaration : Declaration} {formatter : LoadedFormatter} {failure : LoadError}
  (loaded formatters : List LoadedFormatter) (declarations rest : List Declaration)

/-- Draining goes on behind a declaration that makes its formatter. -/
theorem drainInto_makes (h : declaration.Makes formatter) :
    (drainInto loaded (declaration :: rest)).result =
        (drainInto (formatter.place loaded) rest).result ∧
      (drainInto loaded (declaration :: rest)).constructed =
        declaration :: (drainInto (formatter.place loaded) rest).constructed := by
  have hvalid : isValidName (normalName declaration.tag) = true := h.valid
  obtain ⟨tag, options, handler⟩ := formatter
  obtain rfl : tag = normalName declaration.tag := h.tag
  obtain rfl : options = declaration.options := h.options
  simp only [drainInto, if_pos hvalid, h.handler, and_self]

/-- A declaration that fails ends the draining. -/
theorem drainInto_fails (h : declaration.Fails failure) :
    (drainInto loaded (declaration :: rest)).result = .error failure ∧
      (drainInto loaded (declaration :: rest)).constructed =
        if isValidName declaration.name then [declaration] else [] := by
  cases h with
  | name hinvalid =>
    have hnot : ¬isValidName (normalName declaration.tag) = true := Bool.eq_false_iff.mp hinvalid
    simp [drainInto, Declaration.name, hnot]
  | handler hvalid hconstruct =>
    have hvalid : isValidName (normalName declaration.tag) = true := hvalid
    simp [drainInto, Declaration.name, hvalid, hconstruct]

/-- Draining goes through all declarations that make their formatters. -/
theorem drainInto_append {declarations : List Declaration} {formatters : List LoadedFormatter}
    (h : List.Forall₂ Declaration.Makes declarations formatters) :
    (drainInto loaded (declarations ++ rest)).result =
        (drainInto (placeAll loaded formatters) rest).result ∧
      (drainInto loaded (declarations ++ rest)).constructed =
        declarations ++ (drainInto (placeAll loaded formatters) rest).constructed := by
  induction h generalizing loaded with
  | nil => exact ⟨rfl, rfl⟩
  | @cons declaration formatter declarations formatters hmakes _ ih =>
    obtain ⟨hresult, hconstructed⟩ := drainInto_makes loaded (declarations ++ rest) hmakes
    obtain ⟨hlater, hothers⟩ := ih (formatter.place loaded)
    rw [List.cons_append, hresult, hconstructed, hlater, hothers]
    exact ⟨rfl, rfl⟩

/-- Draining reports of no rule that is replaced. -/
theorem replacing_notMem_drainInto (tag : Text) :
    .replacingFormatter tag ∉ (drainInto loaded declarations).events := by
  fun_induction drainInto loaded declarations with
  | case1 => exact List.not_mem_nil
  | case2 => exact List.not_mem_nil
  | case3 loaded declaration rest name hvalid handler hconstruct twice formatter after ih =>
    simp only [List.mem_append, List.mem_cons, not_or]
    refine ⟨⟨Event.noConfusion, fun htwice => ?_⟩, ih⟩
    dsimp only [twice] at htwice
    split at htwice
    · cases List.mem_singleton.mp htwice
    · cases htwice
  | case4 => exact List.not_mem_nil

/-- All declarations make their formatters, or there is a first one that fails. -/
theorem all_make_or_fails :
    (∀ declaration ∈ declarations, ∃ formatter, declaration.Makes formatter) ∨
      ∃ before declaration after failure, declarations = before ++ declaration :: after ∧
        (∀ other ∈ before, ∃ formatter, other.Makes formatter) ∧ declaration.Fails failure := by
  rcases all_or_first_not (fun other : Declaration => ∃ formatter, other.Makes formatter)
    declarations with hall | ⟨before, declaration, after, hsplit, hbefore, hnot⟩
  · exact Or.inl hall
  · obtain ⟨failure, hfails⟩ := declaration.makes_or_fails.resolve_left hnot
    exact Or.inr ⟨before, declaration, after, failure, hsplit, hbefore, hfails⟩

end Registry

/-! ## 4. The parser of drained formatters -/

/-- A formatter as a rule under its name. -/
def LoadedFormatter.row (formatter : LoadedFormatter) : Text × Rule :=
  (formatter.tag, ⟨formatter.options, .handler formatter.handler⟩)

theorem tags_rows (formatters : List LoadedFormatter) :
    (formatters.map (·.row)).map (·.1) = formatters.map (·.tag) :=
  List.map_map

namespace TagParser

variable {formatters : List LoadedFormatter}

theorem hasTag_insert (parser : TagParser) (tag other : Text) (options : TagOptions)
    (formatter : Formatter) :
    (parser.insert tag options formatter).hasTag other =
      (decide (Text.lower other = Text.lower tag) || parser.hasTag other) := by
  rw [hasTag, hasTag, insert, Dict.contains, Dict.contains, Dict.get?_insert]
  by_cases hsame : Text.lower other = Text.lower tag
  · rw [if_pos hsame, decide_eq_true hsame]
    rfl
  · rw [if_neg hsame, decide_eq_false hsame, Bool.false_or]

/-- Formatters of different names, none of which the parser has, replace nothing. -/
theorem addLoadedFormatters_run {parser : TagParser}
    (hlower : ∀ formatter ∈ formatters, Text.lower formatter.tag = formatter.tag)
    (hdistinct : (formatters.map (·.tag)).Nodup)
    (hnew : ∀ formatter ∈ formatters, parser.hasTag formatter.tag = false) (events : List Event) :
    (addLoadedFormatters parser formatters).run events =
      (parser.insertAll (formatters.map (·.row)),
        events ++ formatters.map fun formatter => .loadedComplexFormatter formatter.tag) := by
  induction formatters generalizing parser events with
  | nil => exact congrArg (Prod.mk parser) (List.append_nil events).symm
  | cons formatter rest ih =>
    obtain ⟨hfirst, hothers⟩ := List.nodup_cons.mp hdistinct
    have hrest : ∀ other ∈ rest,
        (parser.insert formatter.tag formatter.options (.handler formatter.handler)).hasTag
          other.tag = false := by
      intro other hmem
      have hother := List.mem_cons_of_mem formatter hmem
      have hne : other.tag ≠ formatter.tag := fun he =>
        hfirst (List.mem_map.mpr ⟨other, hmem, he⟩)
      rw [hasTag_insert, hnew other hother, hlower other hother,
        hlower formatter List.mem_cons_self, decide_eq_false hne, Bool.or_false]
    have hadd : (parser.add formatter.tag formatter.options (.handler formatter.handler)) =
        pure (parser.insert formatter.tag formatter.options (.handler formatter.handler)) := by
      rw [add, hnew formatter List.mem_cons_self]
      rfl
    have hlater := ih (fun other hmem => hlower other (List.mem_cons_of_mem _ hmem)) hothers hrest
      (events ++ [.loadedComplexFormatter formatter.tag])
    rw [addLoadedFormatters, hadd, pure_bind]
    refine hlater.trans ?_
    rw [List.append_assoc]
    rfl

end TagParser

/-! ## 5. Draining a registry -/

namespace Registry

/-- What draining gives if every declaration makes its formatter: every name once, in the order of
the first declarations, with what its last declaration makes. All handlers were made, in order. -/
structure Complete (registry : Registry) (drained : Drained) (formatters : List LoadedFormatter) :
    Prop where
  result : drained.result = .ok formatters
  names : formatters.map (·.tag) = (registry.pending.map (·.name)).eraseDups
  last : ∀ formatter ∈ formatters, ∃ declaration,
    LastOf Declaration.name registry.pending declaration ∧ declaration.Makes formatter
  constructed : drained.constructed = registry.pending

/-- What draining gives if a declaration fails: the failure of the first such. The handlers before
it were made, in order, and its own one was tried only if its name is valid. -/
def Stopped (registry : Registry) (drained : Drained) (failure : LoadError) : Prop :=
  ∃ before declaration after, registry.pending = before ++ declaration :: after ∧
    (∀ other ∈ before, ∃ formatter, other.Makes formatter) ∧ declaration.Fails failure ∧
    drained.result = .error failure ∧
    drained.constructed = before ++ if isValidName declaration.name then [declaration] else []

/-- The parser of a registry: its names are the declared ones, and the rule of each is that of its
last declaration. Its formatters have had no calls. -/
structure Describes (registry : Registry) (parser : TagParser) : Prop where
  history : parser.history = []
  names : ∀ name, name ∈ parser.tagNames ↔ ∃ declaration ∈ registry.pending, declaration.name = name
  rules : ∀ declaration, LastOf Declaration.name registry.pending declaration → ∃ handler,
    declaration.construct = .ok handler ∧
      Dict.get? declaration.name parser.rules = some ⟨declaration.options, .handler handler⟩

variable {registry : Registry}

theorem complete_of_makes {formatters : List LoadedFormatter}
    (hall : List.Forall₂ Declaration.Makes registry.pending formatters) :
    registry.Complete registry.drain.1 (placeAll [] formatters) := by
  obtain ⟨hresult, hconstructed⟩ := drainInto_append [] [] hall
  rw [List.append_nil] at hresult hconstructed
  have htags : formatters.map (·.tag) = registry.pending.map (·.name) :=
    map_eq_of_forall₂ (fun _ _ hmakes => hmakes.tag) hall
  refine ⟨hresult, tags_placeAll _ ▸ congrArg List.eraseDups htags, fun formatter hmem => ?_,
    hconstructed.trans (List.append_nil _)⟩
  obtain ⟨declaration, hmakes, hlast⟩ := (mem_placeAll.mp hmem).exists_image
    (fun _ _ hmakes => hmakes.tag.symm) hall.flip
  exact ⟨declaration, hlast, hmakes⟩

theorem stopped_of_fails {before after : List Declaration} {declaration : Declaration}
    {failure : LoadError} (hsplit : registry.pending = before ++ declaration :: after)
    (hbefore : ∀ other ∈ before, ∃ formatter, other.Makes formatter)
    (hfails : declaration.Fails failure) : registry.Stopped registry.drain.1 failure := by
  obtain ⟨formatters, hall⟩ := exists_forall₂ hbefore
  obtain ⟨hresult, hconstructed⟩ := drainInto_append [] (declaration :: after) hall
  obtain ⟨herror, htried⟩ := drainInto_fails (placeAll [] formatters) after hfails
  rw [herror, ← hsplit] at hresult
  rw [htried, ← hsplit] at hconstructed
  exact ⟨before, declaration, after, hsplit, hbefore, hfails, hresult, hconstructed⟩

/-- A registry is drained of all its formatters, or stopped by a failure. -/
theorem drains (registry : Registry) :
    (∃ formatters, registry.Complete registry.drain.1 formatters) ∨
      ∃ failure, registry.Stopped registry.drain.1 failure := by
  rcases all_make_or_fails registry.pending with hall | ⟨_, _, _, failure, hsplit, hbefore, hfails⟩
  · obtain ⟨formatters, hmakes⟩ := exists_forall₂ hall
    exact Or.inl ⟨_, complete_of_makes hmakes⟩
  · exact Or.inr ⟨failure, stopped_of_fails hsplit hbefore hfails⟩

theorem Stopped.result {drained : Drained} {failure : LoadError}
    (h : registry.Stopped drained failure) : drained.result = .error failure := by
  obtain ⟨_, _, _, -, -, -, hresult, -⟩ := h
  exact hresult

/-- A parser is built of what draining gives. -/
theorem buildComplexParser_run (registry : Registry) (events : List Event) :
    (buildComplexParser registry).run events =
      match registry.drain.1.result with
      | .error failure => ((.error failure, {}), events ++ registry.drain.1.events)
      | .ok formatters =>
        let added := (addLoadedFormatters {} formatters).run (events ++ registry.drain.1.events)
        ((.ok added.1, {}), added.2) := by
  have hleft : registry.drain = (registry.drain.1, {}) := rfl
  rw [buildComplexParser, hleft]
  generalize registry.drain.1 = drained
  obtain ⟨result, constructed, reported⟩ := drained
  cases result <;> rfl

variable {formatters : List LoadedFormatter}

theorem Complete.lower_tag (h : registry.Complete registry.drain.1 formatters)
    {formatter : LoadedFormatter} (hmem : formatter ∈ formatters) :
    Text.lower formatter.tag = formatter.tag := by
  obtain ⟨declaration, -, hmakes⟩ := h.last formatter hmem
  rw [hmakes.tag]
  exact lower_normalName declaration.tag

theorem Complete.lower_row (h : registry.Complete registry.drain.1 formatters) :
    ∀ row ∈ formatters.map (·.row), Text.lower row.1 = row.1 := by
  rintro _ hrow
  obtain ⟨formatter, hmem, rfl⟩ := List.mem_map.mp hrow
  exact h.lower_tag hmem

theorem Complete.nodup (h : registry.Complete registry.drain.1 formatters) :
    (formatters.map (·.tag)).Nodup := by
  rw [h.names]
  exact nodup_eraseDups _

/-- Adding the formatters of a registry to a new parser replaces none of them. -/
theorem Complete.addLoadedFormatters_run (h : registry.Complete registry.drain.1 formatters)
    {before after : List LoadedFormatter} (hsplit : formatters = before ++ after)
    (events : List Event) :
    (addLoadedFormatters {} before).run events =
      (TagParser.insertAll {} (before.map (·.row)),
        events ++ before.map fun formatter => .loadedComplexFormatter formatter.tag) := by
  have hdistinct := h.nodup
  rw [hsplit, List.map_append] at hdistinct
  refine TagParser.addLoadedFormatters_run (fun formatter hmem => h.lower_tag ?_)
    (List.nodup_append.mp hdistinct).1 (fun _ _ => rfl) events
  rw [hsplit]
  exact List.mem_append_left _ hmem

/-- The parser of the formatters that a registry is drained of. -/
theorem Complete.buildComplexParser_run (h : registry.Complete registry.drain.1 formatters)
    (events : List Event) :
    (buildComplexParser registry).run events =
      ((.ok (TagParser.insertAll {} (formatters.map (·.row))), {}),
        events ++ registry.drain.1.events ++
          formatters.map fun formatter => .loadedComplexFormatter formatter.tag) := by
  rw [Registry.buildComplexParser_run, h.result]
  dsimp only
  rw [h.addLoadedFormatters_run (List.append_nil formatters).symm]

/-- The parser of the formatters that a registry is drained of has the declared rules. -/
theorem Complete.describes (h : registry.Complete registry.drain.1 formatters) :
    registry.Describes (TagParser.insertAll {} (formatters.map (·.row))) := by
  refine ⟨TagParser.history_insertAll _, fun name => ?_, fun declaration hlast => ?_⟩
  · rw [TagParser.mem_tagNames_insertAll h.lower_row, tags_rows, h.names, List.mem_eraseDups,
      List.mem_map]
  · have hdeclared : declaration.name ∈ formatters.map (·.tag) := by
      rw [h.names, List.mem_eraseDups]
      exact List.mem_map_of_mem hlast.mem
    obtain ⟨formatter, hmem, hname⟩ := List.mem_map.mp hdeclared
    obtain ⟨other, hother, hmakes⟩ := h.last formatter hmem
    obtain rfl : other = declaration := hother.unique hlast (hmakes.tag.symm.trans hname)
    have hrow : LastOf Prod.fst (formatters.map (·.row)) formatter.row :=
      lastOf_of_nodup (tags_rows formatters ▸ h.nodup) (List.mem_map_of_mem hmem)
    have hrule := TagParser.get?_insertAll h.lower_row hrow
    refine ⟨formatter.handler, hmakes.handler, ?_⟩
    rw [← hmakes.tag, ← hmakes.options]
    exact hrule

theorem complete_of_ok (h : registry.drain.1.result = .ok formatters) :
    registry.Complete registry.drain.1 formatters := by
  rcases drains registry with ⟨made, hcomplete⟩ | ⟨failure, hstopped⟩
  · obtain rfl := Except.ok.inj (h.symm.trans hcomplete.result)
    exact hcomplete
  · cases h.symm.trans hstopped.result

theorem stopped_of_error {failure : LoadError} (h : registry.drain.1.result = .error failure) :
    registry.Stopped registry.drain.1 failure := by
  rcases drains registry with ⟨made, hcomplete⟩ | ⟨other, hstopped⟩
  · cases h.symm.trans hcomplete.result
  · obtain rfl := Except.error.inj (h.symm.trans hstopped.result)
    exact hstopped

/-- Building a parser reports of no rule that is replaced. -/
theorem Complete.replacing_notMem (h : registry.Complete registry.drain.1 formatters)
    (events : List Event) :
    ∃ more, ((buildComplexParser registry).run events).2 = events ++ more ∧
      ∀ tag, .replacingFormatter tag ∉ more := by
  refine ⟨_, (congrArg Prod.snd (h.buildComplexParser_run events)).trans
    (List.append_assoc _ _ _), fun tag hmem => ?_⟩
  rcases List.mem_append.mp hmem with hmem | hmem
  · exact replacing_notMem_drainInto [] registry.pending tag hmem
  · obtain ⟨formatter, -, hevent⟩ := List.mem_map.mp hmem
    cases hevent

/-- No formatter is added under a name that the parser has already. -/
theorem Complete.hasTag_before (h : registry.Complete registry.drain.1 formatters)
    {before after : List LoadedFormatter} {formatter : LoadedFormatter}
    (hsplit : formatters = before ++ formatter :: after) (events : List Event) :
    ((addLoadedFormatters {} before).run events).1.hasTag formatter.tag = false := by
  have hlower : ∀ row ∈ before.map (·.row), Text.lower row.1 = row.1 := fun row hrow =>
    h.lower_row row (hsplit ▸ List.map_append ▸ List.mem_append_left _ hrow)
  have hdistinct := h.nodup
  rw [hsplit, List.map_append, List.map_cons] at hdistinct
  have hfresh : formatter.tag ∉ before.map (·.tag) := fun hmem =>
    (List.nodup_append.mp hdistinct).2.2 _ hmem _ List.mem_cons_self rfl
  rw [h.addLoadedFormatters_run hsplit events, TagParser.hasTag, Bool.eq_false_iff,
    h.lower_tag (hsplit ▸ List.mem_append_right _ List.mem_cons_self), Ne,
    Dict.contains_iff_mem_keys]
  rw [← tags_rows, ← TagParser.mem_tagNames_insertAll hlower] at hfresh
  exact hfresh

/-- **A registry is drained of the last declaration of every name**, or of none if a declaration
fails. -/
theorem drain_declared (registry : Registry) (events : List Event) :
    let drained := registry.drain.1
    let built := (buildComplexParser registry).run events
    registry.drain.2 = {} ∧ built.1.2 = {} ∧
      ((∃ formatters, drained.result = .ok formatters) ↔
        ∀ declaration ∈ registry.pending, isValidName declaration.name = true ∧
          ∃ handler, declaration.construct = .ok handler) ∧
      (∀ formatters, drained.result = .ok formatters → registry.Complete drained formatters ∧
        ∃ parser, built.1.1 = .ok parser ∧ registry.Describes parser ∧
          (∃ more, built.2 = events ++ more ∧ ∀ tag, .replacingFormatter tag ∉ more) ∧
          ∀ before formatter after, formatters = before ++ formatter :: after →
            ((addLoadedFormatters {} before).run events).1.hasTag formatter.tag = false) ∧
      ∀ failure, drained.result = .error failure →
        registry.Stopped drained failure ∧ built.1.1 = .error failure := by
  intro drained built
  refine ⟨rfl, buildComplexParser_left registry events, ?_, fun formatters hresult => ?_,
    fun failure hresult => ?_⟩
  · simp only [← Declaration.exists_makes_iff]
    constructor
    · rintro ⟨formatters, hresult⟩
      rcases all_make_or_fails registry.pending with hall | ⟨_, _, _, _, hsplit, hbefore, hfails⟩
      · exact hall
      · cases hresult.symm.trans (stopped_of_fails hsplit hbefore hfails).result
    · intro hall
      obtain ⟨formatters, hmakes⟩ := exists_forall₂ hall
      exact ⟨_, (complete_of_makes hmakes).result⟩
  · have hcomplete := complete_of_ok hresult
    exact ⟨hcomplete, _, congrArg (·.1.1) (hcomplete.buildComplexParser_run events),
      hcomplete.describes, hcomplete.replacing_notMem events,
      fun before formatter after hsplit => hcomplete.hasTag_before hsplit events⟩
  · have hbuilt := buildComplexParser_run registry events
    rw [show registry.drain.1.result = .error failure from hresult] at hbuilt
    exact ⟨stopped_of_error hresult, congrArg (·.1.1) hbuilt⟩

/-- The later declaration of a name counts, in the place of the earlier one. -/
example :
    let echo : Handler := ⟨fun _ call => .ok call.value⟩
    let registry : Registry :=
      ⟨[⟨" T", {}, "A", .ok echo⟩, ⟨"u", {}, "B", .ok echo⟩,
        ⟨"t", { strip := true }, "C", .ok echo⟩]⟩
    registry.drain.1.result.toOption.map (·.map fun formatter =>
        (formatter.tag, formatter.options)) =
      some [(['t'], { strip := true }), (['u'], {})] := by
  decide +kernel

end Registry

end Dispatch.Markup
