import Dispatch.Engine
import Dispatch.Proofs.TemplateEngine

/-!
# Kept templates

An engine keeps the templates that it has loaded, so what a render reads may come from the source
or from an earlier render. That makes no difference as long as both have the same text: two
evaluations for which every name has the same text (`Jinja.Shows`) go the same way, whatever each of
them has kept (`Jinja.Evaluation.Matches`, `Jinja.matches_evalTemplate`), and the texts stay as
they are (`Engine.Alike.renderNamed`). Main statement: `Engine.lawful`.
-/

namespace Dispatch

open Jinja (Environment Evaluation Fault Filter Progress Template)

namespace Jinja

/-! ## 1. Alike evaluations -/

/-- Every name has the text given for it: a template that was kept was read from it, and the source
gives it for the others. -/
def Shows (source : TemplateSource) (files : FileTree) (texts : TemplateTexts)
    (kept : Dict String Template) : Prop :=
  ∀ name, match Dict.get? name kept with
    | some template => ∃ text, texts name = .ok (some text) ∧ Template.parse? text = some template
    | none => source.texts files name = texts name

/-- A name has the same text after its template was read from it. -/
theorem Shows.insert {source : TemplateSource} {files : FileTree} {texts : TemplateTexts}
    {kept : Dict String Template} (h : Shows source files texts kept) {name text : String}
    {template : Template} (htext : texts name = .ok (some text))
    (hparse : Template.parse? text = some template) :
    Shows source files texts (Dict.insert name template kept) := by
  intro other
  rw [Dict.get?_insert]
  by_cases hother : other = name
  · rw [if_pos hother, hother]
    exact ⟨text, htext, hparse⟩
  · rw [if_neg hother]
    exact h other

/-- The environments differ in their templates only, and neither source looks at what was
reported. -/
structure Environment.Agrees (here there : Environment) : Prop where
  filters : here.filters = there.filters
  context : here.context = there.context
  steady_here : here.source.Steady
  steady_there : there.source.Steady

/-- Two evaluations have come equally far and read the same texts; they may have kept different
templates. -/
structure Alike (here there : Environment) (texts : TemplateTexts) (p q : Progress) : Prop where
  frames : p.frames = q.frames
  printed : p.printed = q.printed
  depth : p.depth = q.depth
  shows_here : Shows here.source here.files texts p.templates
  shows_there : Shows there.source there.files texts q.templates

namespace Evaluation

variable {α β : Type}

/-- What an evaluation comes to. -/
def outcome (action : Evaluation α) (p : Progress) (events : List Event) :
    (Except Fault α × Progress) × List Event :=
  (action.run.run p).run events

theorem outcome_bind (action : Evaluation α) (next : α → Evaluation β) (p : Progress)
    (events : List Event) :
    (action >>= next).outcome p events =
      match action.outcome p events with
      | ((.ok a, after), later) => (next a).outcome after later
      | ((.error fault, after), later) => ((.error fault, after), later) := by
  unfold outcome
  simp only [ExceptT.run_bind, StateT.run_bind]
  rcases (action.run.run p).run events with ⟨⟨fault | a, after⟩, later⟩ <;> rfl

theorem outcome_get_bind (next : Progress → Evaluation α) (p : Progress) (events : List Event) :
    (get >>= next).outcome p events = (next p).outcome p events := rfl

theorem outcome_report_bind (action : Logged α) (next : α → Evaluation β) (p : Progress)
    (events : List Event) :
    ((liftM action : Evaluation α) >>= next).outcome p events =
      (next (action.run events).1).outcome p (action.run events).2 := rfl

theorem outcome_tryCatch (action : Evaluation α) (handle : Fault → Evaluation α) (p : Progress)
    (events : List Event) :
    (tryCatch action handle).outcome p events =
      match action.outcome p events with
      | ((.ok a, after), later) => ((.ok a, after), later)
      | ((.error fault, after), later) => (handle fault).outcome after later := by
  unfold outcome
  simp only [tryCatch, tryCatchThe, MonadExceptOf.tryCatch, ExceptT.tryCatch, ExceptT.run,
    ExceptT.mk, StateT.run_bind]
  rcases (StateT.run action p).run events with ⟨⟨fault | a, after⟩, later⟩ <;> rfl

/-- From alike progress the two evaluations give the same, and their progress stays alike. -/
def Matches (here there : Environment) (texts : TemplateTexts) (first second : Evaluation α) :
    Prop :=
  ∀ p q events others, Alike here there texts p q →
    (first.outcome p events).1.1 = (second.outcome q others).1.1 ∧
      Alike here there texts (first.outcome p events).1.2 (second.outcome q others).1.2

section

variable {here there : Environment} {texts : TemplateTexts}

theorem matches_pure (a : α) : Matches here there texts (pure a) (pure a) :=
  fun _ _ _ _ halike => ⟨rfl, halike⟩

theorem matches_throw (fault : Fault) :
    Matches here there texts (throw fault : Evaluation α) (throw fault) :=
  fun _ _ _ _ halike => ⟨rfl, halike⟩

theorem matches_modify {change : Progress → Progress}
    (h : ∀ p q, Alike here there texts p q → Alike here there texts (change p) (change q)) :
    Matches here there texts (modify change : Evaluation Unit) (modify change) :=
  fun _ _ _ _ halike => ⟨rfl, h _ _ halike⟩

/-- The evaluations end in the same result, with alike progress. -/
theorem Matches.ends {first second : Evaluation α} (h : Matches here there texts first second)
    {p q : Progress} (halike : Alike here there texts p q) (events others : List Event) :
    ∃ result p' q' later later', first.outcome p events = ((result, p'), later) ∧
      second.outcome q others = ((result, q'), later') ∧ Alike here there texts p' q' := by
  have hends := h p q events others halike
  generalize first.outcome p events = one at hends ⊢
  generalize second.outcome q others = two at hends ⊢
  obtain ⟨⟨result, p'⟩, later⟩ := one
  obtain ⟨⟨result', q'⟩, later'⟩ := two
  obtain ⟨rfl, halike'⟩ : result = result' ∧ Alike here there texts p' q' := hends
  exact ⟨result, p', q', later, later', rfl, rfl, halike'⟩

theorem Matches.bind {first second : Evaluation α} {next after : α → Evaluation β}
    (h : Matches here there texts first second)
    (hnext : ∀ a, Matches here there texts (next a) (after a)) :
    Matches here there texts (first >>= next) (second >>= after) := by
  intro p q events others halike
  obtain ⟨result, p', q', later, later', hone, htwo, halike'⟩ := h.ends halike events others
  rw [outcome_bind, outcome_bind, hone, htwo]
  cases result with
  | error fault => exact ⟨rfl, halike'⟩
  | ok a => exact hnext a _ _ later later' halike'

theorem Matches.tryCatch {first second : Evaluation α} {handle other : Fault → Evaluation α}
    (h : Matches here there texts first second)
    (hhandle : ∀ fault, Matches here there texts (handle fault) (other fault)) :
    Matches here there texts (tryCatch first handle) (tryCatch second other) := by
  intro p q events others halike
  obtain ⟨result, p', q', later, later', hone, htwo, halike'⟩ := h.ends halike events others
  rw [outcome_tryCatch, outcome_tryCatch, hone, htwo]
  cases result with
  | error fault => exact hhandle fault _ _ later later' halike'
  | ok a => exact ⟨rfl, halike'⟩

/-- An evaluation may look at its progress, as far as alike progress shows the same. -/
theorem matches_get {next after : Progress → Evaluation α}
    (h : ∀ p q, Alike here there texts p q → Matches here there texts (next p) (after q)) :
    Matches here there texts (get >>= next) (get >>= after) := by
  intro p q events others halike
  exact h p q halike p q events others halike

theorem Matches.ite {c : Prop} [Decidable c] {yes no other none : Evaluation α}
    (hyes : Matches here there texts yes other) (hno : Matches here there texts no none) :
    Matches here there texts (if c then yes else no) (if c then other else none) := by
  by_cases hc : c
  · rw [if_pos hc, if_pos hc]
    exact hyes
  · rw [if_neg hc, if_neg hc]
    exact hno

theorem matches_forM {γ : Type} {act other : γ → Evaluation Unit}
    (h : ∀ c, Matches here there texts (act c) (other c)) (items : List γ) :
    Matches here there texts (items.forM act) (items.forM other) := by
  induction items with
  | nil => exact matches_pure _
  | cons c items ih => exact (h c).bind fun _ => ih

/-! ## 2. The steps of an evaluation -/

theorem matches_value (hagrees : here.Agrees there) (e : Expression) :
    Matches here there texts (value here e) (value there e) := by
  unfold value
  refine matches_get fun p q halike => ?_
  rw [hagrees.filters, hagrees.context, halike.frames]
  cases e.eval there.filters ⟨q.frames, there.context⟩ with
  | ok d => exact matches_pure d
  | error fault => exact matches_throw fault

theorem matches_print (text : Text) : Matches here there texts (print text) (print text) :=
  matches_modify fun _ _ halike => { halike with printed := by rw [halike.printed] }

theorem matches_changeFrame (change : Frame → Frame) :
    Matches here there texts (changeFrame change) (changeFrame change) := by
  refine matches_modify fun p q halike => ?_
  rw [← halike.frames]
  cases p.frames with
  | nil => exact { halike with frames := rfl }
  | cons frame outer => exact { halike with frames := rfl }

mutual

theorem matches_give (target : Target) (d : Datum) :
    Matches here there texts (give target d) (give target d) := by
  cases target with
  | name name =>
    rw [give]
    exact matches_changeFrame _
  | several targets =>
    cases d with
    | list items =>
      rw [give]
      exact matches_giveAll targets items
    | map entries =>
      rw [give]
      exact matches_giveAll targets _
    | _ => exact matches_throw _

theorem matches_giveAll (targets : List Target) (ds : List Datum) :
    Matches here there texts (giveAll targets ds) (giveAll targets ds) := by
  cases targets with
  | nil =>
    cases ds with
    | nil => exact matches_pure _
    | cons d ds => exact matches_throw _
  | cons target targets =>
    cases ds with
    | nil => exact matches_throw _
    | cons d ds =>
      rw [giveAll]
      exact (matches_give target d).bind fun _ => matches_giveAll targets ds

end

theorem matches_checkDepth : Matches here there texts checkDepth checkDepth := by
  refine matches_get fun p q halike => ?_
  rw [halike.depth]
  exact Matches.ite (matches_throw _) (matches_pure _)

theorem Matches.inFrame {first second : Evaluation α} (h : Matches here there texts first second) :
    Matches here there texts (inFrame first) (inFrame second) := by
  refine matches_checkDepth.bind fun _ => ?_
  refine (matches_modify fun _ _ halike => ?_).bind fun _ => h.bind fun a => ?_
  · exact { halike with
      frames := by rw [halike.frames]
      depth := by rw [halike.depth] }
  · refine (matches_modify fun _ _ halike => ?_).bind fun _ => matches_pure a
    exact { halike with
      frames := by rw [halike.frames]
      depth := by rw [halike.depth] }

theorem matches_select (hagrees : here.Agrees there) (target : Target) (only : Expression)
    (items : List Datum) :
    Matches here there texts (select here target only items) (select there target only items) := by
  induction items with
  | nil => exact matches_pure _
  | cons item items ih =>
    unfold select
    refine (matches_give target item).bind fun _ => ?_
    refine (matches_value hagrees only).bind fun chosen => ih.bind fun more => ?_
    exact matches_pure _

/-- The rounds of a loop over some items, and what is done if there are none. -/
theorem matches_rounds {body other otherwise none : Evaluation Unit}
    (hbody : Matches here there texts body other)
    (hotherwise : Matches here there texts otherwise none) (target : Target) (chosen : List Datum) :
    Matches here there texts
      (do
        inFrame ((rounds chosen.length 0 .undefined chosen).forM fun (round, item) => do
          changeFrame fun frame => { frame with round := some round }
          give target item
          body)
        if chosen.isEmpty then otherwise)
      (do
        inFrame ((rounds chosen.length 0 .undefined chosen).forM fun (round, item) => do
          changeFrame fun frame => { frame with round := some round }
          give target item
          other)
        if chosen.isEmpty then none) := by
  refine Matches.bind (Matches.inFrame (matches_forM (fun round => ?_) _)) fun _ => ?_
  · refine (matches_changeFrame _).bind fun _ => ?_
    exact (matches_give target round.2).bind fun _ => hbody
  · exact hotherwise.ite (matches_pure _)

/-! ## 3. Templates -/

/-- The template that the text of a name reads as. -/
def readTemplate (texts : TemplateTexts) (name : String) : Except Fault Template :=
  match texts name with
  | .error failure => .error (.unreadable failure.path failure.error)
  | .ok none => .error (.missing name)
  | .ok (some text) =>
    match Template.parse? text with
    | none => .error .malformed
    | some template => .ok template

theorem readTemplate_eq_ok {name : String} {found : Template}
    (h : readTemplate texts name = .ok found) :
    ∃ text, texts name = .ok (some text) ∧ Template.parse? text = some found := by
  unfold readTemplate at h
  rcases htext : texts name with failure | _ | text
  · rw [htext] at h
    cases h
  · rw [htext] at h
    cases h
  · simp only [htext] at h
    cases hparse : Template.parse? text with
    | none =>
      rw [hparse] at h
      cases h
    | some template =>
      rw [hparse] at h
      obtain rfl := Except.ok.inj h
      exact ⟨text, rfl, hparse⟩

/-- A template that was not kept is what its text reads as, and is kept if it reads. -/
theorem template_outcome_of_new {env : Environment} {p : Progress} {name : String}
    {events later : List Event} (hnew : Dict.get? name p.templates = none)
    (hload : (env.source.load env.files name).run events = (texts name, later)) :
    (template env name).outcome p events =
      (match readTemplate texts name with
        | .ok found =>
          (.ok found, { p with templates := Dict.insert name found p.templates })
        | .error fault => (.error fault, p), later) := by
  unfold template readTemplate
  rw [outcome_get_bind, hnew]
  simp only [outcome_report_bind, hload]
  rcases texts name with failure | _ | text
  · rfl
  · rfl
  · dsimp only
    cases Template.parse? text <;> rfl

/-- A template is what its text reads as, whether it was kept or is loaded now; then it is kept. -/
theorem template_outcome {env : Environment} (hsteady : env.source.Steady) {p : Progress}
    (hshows : Shows env.source env.files texts p.templates) (name : String) (events : List Event) :
    ∃ kept later, (template env name).outcome p events =
        ((readTemplate texts name, { p with templates := kept }), later) ∧
      Shows env.source env.files texts kept := by
  have hname := hshows name
  cases hkept : Dict.get? name p.templates with
  | some template =>
    rw [hkept] at hname
    obtain ⟨text, htext, hparse⟩ := hname
    have hread : readTemplate texts name = .ok template := by
      simp only [readTemplate, htext, hparse]
    unfold Evaluation.template
    rw [outcome_get_bind, hkept, hread]
    exact ⟨p.templates, events, rfl, hshows⟩
  | none =>
    rw [hkept] at hname
    have hload : ((env.source.load env.files name).run events).1 = texts name :=
      (hsteady.load_fst env.files name events).trans hname
    rw [template_outcome_of_new hkept (Prod.ext hload rfl)]
    cases hread : readTemplate texts name with
    | error fault => exact ⟨p.templates, _, rfl, hshows⟩
    | ok found =>
      obtain ⟨text, htext, hparse⟩ := readTemplate_eq_ok hread
      exact ⟨Dict.insert name found p.templates, _, rfl, hshows.insert htext hparse⟩

theorem matches_template (hagrees : here.Agrees there) (name : String) :
    Matches here there texts (template here name) (template there name) := by
  intro p q events others halike
  obtain ⟨kept, later, hone, hshows⟩ :=
    template_outcome hagrees.steady_here halike.shows_here name events
  obtain ⟨kept', later', htwo, hshows'⟩ :=
    template_outcome hagrees.steady_there halike.shows_there name others
  rw [hone, htwo]
  exact ⟨rfl, { halike with shows_here := hshows, shows_there := hshows' }⟩

theorem matches_firstTemplate (hagrees : here.Agrees there) (names : List Datum) :
    Matches here there texts (firstTemplate here names) (firstTemplate there names) := by
  induction names with
  | nil => exact matches_pure _
  | cons d names ih =>
    cases d with
    | string name =>
      unfold firstTemplate
      refine Matches.bind (Matches.tryCatch ?_ fun fault => ?_) fun found => ?_
      · exact (matches_template hagrees _).bind fun _ => matches_pure _
      · cases fault with
        | missing name => exact matches_pure _
        | _ => exact matches_throw _
      · cases found with
        | some template => exact matches_pure _
        | none => exact ih
    | _ => exact matches_throw _

theorem matches_includeFirst (hagrees : here.Agrees there) {run other : Template → Evaluation Unit}
    (hrun : ∀ template, Matches here there texts (run template) (other template))
    (ignoreMissing : Bool) (names : Datum) :
    Matches here there texts (includeFirst here run ignoreMissing names)
      (includeFirst there other ignoreMissing names) := by
  unfold includeFirst
  refine (matches_firstTemplate hagrees _).bind fun found => ?_
  cases found with
  | some template => exact hrun template
  | none =>
    refine Matches.ite ?_ ?_
    · exact matches_pure _
    · exact matches_throw _

end

end Evaluation

section

open Evaluation

variable {here there : Environment} {texts : TemplateTexts}

/-! ## 4. Statements -/

mutual

/-- **A statement goes the same way** wherever the templates come from, if those it includes do. -/
theorem matches_eval (hagrees : here.Agrees there) {run other : Template → Evaluation Unit}
    (hrun : ∀ template, Matches here there texts (run template) (other template))
    (statement : Statement) :
    Matches here there texts (statement.eval here run) (statement.eval there other) := by
  cases statement with
  | text written =>
    rw [Statement.eval, Statement.eval]
    exact matches_print written
  | output e =>
    rw [Statement.eval, Statement.eval]
    exact (matches_value hagrees e).bind fun d => matches_print d.printed
  | loop target items only body otherwise =>
    rw [Statement.eval, Statement.eval]
    refine (matches_value hagrees items).bind fun d => ?_
    cases d.items? with
    | none => exact matches_throw _
    | some all =>
      have hrounds := matches_rounds (matches_evalAll hagrees hrun body)
        (matches_evalAll hagrees hrun otherwise) target
      cases only with
      | none => exact (matches_pure all).bind hrounds
      | some e => exact (matches_select hagrees target e all).inFrame.bind hrounds
  | condition asked yes no =>
    rw [Statement.eval, Statement.eval]
    refine (matches_value hagrees asked).bind fun d => ?_
    exact Matches.ite (matches_evalAll hagrees hrun yes) (matches_evalAll hagrees hrun no)
  | assign target e =>
    rw [Statement.eval, Statement.eval]
    exact (matches_value hagrees e).bind fun d => matches_give target d
  | capture target body =>
    rw [Statement.eval, Statement.eval]
    refine matches_get fun p q halike => ?_
    rw [halike.printed]
    refine (matches_modify fun _ _ halike => ?_).bind fun _ => ?_
    · exact { halike with printed := rfl }
    refine (matches_evalAll hagrees hrun body).bind fun _ => ?_
    refine matches_get fun p' q' halike' => ?_
    rw [halike'.printed]
    refine (matches_modify fun _ _ halike => ?_).bind fun _ => matches_give target _
    exact { halike with printed := rfl }
  | inclusion name ignoreMissing =>
    rw [Statement.eval, Statement.eval]
    exact (matches_value hagrees name).bind fun d => matches_includeFirst hagrees hrun _ d

theorem matches_evalAll (hagrees : here.Agrees there) {run other : Template → Evaluation Unit}
    (hrun : ∀ template, Matches here there texts (run template) (other template))
    (statements : List Statement) :
    Matches here there texts (Statement.evalAll here run statements)
      (Statement.evalAll there other statements) := by
  cases statements with
  | nil => exact matches_pure _
  | cons first rest =>
    rw [Statement.evalAll, Statement.evalAll]
    exact (matches_eval hagrees hrun first).bind fun _ => matches_evalAll hagrees hrun rest

end

/-! ## 5. Whole templates -/

theorem matches_evalIncluded (hagrees : here.Agrees there) (levels : Nat) (template : Template) :
    Matches here there texts (template.evalIncluded here levels)
      (template.evalIncluded there levels) := by
  induction levels generalizing template with
  | zero => exact matches_throw _
  | succ levels ih =>
    unfold Template.evalIncluded
    refine (matches_modify fun _ _ halike => ?_).bind fun _ => ?_
    · exact { halike with depth := by rw [halike.depth] }
    refine matches_checkDepth.bind fun _ => Matches.bind ?_ fun _ => ?_
    · exact (matches_evalAll hagrees ih template.body).tryCatch fun _ => matches_throw _
    · exact matches_modify fun _ _ halike => { halike with depth := by rw [halike.depth] }

theorem matches_evalTemplate (hagrees : here.Agrees there) (template : Template) :
    Matches here there texts (template.eval here) (template.eval there) :=
  matches_evalAll hagrees (matches_evalIncluded hagrees _) template.body

end

end Jinja

/-! ## 6. Engines -/

namespace Engine

open Jinja Jinja.Evaluation

/-- Two engines with the same filters read the same texts, each with files of its own. -/
structure Alike (here there : Engine) (files others : FileTree) (texts : TemplateTexts) : Prop where
  filters : here.filters = there.filters
  steady_here : here.source.Steady
  steady_there : there.source.Steady
  shows_here : Shows here.source files texts here.templates
  shows_there : Shows there.source others texts there.templates

variable {here there : Engine} {files others : FileTree} {texts : TemplateTexts}

theorem Alike.agrees (h : Alike here there files others texts) (context : Context) :
    (here.environment files context).Agrees (there.environment others context) where
  filters := h.filters
  context := rfl
  steady_here := h.steady_here
  steady_there := h.steady_there

theorem run_eq {α : Type} (engine : Engine) (evaluation : Evaluation α) (events : List Event) :
    (engine.run evaluation).run events =
      (let ended := evaluation.outcome { templates := engine.templates } events
       ((ended.1.1, ended.1.2, { engine with templates := ended.1.2.templates }), ended.2)) := rfl

/-- What alike engines evaluate comes to the same, and leaves them alike. -/
theorem Alike.run {α : Type} (h : Alike here there files others texts) {context : Context}
    {first second : Evaluation α}
    (hmatches : Matches (here.environment files context) (there.environment others context) texts
      first second) :
    Logged.Relates (here.run first) (there.run second) fun one two =>
      one.1 = two.1 ∧ one.2.1.printed = two.2.1.printed ∧
        Alike one.2.2 two.2.2 files others texts := by
  intro events later
  have hstart : Jinja.Alike (here.environment files context) (there.environment others context)
      texts { templates := here.templates } { templates := there.templates } :=
    ⟨rfl, rfl, rfl, h.shows_here, h.shows_there⟩
  obtain ⟨hresult, hended⟩ := hmatches _ _ events later hstart
  rw [run_eq, run_eq]
  exact ⟨hresult, hended.printed,
    { h with shows_here := hended.shows_here, shows_there := hended.shows_there }⟩

/-- What comes of a request is the same, and the engines stay alike. -/
def Alike.Same {α : Type} (files others : FileTree) (texts : TemplateTexts)
    (one two : α × Engine) : Prop :=
  one.1 = two.1 ∧ Alike one.2 two.2 files others texts

theorem Alike.template (h : Alike here there files others texts) (name : String) :
    Logged.Relates (here.template files name) (there.template others name)
      (Alike.Same files others texts) := by
  refine (h.run (matches_template (h.agrees []) name)).bind ?_
  rintro ⟨result, p, one⟩ ⟨_, q, two⟩ ⟨rfl, -, hafter⟩
  rcases result with fault | template
  · cases fault <;> exact Logged.relates_pure ⟨rfl, hafter⟩
  · exact Logged.relates_pure ⟨rfl, hafter⟩

theorem Alike.render (h : Alike here there files others texts) (template : Template)
    (context : Context) :
    Logged.Relates (here.render files template context) (there.render others template context)
      (Alike.Same files others texts) := by
  refine (h.run (matches_evalTemplate (h.agrees context) template)).bind ?_
  rintro ⟨result, p, one⟩ ⟨_, q, two⟩ ⟨rfl, hprinted, hafter⟩
  rcases result with fault | _
  · exact Logged.relates_pure ⟨rfl, hafter⟩
  · exact Logged.relates_pure ⟨by rw [hprinted], hafter⟩

/-- **Alike engines render alike.** Whatever each has kept of the same texts, and wherever it loads
the others from, a name comes to the same text or the same failure. -/
theorem Alike.renderNamed (h : Alike here there files others texts) (name : String)
    (context : Context) :
    Logged.Relates (here.renderNamed files name context) (there.renderNamed others name context)
      (Alike.Same files others texts) := by
  refine (h.template name).bind ?_
  rintro ⟨result, one⟩ ⟨_, two⟩ ⟨rfl, hafter⟩
  cases result with
  | error failure => exact Logged.relates_pure ⟨rfl, hafter⟩
  | ok template =>
    exact (Logged.relates_any _ _).bind fun _ _ _ => hafter.render template context

/-! ## 7. The laws -/

/-- A request changes nothing of an engine but the templates it keeps. -/
def SetUpAs (engine after : Engine) : Prop :=
  after.source = engine.source ∧ after.filters = engine.filters

theorem setUpAs_run {α : Type} (engine : Engine) (evaluation : Evaluation α) :
    Logged.Returns (engine.run evaluation) fun ended => engine.SetUpAs ended.2.2 :=
  fun _ => ⟨rfl, rfl⟩

theorem setUpAs_template (engine : Engine) (files : FileTree) (name : String) :
    Logged.Returns (engine.template files name) fun found => engine.SetUpAs found.2 := by
  refine (setUpAs_run engine _).bind ?_
  rintro ⟨fault | template, p, after⟩ hafter
  · cases fault <;> exact Logged.returns_pure hafter
  · exact Logged.returns_pure hafter

theorem setUpAs_render (engine : Engine) (files : FileTree) (template : Template)
    (context : Context) :
    Logged.Returns (engine.render files template context) fun rendered =>
      engine.SetUpAs rendered.2 := by
  refine (setUpAs_run engine _).bind ?_
  rintro ⟨fault | _, p, after⟩ hafter
  · exact Logged.returns_pure hafter
  · exact Logged.returns_pure hafter

theorem setUpAs_renderNamed (engine : Engine) (files : FileTree) (name : String)
    (context : Context) :
    Logged.Returns (engine.renderNamed files name context) fun rendered =>
      engine.SetUpAs rendered.2 := by
  refine (setUpAs_template engine files name).bind ?_
  rintro ⟨failure | template, found⟩ hfound
  · exact Logged.returns_pure hfound
  · refine (Logged.returns_any _).bind fun _ _ => fun events => ?_
    obtain ⟨hsource, hfilters⟩ := setUpAs_render found files template context events
    exact ⟨hsource.trans hfound.1, hfilters.trans hfound.2⟩

/-- An engine over a source goes by the texts that its templates were read from, and for other names
by those of the source. -/
structure GoesBy (source : TemplateSource) (engine : Engine) (files : FileTree)
    (texts : TemplateTexts) : Prop where
  made : engine.source = source
  filters : engine.filters = Filter.common
  shows : Shows source files texts engine.templates

/-- It makes no difference what the engine has kept of the texts it goes by. -/
theorem GoesBy.renderNamed {source : TemplateSource} (hsteady : source.Steady) {engine : Engine}
    {files : FileTree} {texts : TemplateTexts} (h : GoesBy source engine files texts)
    (name : String) (context : Context) :
    Logged.Returns (engine.renderNamed files name context) fun answer =>
      answer.1 = TemplateEngine.comesTo ofSource texts name context ∧
        GoesBy source answer.2 files texts := by
  intro events
  have halike : Alike engine (ofSource (.fixed texts)) files ⟨[], []⟩ texts := {
    filters := h.filters
    steady_here := h.made ▸ hsteady
    steady_there := TemplateSource.steady_fixed texts
    shows_here := h.made ▸ h.shows
    shows_there := fun _ => rfl }
  obtain ⟨hresult, hafter⟩ := halike.renderNamed name context events []
  obtain ⟨hsource, hfilters⟩ := setUpAs_renderNamed engine files name context events
  have hshows := hafter.shows_here
  rw [hsource, h.made] at hshows
  exact ⟨hresult, hsource.trans h.made, hfilters.trans h.filters, hshows⟩

/-- With other files, what was kept has the text it had, and the source gives the others. -/
theorem GoesBy.with_files {source : TemplateSource} {engine : Engine} {files : FileTree}
    {texts : TemplateTexts} (h : GoesBy source engine files texts) (others : FileTree) :
    GoesBy source engine others fun name =>
      if Dict.contains name engine.templates then texts name else source.texts others name where
  made := h.made
  filters := h.filters
  shows := by
    intro name
    have hname := h.shows name
    unfold Dict.contains
    cases hkept : Dict.get? name engine.templates with
    | none => simp [hkept]
    | some template =>
      rw [hkept] at hname
      simpa [hkept] using hname

/-- **The engine obeys the laws.** -/
theorem lawful : TemplateEngine.Lawful ofSource GoesBy where
  new _ _ := ⟨rfl, rfl, fun _ => rfl⟩
  rendered hsteady _ _ _ h name context := h.renderNamed hsteady name context
  changed h others := by
    refine ⟨_, fun name => ?_, h.with_files others⟩
    split
    · exact .inl rfl
    · exact .inr rfl

end Engine

end Dispatch
