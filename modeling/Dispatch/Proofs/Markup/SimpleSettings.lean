import Dispatch.Markup.SimpleFormatter
import Dispatch.Proofs.Markup.LastRule
import Dispatch.Proofs.Text.ByteOrder

/-!
# Parsers of settings

A setting by itself gives a template for the tag it names, or one thing is wrong with it
(`SimpleFormatter.gives_or_faulty`). Building goes through the settings in the order of their keys
(`addSimpleFormatters_append`) up to the first bad one (`addSimpleFormatters_faulty`). Of the keys
that mean one name the last one is the greatest (`LastOf.greatest`), so that is the one whose rule
stays. Main statement: `buildSimpleParser_settings`.
-/

namespace Dispatch.Markup

/-! ## 1. One setting -/

namespace SimpleFormatter

/-- The setting gives a template for the tag that the key names. -/
structure Gives (key : String) (entry : SimpleFormatter) (template : Template) : Prop where
  valid : isValidName (normalName key) = true
  readable : ∃ text, entry.formatString = some text ∧ Template.parse text.toList = .ok template

/-- What is wrong with a setting; the key is told as written. A template that is missing or cannot
be read is told only if the name is valid. -/
inductive Faulty (key : String) (entry : SimpleFormatter) : ConfigError → Prop
  | name (invalid : isValidName (normalName key) = false) : Faulty key entry (.invalidTagName key)
  | missing (valid : isValidName (normalName key) = true) (missing : entry.formatString = none) :
      Faulty key entry (.missingFormatString key)
  | template {text : String} {error : TemplateSyntaxError}
      (valid : isValidName (normalName key) = true) (given : entry.formatString = some text)
      (unreadable : Template.parse text.toList = .error error) :
      Faulty key entry (.invalidTemplate key error)

theorem gives_or_faulty (key : String) (entry : SimpleFormatter) :
    (∃ template, Gives key entry template) ∨ ∃ error, Faulty key entry error := by
  cases hvalid : isValidName (normalName key) with
  | false => exact Or.inr ⟨_, .name hvalid⟩
  | true =>
    cases hgiven : entry.formatString with
    | none => exact Or.inr ⟨_, .missing hvalid hgiven⟩
    | some text =>
      cases hparse : Template.parse text.toList with
      | ok template => exact Or.inl ⟨template, hvalid, text, hgiven, hparse⟩
      | error error => exact Or.inr ⟨_, .template hvalid hgiven hparse⟩

variable {key : String} {entry : SimpleFormatter}

theorem Gives.rule_eq {template : Template} (h : Gives key entry template) :
    entry.rule key = .ok (normalName key, template) := by
  obtain ⟨text, hgiven, hparse⟩ := h.readable
  simp only [rule, if_pos h.valid, hgiven, hparse]

theorem Faulty.rule_eq {error : ConfigError} (h : Faulty key entry error) :
    entry.rule key = .error error := by
  cases h with
  | name hinvalid => simp only [rule, hinvalid, Bool.false_eq_true, if_false]
  | missing hvalid hmissing => simp only [rule, if_pos hvalid, hmissing]
  | template hvalid hgiven hparse => simp only [rule, if_pos hvalid, hgiven, hparse]

theorem Faulty.not_gives {error : ConfigError} (h : Faulty key entry error) (template : Template) :
    ¬Gives key entry template := fun hgives => by
  cases h.rule_eq.symm.trans hgives.rule_eq

/-- The setting under a key makes this rule. -/
def Makes (setting : String × SimpleFormatter) (row : Text × Rule) : Prop :=
  ∃ template, Gives setting.1 setting.2 template ∧
    row = (normalName setting.1, ⟨setting.2.options, .template template⟩)

theorem exists_makes_iff (key : String) (entry : SimpleFormatter) :
    (∃ row, Makes (key, entry) row) ↔ isValidName (normalName key) = true ∧
      ∃ text, entry.formatString = some text ∧
        ∃ template, Template.parse text.toList = .ok template := by
  constructor
  · rintro ⟨_, template, ⟨hvalid, text, hgiven, hparse⟩, -⟩
    exact ⟨hvalid, text, hgiven, template, hparse⟩
  · rintro ⟨hvalid, text, hgiven, template, hparse⟩
    exact ⟨_, template, ⟨hvalid, text, hgiven, hparse⟩, rfl⟩

end SimpleFormatter

/-! ## 2. Settings in order -/

section Order

variable (parser : TagParser) (rest : List (String × SimpleFormatter)) (events : List Event)

theorem addSimpleFormatters_makes {setting : String × SimpleFormatter} {row : Text × Rule}
    (h : SimpleFormatter.Makes setting row) :
    ∃ more, (addSimpleFormatters parser (setting :: rest)).run.run events =
      (addSimpleFormatters (parser.insert row.1 row.2.options row.2.formatter) rest).run.run
        more := by
  obtain ⟨key, entry⟩ := setting
  obtain ⟨template, hgives, rfl⟩ := h
  rw [addSimpleFormatters, hgives.rule_eq]
  by_cases htwice : parser.hasTag (normalName key) = true
  · refine ⟨events ++ [.replacingFormatter (Text.lower (normalName key))] ++
      [.loadedSimpleFormatter (normalName key)], ?_⟩
    simp only [TagParser.add, if_pos htwice]
    rfl
  · refine ⟨events ++ [.loadedSimpleFormatter (normalName key)], ?_⟩
    simp only [TagParser.add, if_neg htwice]
    rfl

/-- Settings that make their rules are put in, one after another. -/
theorem addSimpleFormatters_append {settings : List (String × SimpleFormatter)}
    {rows : List (Text × Rule)} (h : List.Forall₂ SimpleFormatter.Makes settings rows) :
    ∃ more, (addSimpleFormatters parser (settings ++ rest)).run.run events =
      (addSimpleFormatters (parser.insertAll rows) rest).run.run more := by
  induction h generalizing parser events with
  | nil => exact ⟨events, rfl⟩
  | @cons setting row settings rows hmakes _ ih =>
    obtain ⟨between, hfirst⟩ := addSimpleFormatters_makes parser (settings ++ rest) events hmakes
    obtain ⟨more, hothers⟩ := ih (parser.insert row.1 row.2.options row.2.formatter) between
    exact ⟨more, hfirst.trans hothers⟩

/-- A bad setting ends the building. -/
theorem addSimpleFormatters_faulty {key : String} {entry : SimpleFormatter} {error : ConfigError}
    (h : entry.Faulty key error) :
    (addSimpleFormatters parser ((key, entry) :: rest)).run.run events =
      (.error error, events) := by
  rw [addSimpleFormatters, h.rule_eq]
  rfl

end Order

/-- All settings make their rules, which are put into a new parser; or the first one that does not
is told. -/
theorem buildSimpleParser_run (settings : SimpleFormatters) (events : List Event) :
    ((∀ setting ∈ settings, ∃ row, SimpleFormatter.Makes setting row) ∧
        ∃ rows, List.Forall₂ SimpleFormatter.Makes settings rows ∧
          ((buildSimpleParser settings).run.run events).1 = .ok (TagParser.insertAll {} rows)) ∨
      ∃ before key entry after error, settings = before ++ (key, entry) :: after ∧
        (∀ setting ∈ before, ∃ row, SimpleFormatter.Makes setting row) ∧
        entry.Faulty key error ∧
        ((buildSimpleParser settings).run.run events).1 = .error error := by
  rcases all_or_first_not (fun setting => ∃ row, SimpleFormatter.Makes setting row) settings with
    hall | ⟨before, ⟨key, entry⟩, after, rfl, hbefore, hnot⟩
  · obtain ⟨rows, hrows⟩ := exists_forall₂ hall
    obtain ⟨more, hrun⟩ := addSimpleFormatters_append {} [] events hrows
    rw [List.append_nil] at hrun
    exact Or.inl ⟨hall, rows, hrows, congrArg Prod.fst hrun⟩
  · obtain ⟨error, hfaulty⟩ := (SimpleFormatter.gives_or_faulty key entry).resolve_left
      fun ⟨template, hgives⟩ => hnot ⟨_, template, hgives, rfl⟩
    obtain ⟨rows, hrows⟩ := exists_forall₂ hbefore
    obtain ⟨more, hrun⟩ := addSimpleFormatters_append {} ((key, entry) :: after) events hrows
    rw [addSimpleFormatters_faulty _ _ _ hfaulty] at hrun
    exact Or.inr ⟨before, key, entry, after, error, rfl, hbefore, hfaulty, congrArg Prod.fst hrun⟩

/-! ## 3. The greatest key of a name -/

/-- The name that a setting means. -/
def settingName (setting : String × SimpleFormatter) : Text := normalName setting.1

/-- The key is the greatest of those that mean its name, in the order of their bytes. -/
def Greatest (settings : SimpleFormatters) (key : String) : Prop :=
  ∀ other ∈ Dict.keys settings, normalName other = normalName key → other ≠ key →
    Text.bytes other < Text.bytes key

/-- In settings in order, the last one of a name has its greatest key. -/
theorem LastOf.greatest {settings : SimpleFormatters} (hordered : settings.Ascending)
    {setting : String × SimpleFormatter} (h : LastOf settingName settings setting) :
    Greatest settings setting.1 := by
  obtain ⟨before, after, rfl, hlater⟩ := h
  intro other hother hname hne
  obtain ⟨entry, hmem, rfl⟩ := List.mem_map.mp hother
  rw [Text.bytes_lt_iff]
  rcases List.mem_append.mp hmem with hbefore | hbehind
  · exact (List.pairwise_append.mp hordered).2.2 entry hbefore setting List.mem_cons_self
  · rcases List.mem_cons.mp hbehind with rfl | hafter
    · exact absurd rfl hne
    · exact absurd hname (hlater entry hafter)

/-! ## 4. The parser of some settings -/

/-- The parser of some settings: its names are those that the keys mean, and the rule of each is
that of its greatest key. Its formatters have had no calls. -/
structure SettingsOf (parser : TagParser) (settings : SimpleFormatters) : Prop where
  history : parser.history = []
  names : ∀ name, name ∈ parser.tagNames ↔ ∃ key ∈ Dict.keys settings, normalName key = name
  rules : ∀ name ∈ parser.tagNames, ∃ key entry template, (key, entry) ∈ settings ∧
    normalName key = name ∧ Greatest settings key ∧ entry.Gives key template ∧
    Dict.get? name parser.rules = some ⟨entry.options, .template template⟩

/-- What is wrong with some settings: what is wrong with the bad one that has the least key, in the
order of the bytes. -/
def FirstFaulty (settings : SimpleFormatters) (error : ConfigError) : Prop :=
  ∃ key entry, (key, entry) ∈ settings ∧ entry.Faulty key error ∧
    ∀ other setting, (other, setting) ∈ settings → (∃ wrong, setting.Faulty other wrong) →
      other ≠ key → Text.bytes key < Text.bytes other

variable {settings : SimpleFormatters} {rows : List (Text × Rule)}

theorem makes_name (setting : String × SimpleFormatter) (row : Text × Rule)
    (h : SimpleFormatter.Makes setting row) : row.1 = settingName setting := by
  obtain ⟨_, -, rfl⟩ := h
  rfl

theorem settingsOf_insertAll (hordered : settings.Ascending)
    (hall : List.Forall₂ SimpleFormatter.Makes settings rows) :
    SettingsOf (TagParser.insertAll {} rows) settings := by
  have hnames : rows.map (·.1) = settings.map settingName := map_eq_of_forall₂ makes_name hall
  have hlower : ∀ row ∈ rows, Text.lower row.1 = row.1 := by
    intro row hrow
    obtain ⟨setting, -, hname⟩ := List.mem_map.mp (hnames ▸ List.mem_map_of_mem hrow)
    rw [← hname]
    exact lower_normalName setting.1
  have htags (name : Text) : name ∈ (TagParser.insertAll {} rows).tagNames ↔
      ∃ setting ∈ settings, settingName setting = name := by
    rw [TagParser.mem_tagNames_insertAll hlower, hnames, List.mem_map]
  refine ⟨TagParser.history_insertAll rows, fun name => ?_, fun name hname => ?_⟩
  · rw [htags]
    constructor
    · rintro ⟨setting, hmem, hmeans⟩
      exact ⟨setting.1, List.mem_map_of_mem hmem, hmeans⟩
    · rintro ⟨key, hkey, hmeans⟩
      obtain ⟨setting, hmem, rfl⟩ := List.mem_map.mp hkey
      exact ⟨setting, hmem, hmeans⟩
  · obtain ⟨setting, hmem, hsetting⟩ := (htags name).mp hname
    obtain ⟨last, hlast, hsame⟩ := exists_lastOf hmem
    obtain ⟨row, ⟨template, hgives, rfl⟩, hrow⟩ := hlast.exists_image makes_name hall
    obtain rfl : normalName last.1 = name := hsame.trans hsetting
    exact ⟨last.1, last.2, template, hlast.mem, rfl, hlast.greatest hordered, hgives,
      TagParser.get?_insertAll hlower hrow⟩

theorem firstFaulty_of_split (hordered : settings.Ascending)
    {before after : List (String × SimpleFormatter)} {key : String} {entry : SimpleFormatter}
    {error : ConfigError} (hsplit : settings = before ++ (key, entry) :: after)
    (hbefore : ∀ setting ∈ before, ∃ row, SimpleFormatter.Makes setting row)
    (hfaulty : entry.Faulty key error) : FirstFaulty settings error := by
  subst hsplit
  refine ⟨key, entry, List.mem_append_right _ List.mem_cons_self, hfaulty, ?_⟩
  rintro other setting hother ⟨wrong, hwrong⟩ hne
  rw [Text.bytes_lt_iff]
  rcases List.mem_append.mp hother with hfront | hbehind
  · obtain ⟨_, template, hgives, -⟩ := hbefore _ hfront
    exact absurd hgives (hwrong.not_gives template)
  · rcases List.mem_cons.mp hbehind with heq | hafter
    · exact absurd (congrArg Prod.fst heq) hne
    · have hless := (List.pairwise_cons.mp (List.pairwise_append.mp hordered).2.1).1
      exact hless _ hafter

/-- **A parser of settings has, for every name, the rule of the greatest key that means it**; if a
setting is bad, there is no parser and the bad one of the least key is told. -/
theorem buildSimpleParser_settings (settings : SimpleFormatters) (hordered : settings.Ascending)
    (events : List Event) :
    let outcome := ((buildSimpleParser settings).run.run events).1
    ((∃ parser, outcome = .ok parser) ↔
        ∀ key entry, (key, entry) ∈ settings → isValidName (normalName key) = true ∧
          ∃ text, entry.formatString = some text ∧
            ∃ template, Template.parse text.toList = .ok template) ∧
      (∀ parser, outcome = .ok parser → SettingsOf parser settings) ∧
      ∀ error, outcome = .error error → FirstFaulty settings error := by
  intro outcome
  simp only [← SimpleFormatter.exists_makes_iff]
  rcases buildSimpleParser_run settings events with
    ⟨hall, rows, hrows, hok⟩ |
    ⟨before, key, entry, after, error, hsplit, hbefore, hfaulty, herror⟩
  · have hok : outcome = .ok (TagParser.insertAll {} rows) := hok
    refine ⟨⟨fun _ key entry => hall (key, entry), fun _ => ⟨_, hok⟩⟩, fun parser hother => ?_,
      fun error herror => ?_⟩
    · obtain rfl := Except.ok.inj (hok.symm.trans hother)
      exact settingsOf_insertAll hordered hrows
    · cases hok.symm.trans herror
  · have herror : outcome = .error error := herror
    refine ⟨⟨?_, fun hall => ?_⟩, fun parser hok => ?_, fun other hother => ?_⟩
    · rintro ⟨parser, hok⟩
      cases herror.symm.trans hok
    · have hmem : (key, entry) ∈ settings :=
        hsplit ▸ List.mem_append_right _ List.mem_cons_self
      obtain ⟨_, template, hgives, -⟩ := hall key entry hmem
      exact absurd hgives (hfaulty.not_gives template)
    · cases herror.symm.trans hok
    · obtain rfl := Except.error.inj (herror.symm.trans hother)
      exact firstFaulty_of_split hordered hsplit hbefore hfaulty

/-- Settings with two keys for one name. -/
def twiceNamed : SimpleFormatters :=
  [(" Note", ⟨some "(%s)", {}⟩), ("note", ⟨some "%s", { strip := true }⟩)]

theorem buildSimpleParser_twiceNamed :
    twiceNamed.Ascending ∧ ∃ parser, ((buildSimpleParser twiceNamed).run.run []).1 = .ok parser ∧
      SettingsOf parser twiceNamed := by
  have hordered : twiceNamed.Ascending := by decide
  obtain ⟨hiff, hsettings, -⟩ := buildSimpleParser_settings twiceNamed hordered []
  obtain ⟨parser, hok⟩ := hiff.mpr (by
    intro key entry hmem
    rcases List.mem_cons.mp hmem with hfirst | hmem
    · cases hfirst
      exact ⟨by decide +kernel, "(%s)", rfl,
        ⟨"(%s)".toList, [.literal ['('], .body, .literal [')']]⟩, by decide +kernel⟩
    · cases List.mem_singleton.mp hmem
      exact ⟨by decide +kernel, "%s", rfl, ⟨"%s".toList, [.body]⟩, by decide +kernel⟩)
  exact ⟨hordered, parser, hok, hsettings parser hok⟩

end Dispatch.Markup
