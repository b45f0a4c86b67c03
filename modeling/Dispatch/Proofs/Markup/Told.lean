import Mathlib.Data.List.Forall2
import Mathlib.Data.List.TakeWhile
import Dispatch.Proofs.Markup.Sites
import Dispatch.Proofs.Text.Case

/-!
# What formatters are told

A run calls formatters for the places of `Rules.sites`, in their order, and for all of them unless a
formatter fails (`Formats.gets`). So what a formatter is told can be read off the text: its own tag,
the tag around it, and, if it takes its body raw, the piece of the text up to the first token that
ends the body (`bodyTokens_of_takesRaw`), for whose tags no formatter is called. Main statement:
`format_tells`.
-/

namespace Dispatch.Markup

/-! ## 1. Raw bodies -/

/-- A token that ends the body of a tag of this name that takes its body raw. -/
def Token.endsRaw (name : Text) (options : TagOptions) : Token → Bool
  | .data _ => false
  | .newline => options.newlineCloses
  | .opening other _ _ => other = name && options.sameTagCloses
  | .closing other _ => other = name

/-- The first token behind a tag ends its raw body or belongs to it. -/
theorem find_of_takesRaw {options : TagOptions} (h : options.takesRaw = true) (name : Text)
    (token : Token) (rest : List Token) :
    token.endsRaw name options = true ∧
        (Closing.find name options 0 (token :: rest)).length = 0 ∨
      token.endsRaw name options = false ∧
        Closing.find name options 0 (token :: rest) = (Closing.find name options 0 rest).later := by
  obtain ⟨-, hraw⟩ := TagOptions.body_of_takesRaw h
  rw [Closing.find.eq_def]
  cases token with
  | data text => exact Or.inr ⟨rfl, rfl⟩
  | newline =>
    by_cases hcloses : options.newlineCloses = true
    · exact Or.inl ⟨hcloses, by simp only [hcloses, ↓reduceIte]⟩
    · exact Or.inr ⟨Bool.eq_false_iff.mpr hcloses, if_neg hcloses⟩
  | opening other attributes raw =>
    by_cases hname : other = name
    · by_cases hsame : options.sameTagCloses = true
      · refine Or.inl ⟨?_, by simp only [hname, hsame, ↓reduceIte]⟩
        rw [Token.endsRaw, hname, hsame, Bool.and_true, decide_eq_true rfl]
      · refine Or.inr ⟨?_, ?_⟩
        · rw [Token.endsRaw, Bool.eq_false_iff.mpr hsame, Bool.and_false]
        · simp only [hname, hsame, hraw, Bool.false_eq_true, ↓reduceIte]
    · refine Or.inr ⟨?_, if_neg hname⟩
      rw [Token.endsRaw, decide_eq_false hname, Bool.false_and]
  | closing other raw =>
    by_cases hname : other = name
    · exact Or.inl ⟨decide_eq_true hname, by simp only [hname, ↓reduceIte]⟩
    · exact Or.inr ⟨decide_eq_false hname, if_neg hname⟩

/-- **A raw body runs up to the first token that ends it**: the tags inside are not counted. -/
theorem bodyTokens_of_takesRaw {options : TagOptions} (h : options.takesRaw = true) (name : Text)
    (tokens : List Token) :
    bodyTokens name options tokens =
      tokens.takeWhile fun token => !token.endsRaw name options := by
  rw [bodyTokens]
  induction tokens with
  | nil => rfl
  | cons token rest ih =>
    rw [List.takeWhile_cons]
    rcases find_of_takesRaw h name token rest with ⟨hends, hlength⟩ | ⟨hpassed, hfind⟩
    · rw [Closing.body, hlength, hends]
      rfl
    · rw [hfind, Closing.body_later, ih, hpassed]
      rfl

/-- A raw body, and what is behind it up to the end of the tokens. -/
theorem exists_rawBody {options : TagOptions} (h : options.takesRaw = true) (name : Text)
    (tokens : List Token) :
    ∃ ended, tokens = bodyTokens name options tokens ++ ended ∧
      (∀ token ∈ bodyTokens name options tokens, token.endsRaw name options = false) ∧
      ∀ token ∈ ended.head?, token.endsRaw name options = true := by
  let passed : Token → Bool := fun token => !token.endsRaw name options
  have hbody : bodyTokens name options tokens = tokens.takeWhile passed :=
    bodyTokens_of_takesRaw h name tokens
  rw [hbody]
  refine ⟨tokens.dropWhile passed, List.takeWhile_append_dropWhile.symm, fun token htoken => ?_,
    fun token htoken => ?_⟩
  · have hpassed := List.mem_takeWhile_imp htoken
    simpa [passed] using hpassed
  · have hends := List.head?_dropWhile_not passed tokens
    rw [Option.mem_def.mp htoken] at hends
    simpa [passed] using hends

namespace TagOptions

variable {options : TagOptions}

theorem trim_stripped (h : options.strip = true) (inner : Text) :
    Text.trim (options.stripped inner) = options.stripped inner := by
  rw [stripped, if_pos h, Text.trim_trim]

theorem rawValue_of_standalone (h : options.standalone = true) (name : Text) (rest : List Token) :
    options.rawValue name rest = [] :=
  if_pos h

theorem rawValue_of_body (h : options.standalone = false) (name : Text) (rest : List Token) :
    options.rawValue name rest =
      options.stripped (Token.rawText (bodyTokens name options rest)) := by
  rw [rawValue, h, if_neg Bool.false_ne_true]

end TagOptions

/-! ## 2. Calls and their places -/

/-- The call is for the tag at the place. -/
structure Site.Gets (rules : Rules) (context : Context) (site : Site) (call : Call) : Prop where
  tag : call.tag = site.name
  attributes : call.attributes = site.attributes
  parent : call.parent = site.parent
  context : call.context = context
  value : ∃ rule, Dict.get? site.name rules = some rule ∧
    (rule.options.formatsBody = true ∧ (∃ inner, call.value = rule.options.stripped inner) ∨
      rule.options.formatsBody = false ∧
        call.value = rule.options.rawValue site.name site.inside)

section Runs

variable {rules : Rules} {context : Context} {parent : Option ParentTag} {made : List Call}
  {tokens : List Token} {outcome : Except FormatError Text} {calls : List Call}

theorem gets_embedded {name raw inner : Text} {attributes : Attributes} {rest : List Token}
    {rule : Rule} (hrule : Dict.get? name rules = some rule)
    (hbody : rule.options.formatsBody = true) (outside : List Token) :
    Site.Gets rules context ⟨name, attributes, raw, parent, rest, outside⟩
      ⟨name, rule.options.stripped inner, attributes, parent, context⟩ :=
  ⟨rfl, rfl, rfl, rfl, rule, hrule, Or.inl ⟨hbody, inner, rfl⟩⟩

theorem gets_raw {name raw : Text} {attributes : Attributes} {rest : List Token} {rule : Rule}
    (hrule : Dict.get? name rules = some rule) (hbody : rule.options.formatsBody = false)
    (outside : List Token) :
    Site.Gets rules context ⟨name, attributes, raw, parent, rest, outside⟩
      ⟨name, rule.options.rawValue name rest, attributes, parent, context⟩ :=
  ⟨rfl, rfl, rfl, rfl, rule, hrule, Or.inr ⟨hbody, rfl⟩⟩

/-- **A run makes the calls for the places of its tokens, in their order.** It makes all of them,
unless a formatter fails: then no call comes after the one that failed. -/
theorem Formats.gets (h : Formats rules context parent made tokens outcome calls)
    (outside : List Token) :
    ∃ told later, rules.sites parent tokens outside = told ++ later ∧
      List.Forall₂ (Site.Gets rules context) told calls ∧
      ∀ out, outcome = .ok out → later = [] := by
  induction h generalizing outside with
  | nil => exact ⟨[], [], sites_nil, .nil, fun _ _ => rfl⟩
  | copied htoken _ ih =>
    obtain ⟨told, later, hsites, hgets, hall⟩ := ih outside
    refine ⟨told, later, by rw [sites_copied htoken, hsites], hgets, fun out hout => ?_⟩
    obtain ⟨inner, hinner, -⟩ := exceptMap_eq_ok hout
    exact hall inner hinner
  | @bodyFails parent made name attributes raw rest rule failure calls hrule hbody _ ih =>
    obtain ⟨told, later, hsites, hgets, -⟩ :=
      ih (rest.drop (bodyTokens name rule.options rest).length ++ outside)
    refine ⟨told, later ++ ⟨name, attributes, raw, parent, rest, outside⟩
      :: rules.sites parent (rule.options.following name rest) outside, ?_, hgets,
      fun out hout => by cases hout⟩
    rw [sites_embedded hrule hbody, hsites, List.append_assoc]
  | @fails parent made name attributes raw rest rule inner inside failure hrule hbody _ _ ih =>
    obtain ⟨told, later, hsites, hgets, hall⟩ :=
      ih (rest.drop (bodyTokens name rule.options rest).length ++ outside)
    obtain rfl := hall inner rfl
    have hhere := @gets_embedded rules context parent name raw inner attributes rest rule hrule hbody
      outside
    refine ⟨told ++ [⟨name, attributes, raw, parent, rest, outside⟩],
      rules.sites parent (rule.options.following name rest) outside, ?_,
      List.rel_append hgets (.cons hhere .nil), fun out hout => by cases hout⟩
    rw [sites_embedded hrule hbody, hsites, List.append_nil, List.append_assoc,
      List.singleton_append]
  | @replies parent made name attributes raw rest rule inner inside text outcome calls hrule hbody
      _ _ _ ihbody ihbehind =>
    obtain ⟨told, later, hsites, hgets, hall⟩ :=
      ihbody (rest.drop (bodyTokens name rule.options rest).length ++ outside)
    obtain rfl := hall inner rfl
    obtain ⟨behind, last, hsitesBehind, hgetsBehind, hallBehind⟩ := ihbehind outside
    have hhere := @gets_embedded rules context parent name raw inner attributes rest rule hrule hbody
      outside
    refine ⟨told ++ ⟨name, attributes, raw, parent, rest, outside⟩ :: behind, last, ?_,
      List.rel_append hgets (.cons hhere hgetsBehind), fun out hout => ?_⟩
    · rw [sites_embedded hrule hbody, hsites, hsitesBehind, List.append_nil, List.append_assoc,
        List.cons_append]
    · obtain ⟨text, htext, -⟩ := exceptMap_eq_ok hout
      exact hallBehind text htext
  | @rawFails parent made name attributes raw rest rule failure hrule hbody _ =>
    have hhere := @gets_raw rules context parent name raw attributes rest rule hrule hbody outside
    exact ⟨[⟨name, attributes, raw, parent, rest, outside⟩],
      rules.sites parent (rule.options.following name rest) outside, sites_raw hrule hbody,
      .cons hhere .nil, fun out hout => by cases hout⟩
  | @rawReplies parent made name attributes raw rest rule text outcome calls hrule hbody _ _ ih =>
    obtain ⟨told, later, hsites, hgets, hall⟩ := ih outside
    have hhere := @gets_raw rules context parent name raw attributes rest rule hrule hbody outside
    refine ⟨⟨name, attributes, raw, parent, rest, outside⟩ :: told, later, ?_, .cons hhere hgets,
      fun out hout => ?_⟩
    · rw [sites_raw hrule hbody, hsites, List.cons_append]
    · obtain ⟨text, htext, -⟩ := exceptMap_eq_ok hout
      exact hall text htext

end Runs

/-! ## 3. Names -/

theorem lower_name_of_ofInner? {inner : Text} {tag : Tag} (h : Tag.ofInner? inner = some tag) :
    Text.lower tag.name = tag.name := by
  unfold Tag.ofInner? at h
  split at h
  · cases h
  · obtain rfl := Option.some.inj h
    exact Text.lower_lower _
  · split at h
    · obtain rfl := Option.some.inj h
      exact Text.lower_lower _
    · obtain rfl := Option.some.inj h
      exact Text.lower_lower _

/-- The name of a tag is in lower case, however it was written. -/
theorem lower_name_of_ofSpan? {raw : Text} {tag : Tag} (h : Tag.ofSpan? raw = some tag) :
    Text.lower tag.name = tag.name := by
  unfold Tag.ofSpan? at h
  split at h
  · cases h
  · split at h
    · split at h
      · exact lower_name_of_ofInner? h
      · cases h
    · cases h

/-- **A tag among the tokens of a text** is a known one, written as it is kept. -/
theorem ofSpan?_of_mem_tokenize {known : Text → Bool} {text raw : Text} {tag : Tag}
    (h : tag.token raw ∈ tokenize known text) :
    Tag.ofSpan? raw = some tag ∧ known tag.name = true :=
  (tokenize_eq_tag_iff.mp (tokenize_of_mem h)).2

/-! ## 4. A whole text -/

/-- The value is the piece of the text that starts right behind the tag and ends in front of the
first token that ends the body, or with the body that the tag stands in. -/
def Site.Verbatim (parser : TagParser) (text : Text) (options : TagOptions) (site : Site)
    (value : Text) : Prop :=
  ∃ before body ended,
    parser.tokens text = before ++ site.token :: (body ++ ended ++ site.outside) ∧
    site.inside = body ++ ended ∧
    (∀ token ∈ body, token.endsRaw site.name options = false) ∧
    (∀ token ∈ ended.head?, token.endsRaw site.name options = true) ∧
    value = Token.rawText body ∧
    text = Token.rawText before ++ site.raw ++ value ++ Token.rawText (ended ++ site.outside)

/-- The call tells its formatter what the text says at the place. -/
structure Call.Right (parser : TagParser) (text : Text) (context : Context) (site : Site)
    (call : Call) : Prop where
  /-- The place is an opening tag of the text. -/
  place : site.token :: site.behind <:+ parser.tokens text
  /-- It is at the top of the text or in the body of an element that is formatted. -/
  around : site.AtTop none (parser.tokens text) [] ∨
    ∃ outer ∈ parser.sites text, outer.Encloses parser.rules site
  tag : call.tag = site.name
  attributes : call.attributes = site.attributes
  parent : call.parent = site.parent
  context : call.context = context
  /-- The name is a registered one, in lower case. -/
  name : parser.rules.knows call.tag = true ∧ Text.lower call.tag = call.tag
  /-- The parent has a formatted body, and it is reported with the options of its rule. -/
  parentRule : ∀ tag, call.parent = some tag → ∃ rule,
    Dict.get? tag.name parser.rules = some rule ∧ tag.options = rule.options ∧
      rule.options.standalone = false ∧ rule.options.renderEmbedded = true
  standalone : ∀ rule, Dict.get? call.tag parser.rules = some rule →
    rule.options.standalone = true → call.value = []
  strip : ∀ rule, Dict.get? call.tag parser.rules = some rule →
    rule.options.standalone = false → rule.options.strip = true →
    Text.trim call.value = call.value
  verbatim : ∀ rule, Dict.get? call.tag parser.rules = some rule →
    rule.options.takesRaw = true → rule.options.strip = false →
    site.Verbatim parser text rule.options call.value

section Whole

variable {parser : TagParser} {text : Text} {context : Context} {site : Site}

theorem verbatim_rawValue {options : TagOptions} (hraw : options.takesRaw = true)
    (hstrip : options.strip = false) (hplace : site.token :: site.behind <:+ parser.tokens text) :
    site.Verbatim parser text options (options.rawValue site.name site.inside) := by
  obtain ⟨halone, -⟩ := TagOptions.body_of_takesRaw hraw
  have hvalue : options.rawValue site.name site.inside = Token.rawText (site.body options) := by
    rw [TagOptions.rawValue_of_body halone, TagOptions.stripped, hstrip, if_neg Bool.false_ne_true,
      Site.body]
  obtain ⟨ended, hinside, hpassed, hends⟩ := exists_rawBody hraw site.name site.inside
  obtain ⟨before, hbefore⟩ := hplace
  have htokens : parser.tokens text =
      before ++ site.token :: (site.body options ++ ended ++ site.outside) := by
    rw [Site.body, ← hinside, ← hbefore, Site.behind]
  have htext : Token.rawText (parser.tokens text) = text :=
    rawText_tokenize (fun name => Dict.contains name parser.rules) text
  refine ⟨before, site.body options, ended, htokens, hinside, hpassed, hends, hvalue, ?_⟩
  have htag (rest : List Token) :
      Token.rawText (site.token :: rest) = site.raw ++ Token.rawText rest := rfl
  rw [htokens] at htext
  rw [hvalue, ← htext, Token.rawText_append, htag, List.append_assoc (site.body options),
    Token.rawText_append (site.body options), List.append_assoc, List.append_assoc]

/-- What a parser makes of a text follows the relation on the tokens of the text. -/
theorem format_formats_tokens (parser : TagParser) (text : Text) (context : Context) :
    Formats parser.rules context none parser.history (parser.tokens text)
      (parser.format text context).result (parser.format text context).calls := by
  obtain ⟨outcome, calls, hrun, hformats⟩ :=
    formatTokens_follows parser.rules context none (parser.tokens text) parser.history
  have hspelled : (formatTokens parser.rules context none
      (spelled parser.rules.knows text)).run.run parser.history =
      (outcome, parser.history ++ calls) := by
    rw [← hrun, TagParser.tokens, formatTokens_tokenize]
    rfl
  rw [format_of_run hspelled]
  exact hformats

/-- The name of a place is a registered one, in lower case. -/
theorem known_of_place (h : site.token :: site.behind <:+ parser.tokens text) :
    parser.rules.knows site.name = true ∧ Text.lower site.name = site.name := by
  have htoken : (Tag.opening site.name site.attributes).token site.raw ∈ parser.tokens text :=
    h.subset List.mem_cons_self
  obtain ⟨hspan, hknown⟩ := ofSpan?_of_mem_tokenize htoken
  exact ⟨hknown, lower_name_of_ofSpan? hspan⟩

/-- A place tells its parent rightly. -/
theorem Site.Encloses.parentRule {rules : Rules} {outer : Site} (h : outer.Encloses rules site) :
    ∃ tag rule, site.parent = some tag ∧ Dict.get? tag.name rules = some rule ∧
      tag.options = rule.options ∧ rule.options.standalone = false ∧
      rule.options.renderEmbedded = true := by
  obtain ⟨rule, -, hrule, hbody, hparent, -⟩ := h
  exact ⟨_, rule, hparent, hrule, rfl, TagOptions.standalone_of_formatsBody hbody⟩

/-- The call for a place tells what the text says there. -/
theorem Site.Gets.right {call : Call} (h : Site.Gets parser.rules context site call)
    (hsite : site ∈ parser.sites text) : Call.Right parser text context site call := by
  have hplace : site.token :: site.behind <:+ parser.tokens text := by
    have hsuffix := site_suffix hsite
    rwa [List.append_nil] at hsuffix
  have haround := site_enclosed hsite
  obtain ⟨rule, hrule, hvalue⟩ := h.value
  have hunique {other : Rule} (hother : Dict.get? call.tag parser.rules = some other) :
      rule = other := by
    rw [h.tag, hrule] at hother
    exact Option.some.inj hother
  exact {
    place := hplace
    around := haround
    tag := h.tag
    attributes := h.attributes
    parent := h.parent
    context := h.context
    name := by
      rw [h.tag]
      exact known_of_place hplace
    parentRule := fun tag htag => by
      rw [h.parent] at htag
      rcases haround with ⟨hnone, -⟩ | ⟨outer, -, hencloses⟩
      · cases hnone.symm.trans htag
      · obtain ⟨found, rule, hparent, hfound⟩ := hencloses.parentRule
        obtain rfl := Option.some.inj (hparent.symm.trans htag)
        exact ⟨rule, hfound⟩
    standalone := fun other hother halone => by
      obtain rfl := hunique hother
      rcases hvalue with ⟨hbody, -⟩ | ⟨-, hvalue⟩
      · obtain ⟨hoff, -⟩ := TagOptions.standalone_of_formatsBody hbody
        cases halone.symm.trans hoff
      · rw [hvalue, TagOptions.rawValue_of_standalone halone]
    strip := fun other hother halone hstrip => by
      obtain rfl := hunique hother
      rcases hvalue with ⟨-, inner, hvalue⟩ | ⟨-, hvalue⟩
      · rw [hvalue, TagOptions.trim_stripped hstrip]
      · rw [hvalue, TagOptions.rawValue_of_body halone, TagOptions.trim_stripped hstrip]
    verbatim := fun other hother hraw hstrip => by
      obtain rfl := hunique hother
      rcases hvalue with ⟨hbody, -⟩ | ⟨-, hvalue⟩
      · cases (TagOptions.not_takesRaw_of_formatsBody hbody).symm.trans hraw
      · rw [hvalue]
        exact verbatim_rawValue hraw hstrip hplace }

/-- **What formatters are told is right.** The calls that a parser makes for a text are those for the
places of the text, in their order: all of them if no formatter fails, else up to the failure. Each
call tells what the text says at its place; no two calls are for one place, and none is for a place
inside a body that another call gets as it is written. -/
theorem format_tells (parser : TagParser) (text : Text) (context : Context) :
    ∃ told later, parser.sites text = told ++ later ∧
      List.Forall₂ (Call.Right parser text context) told (parser.format text context).calls ∧
      (∀ out, (parser.format text context).result = .ok out → later = []) ∧
      told.Pairwise (Site.Apart parser.rules) := by
  obtain ⟨told, later, hsites, hgets, hall⟩ := (format_formats_tokens parser text context).gets []
  have hsites : parser.sites text = told ++ later := hsites
  have hapart := sites_apart parser.rules none (parser.tokens text) []
  have hmem (site : Site) (h : site ∈ told) : site ∈ parser.sites text := by
    rw [hsites]
    exact List.mem_append_left _ h
  refine ⟨told, later, hsites, ?_, hall, ?_⟩
  · have hboth := (List.forall₂_and_left _ _).mpr ⟨hmem, hgets⟩
    exact hboth.imp fun site call h => h.2.right h.1
  · change (parser.sites text).Pairwise _ at hapart
    rw [hsites, List.pairwise_append] at hapart
    exact hapart.1

/-- A raw body is told as it is written, and the tags inside it get no call. -/
example :
    let echo : Formatter := .handler ⟨fun _ call => .ok call.value⟩
    let parser := (TagParser.insert "b".toList {} echo {}).insert "raw".toList
      { renderEmbedded := false, strip := false } echo
    let told := (parser.format "[B][raw][b] x[/b][/raw]y[/b][raw][b]".toList []).calls
    told.map (fun call => (call.tag, call.value, call.parent.map ParentTag.name)) =
      [("raw".toList, "[b] x[/b]".toList, some "b".toList),
        ("b".toList, "[b] x[/b]y".toList, none), ("raw".toList, "[b]".toList, none)] := by
  decide +kernel

end Whole

end Dispatch.Markup
