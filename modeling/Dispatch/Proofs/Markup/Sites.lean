import Dispatch.Proofs.Markup.Run

/-!
# The tags that get a call

Which tags of a text get a call, in which order, and which tag stands around each of them, is
settled before any formatter runs: `Rules.sites` lists them, each with its place. This file shows
where these places are:

* each is an opening tag of the text (`site_suffix`), at the top of the text or in the body of an
  element that takes its body formatted (`site_enclosed`);
* no two are the same place, and none lies in a body that is taken raw (`sites_apart`).

A place is told by the number of tokens behind it.
-/

namespace Dispatch.Markup

/-! ## 1. Places -/

/-- An opening tag in its place: what it says, the tag around it, the tokens behind it up to the end
of the body that it stands in, and the tokens behind that body. -/
structure Site where
  name : Text
  attributes : Attributes
  raw : Text
  parent : Option ParentTag
  inside : List Token
  outside : List Token
  deriving DecidableEq, Repr

namespace Site

/-- The tag as a token. -/
def token (site : Site) : Token := .opening site.name site.attributes site.raw

/-- All tokens behind the tag. -/
def behind (site : Site) : List Token := site.inside ++ site.outside

/-- How many tokens stand behind the tag. -/
def left (site : Site) : Nat := site.inside.length + site.outside.length

/-- The tokens of the body that the tag has with some options. -/
def body (options : TagOptions) (site : Site) : List Token :=
  bodyTokens site.name options site.inside

/-- The other tag stands in the body of this one. -/
def Holds (options : TagOptions) (site other : Site) : Prop :=
  other.left < site.left ∧ site.left ≤ other.left + (site.body options).length

/-- The other tag stands in the body of this one, on whose tags formatters are called before its
own. What stands behind the other tag in its body is the rest of the body of this one. -/
def Encloses (rules : Rules) (site other : Site) : Prop :=
  ∃ rule earlier, Dict.get? site.name rules = some rule ∧ rule.options.formatsBody = true ∧
    other.parent = some ⟨site.name, rule.options⟩ ∧
    site.body rule.options = earlier ++ other.token :: other.inside ∧
    site.behind = earlier ++ other.token :: other.behind

end Site

namespace TagOptions

/-- The formatter gets the body as it is written. -/
def takesRaw (options : TagOptions) : Bool := !options.standalone && !options.renderEmbedded

theorem not_takesRaw_of_formatsBody {options : TagOptions} (h : options.formatsBody = true) :
    options.takesRaw = false := by
  obtain ⟨-, hembedded⟩ := standalone_of_formatsBody h
  rw [takesRaw, hembedded, Bool.not_true, Bool.and_false]

theorem body_of_takesRaw {options : TagOptions} (h : options.takesRaw = true) :
    options.standalone = false ∧ options.renderEmbedded = false := by
  simpa [takesRaw] using h

theorem following_length_le (options : TagOptions) (name : Text) (rest : List Token) :
    (options.following name rest).length ≤ rest.length := by
  rw [following]
  split
  · exact Nat.le_refl _
  · exact tokensBehind_length_le name options rest

/-- Behind a tag, the body comes before what follows. -/
theorem body_following_length_le {options : TagOptions} (h : options.standalone = false)
    (name : Text) (rest : List Token) :
    (bodyTokens name options rest).length + (options.following name rest).length ≤ rest.length := by
  obtain ⟨taken, hcut, -⟩ := exists_taken name options rest
  have hlength := congrArg List.length hcut
  rw [List.length_append, List.length_append] at hlength
  rw [following_of_body h]
  omega

/-- What follows a tag is an end of the tokens behind it. -/
theorem following_suffix (options : TagOptions) (name : Text) (rest : List Token) :
    options.following name rest <:+ rest := by
  rw [following]
  split
  · exact List.suffix_refl rest
  · obtain ⟨taken, hcut, -⟩ := exists_taken name options rest
    exact ⟨_, hcut.symm⟩

theorem following_append_suffix (options : TagOptions) (name : Text) (rest outside : List Token) :
    options.following name rest ++ outside <:+ rest ++ outside := by
  obtain ⟨passed, hpassed⟩ := options.following_suffix name rest
  exact ⟨passed, by rw [← List.append_assoc, hpassed]⟩

end TagOptions

/-- The tags among the tokens that get a call, in the order of their calls: those in the body of a
tag, if it is formatted, come before the tag. -/
def Rules.sites (rules : Rules) (parent : Option ParentTag) (tokens outside : List Token) :
    List Site :=
  match tokens with
  | [] => []
  | .opening name attributes raw :: rest =>
    match Dict.get? name rules with
    | none => rules.sites parent rest outside
    | some rule =>
      have := bodyTokens_length_le name rule.options rest
      have := rule.options.following_length_le name rest
      let body := bodyTokens name rule.options rest
      let within :=
        if rule.options.formatsBody then
          rules.sites (some ⟨name, rule.options⟩) body (rest.drop body.length ++ outside)
        else []
      within ++ ⟨name, attributes, raw, parent, rest, outside⟩
        :: rules.sites parent (rule.options.following name rest) outside
  | _ :: rest => rules.sites parent rest outside
termination_by tokens.length
decreasing_by all_goals simp only [List.length_cons]; omega

/-- The tags of a text for which a parser calls a formatter, in the order of the calls. -/
def TagParser.sites (parser : TagParser) (text : Text) : List Site :=
  parser.rules.sites none (parser.tokens text) []

section Equations

variable {rules : Rules} {parent : Option ParentTag} {outside : List Token}

@[simp] theorem sites_nil : rules.sites parent [] outside = [] := by
  rw [Rules.sites]

theorem sites_copied {token : Token} {rest : List Token} (h : ¬rules.Calls token) :
    rules.sites parent (token :: rest) outside = rules.sites parent rest outside := by
  cases token with
  | data text => rw [Rules.sites]; exact fun _ _ _ => Token.noConfusion
  | newline => rw [Rules.sites]; exact fun _ _ _ => Token.noConfusion
  | opening name attributes raw =>
    have hunruled : Dict.get? name rules = none := Rules.get?_of_not_knows h
    rw [Rules.sites]
    simp only [hunruled]
  | closing name raw => rw [Rules.sites]; exact fun _ _ _ => Token.noConfusion

section Opening

variable {name raw : Text} {attributes : Attributes} {rest : List Token} {rule : Rule}

theorem sites_embedded (hrule : Dict.get? name rules = some rule)
    (hbody : rule.options.formatsBody = true) :
    rules.sites parent (.opening name attributes raw :: rest) outside =
      rules.sites (some ⟨name, rule.options⟩) (bodyTokens name rule.options rest)
          (rest.drop (bodyTokens name rule.options rest).length ++ outside)
        ++ ⟨name, attributes, raw, parent, rest, outside⟩
        :: rules.sites parent (rule.options.following name rest) outside := by
  rw [Rules.sites]
  simp only [hrule, hbody, ↓reduceIte]

theorem sites_raw (hrule : Dict.get? name rules = some rule)
    (hbody : rule.options.formatsBody = false) :
    rules.sites parent (.opening name attributes raw :: rest) outside =
      ⟨name, attributes, raw, parent, rest, outside⟩
        :: rules.sites parent (rule.options.following name rest) outside := by
  rw [Rules.sites]
  simp only [hrule, hbody, Bool.false_eq_true, ↓reduceIte, List.nil_append]

end Opening

/-- An induction along the tokens as they are formatted: over the tokens for which no formatter is
called one by one, over a tag with its body and what follows it. -/
@[elab_as_elim]
theorem callInduction (rules : Rules) {motive : List Token → Prop} (nil : motive [])
    (copied : ∀ token rest, ¬rules.Calls token → motive rest → motive (token :: rest))
    (called : ∀ name attributes raw rest rule, Dict.get? name rules = some rule →
      motive (bodyTokens name rule.options rest) → motive (rule.options.following name rest) →
      motive (.opening name attributes raw :: rest))
    (tokens : List Token) : motive tokens := by
  induction hlength : tokens.length using Nat.strongRecOn generalizing tokens with
  | ind n ih =>
    subst hlength
    cases tokens with
    | nil => exact nil
    | cons token rest =>
      have hrest : rest.length < (token :: rest).length := Nat.lt_succ_self _
      by_cases hcalls : rules.Calls token
      · cases token with
        | opening name attributes raw =>
          cases hrule : Dict.get? name rules with
          | none =>
            have hunknown := Rules.not_knows_of_get? hrule
            exact absurd (hunknown.symm.trans hcalls) Bool.false_ne_true
          | some rule =>
            have hbody := bodyTokens_length_le name rule.options rest
            have hfollowing := rule.options.following_length_le name rest
            exact called name attributes raw rest rule hrule
              (ih _ (Nat.lt_of_le_of_lt hbody hrest) _ rfl)
              (ih _ (Nat.lt_of_le_of_lt hfollowing hrest) _ rfl)
        | data text => exact absurd hcalls id
        | newline => exact absurd hcalls id
        | closing name raw => exact absurd hcalls id
      · exact copied token rest hcalls (ih _ hrest _ rfl)

/-- The same induction, told of the tag around the tokens and of the tokens behind them: a tag whose
body is formatted stands around it, and one whose body is not is passed over with it. -/
@[elab_as_elim]
theorem tagInduction (rules : Rules)
    {motive : Option ParentTag → List Token → List Token → Prop}
    (nil : ∀ parent outside, motive parent [] outside)
    (copied : ∀ parent token rest outside, ¬rules.Calls token → motive parent rest outside →
      motive parent (token :: rest) outside)
    (embedded : ∀ parent name attributes raw rest outside rule,
      Dict.get? name rules = some rule → rule.options.formatsBody = true →
      motive (some ⟨name, rule.options⟩) (bodyTokens name rule.options rest)
        (rest.drop (bodyTokens name rule.options rest).length ++ outside) →
      motive parent (rule.options.following name rest) outside →
      motive parent (.opening name attributes raw :: rest) outside)
    (raw : ∀ parent name attributes raw rest outside rule,
      Dict.get? name rules = some rule → rule.options.formatsBody = false →
      motive parent (rule.options.following name rest) outside →
      motive parent (.opening name attributes raw :: rest) outside)
    (parent : Option ParentTag) (tokens outside : List Token) : motive parent tokens outside := by
  induction tokens using callInduction rules generalizing parent outside with
  | nil => exact nil parent outside
  | copied token rest hcopied ih =>
    exact copied parent token rest outside hcopied (ih parent outside)
  | called name attributes text rest rule hrule ihbody ihbehind =>
    cases hbody : rule.options.formatsBody with
    | true =>
      exact embedded parent name attributes text rest outside rule hrule hbody
        (ihbody (some ⟨name, rule.options⟩) _) (ihbehind parent outside)
    | false =>
      exact raw parent name attributes text rest outside rule hrule hbody (ihbehind parent outside)

end Equations

/-! ## 2. Where the places are -/

section Places

variable {rules : Rules} {parent : Option ParentTag} {tokens outside : List Token} {site : Site}

/-- A body and what stands behind it are the tokens behind the tag. -/
theorem body_append_drop (name : Text) (options : TagOptions) (rest : List Token) :
    bodyTokens name options rest ++ rest.drop (bodyTokens name options rest).length = rest :=
  List.prefix_iff_eq_append.mp (List.take_prefix _ _)

/-- **Every place is a tag among the tokens**, with what stands behind it. -/
theorem site_suffix (h : site ∈ rules.sites parent tokens outside) :
    site.token :: site.behind <:+ tokens ++ outside := by
  induction parent, tokens, outside using tagInduction rules with
  | nil parent outside =>
    rw [sites_nil] at h
    cases h
  | copied parent token rest outside hcopied ih =>
    rw [sites_copied hcopied] at h
    exact (ih h).trans (List.suffix_cons token _)
  | embedded parent name attributes raw rest outside rule hrule hbody ihbody ihbehind =>
    have hrest : rest ++ outside <:+ .opening name attributes raw :: rest ++ outside :=
      List.suffix_cons _ _
    rw [sites_embedded hrule hbody, List.mem_append, List.mem_cons] at h
    rcases h with hwithin | rfl | hlater
    · have hsuffix := ihbody hwithin
      rw [← List.append_assoc, body_append_drop] at hsuffix
      exact hsuffix.trans hrest
    · exact List.suffix_refl _
    · have hfollowing := rule.options.following_append_suffix name rest outside
      exact ((ihbehind hlater).trans hfollowing).trans hrest
  | raw parent name attributes raw rest outside rule hrule hbody ih =>
    have hrest : rest ++ outside <:+ .opening name attributes raw :: rest ++ outside :=
      List.suffix_cons _ _
    rw [sites_raw hrule hbody, List.mem_cons] at h
    rcases h with rfl | hlater
    · exact List.suffix_refl _
    · have hfollowing := rule.options.following_append_suffix name rest outside
      exact ((ih hlater).trans hfollowing).trans hrest

/-- The body that a place lies in ends no later than the tokens. -/
theorem outside_length_le (h : site ∈ rules.sites parent tokens outside) :
    outside.length ≤ site.outside.length := by
  induction parent, tokens, outside using tagInduction rules with
  | nil parent outside =>
    rw [sites_nil] at h
    cases h
  | copied parent token rest outside hcopied ih =>
    rw [sites_copied hcopied] at h
    exact ih h
  | embedded parent name attributes raw rest outside rule hrule hbody ihbody ihbehind =>
    rw [sites_embedded hrule hbody, List.mem_append, List.mem_cons] at h
    rcases h with hwithin | rfl | hlater
    · have hle := ihbody hwithin
      rw [List.length_append] at hle
      omega
    · exact Nat.le_refl _
    · exact ihbehind hlater
  | raw parent name attributes raw rest outside rule hrule hbody ih =>
    rw [sites_raw hrule hbody, List.mem_cons] at h
    rcases h with rfl | hlater
    · exact Nat.le_refl _
    · exact ih hlater

/-- A place at the top of the tokens: what stands behind it there is the rest of them. -/
def Site.AtTop (parent : Option ParentTag) (tokens outside : List Token) (site : Site) : Prop :=
  site.parent = parent ∧ site.outside = outside ∧
    ∃ earlier, tokens = earlier ++ site.token :: site.inside

theorem Site.AtTop.mono {part : List Token} (h : site.AtTop parent part outside)
    (hsuffix : part <:+ tokens) : site.AtTop parent tokens outside := by
  obtain ⟨hparent, houtside, earlier, rfl⟩ := h
  obtain ⟨before, rfl⟩ := hsuffix
  exact ⟨hparent, houtside, before ++ earlier, (List.append_assoc _ _ _).symm⟩

/-- **Every place is at the top or in the body of another one**, whose tag it reports. -/
theorem site_enclosed (h : site ∈ rules.sites parent tokens outside) :
    site.AtTop parent tokens outside ∨
      ∃ outer ∈ rules.sites parent tokens outside, outer.Encloses rules site := by
  induction parent, tokens, outside using tagInduction rules with
  | nil parent outside =>
    rw [sites_nil] at h
    cases h
  | copied parent token rest outside hcopied ih =>
    rw [sites_copied hcopied] at h ⊢
    exact (ih h).imp_left fun htop => htop.mono (List.suffix_cons token rest)
  | embedded parent name attributes raw rest outside rule hrule hbody ihbody ihbehind =>
    have hsuffix := (rule.options.following_suffix name rest).trans
      (List.suffix_cons (.opening name attributes raw) rest)
    rw [sites_embedded hrule hbody] at h ⊢
    rcases List.mem_append.mp h with hwithin | hothers
    · right
      rcases ihbody hwithin with ⟨hparent, houtside, earlier, hearlier⟩ | ⟨outer, houter, hencloses⟩
      · -- the tag itself stands around it
        have hbehind : rest ++ outside = earlier ++ site.token :: site.behind := by
          rw [Site.behind, houtside, ← List.cons_append, ← List.append_assoc, ← hearlier,
            ← List.append_assoc, body_append_drop]
        exact ⟨_, List.mem_append_right _ List.mem_cons_self, rule, earlier, hrule, hbody, hparent,
          hearlier, hbehind⟩
      · exact ⟨outer, List.mem_append_left _ houter, hencloses⟩
    · rcases List.mem_cons.mp hothers with rfl | hlater
      · exact Or.inl ⟨rfl, rfl, [], rfl⟩
      · refine (ihbehind hlater).imp (fun htop => htop.mono hsuffix) ?_
        rintro ⟨outer, houter, hencloses⟩
        exact ⟨outer, List.mem_append_right _ (List.mem_cons_of_mem _ houter), hencloses⟩
  | raw parent name attributes raw rest outside rule hrule hbody ih =>
    have hsuffix := (rule.options.following_suffix name rest).trans
      (List.suffix_cons (.opening name attributes raw) rest)
    rw [sites_raw hrule hbody] at h ⊢
    rcases List.mem_cons.mp h with rfl | hlater
    · exact Or.inl ⟨rfl, rfl, [], rfl⟩
    · refine (ih hlater).imp (fun htop => htop.mono hsuffix) ?_
      rintro ⟨outer, houter, hencloses⟩
      exact ⟨outer, List.mem_cons_of_mem _ houter, hencloses⟩

/-! ## 3. Places apart -/

/-- Two places are not the same, and neither lies in a body that the other one takes raw. -/
structure Site.Apart (rules : Rules) (site other : Site) : Prop where
  ne : site.left ≠ other.left
  outer : ∀ rule, Dict.get? site.name rules = some rule → rule.options.takesRaw = true →
    ¬site.Holds rule.options other
  inner : ∀ rule, Dict.get? other.name rules = some rule → rule.options.takesRaw = true →
    ¬other.Holds rule.options site

/-- A place lies between the start of the tokens and the end of the body that it stands in. -/
theorem left_bounds (h : site ∈ rules.sites parent tokens outside) :
    site.left < tokens.length + outside.length ∧
      outside.length + site.inside.length ≤ site.left := by
  have hsuffix := (site_suffix h).length_le
  have houtside := outside_length_le h
  rw [List.length_cons, Site.behind, List.length_append, List.length_append] at hsuffix
  rw [Site.left]
  omega

/-- A place ahead of another one, whose body ends before it unless it is formatted. -/
theorem apart_of_ahead {other : Site} (hahead : other.left < site.left)
    (hends : ∀ rule, Dict.get? site.name rules = some rule → rule.options.takesRaw = true →
      other.left + (site.body rule.options).length < site.left) : site.Apart rules other where
  ne := by omega
  outer rule hrule hraw hholds := by
    have hbefore := hends rule hrule hraw
    have hle := hholds.2
    omega
  inner rule _ _ hholds := by
    have hlt := hholds.1
    omega

theorem Site.Apart.symm {other : Site} (h : site.Apart rules other) : other.Apart rules site :=
  ⟨h.ne.symm, h.inner, h.outer⟩

theorem body_length_le (options : TagOptions) : (site.body options).length ≤ site.inside.length :=
  bodyTokens_length_le site.name options site.inside

/-- **The places of the tokens lie apart.** -/
theorem sites_apart (rules : Rules) (parent : Option ParentTag) (tokens outside : List Token) :
    (rules.sites parent tokens outside).Pairwise (Site.Apart rules) := by
  induction parent, tokens, outside using tagInduction rules with
  | nil parent outside =>
    rw [sites_nil]
    exact .nil
  | copied parent token rest outside hcopied ih =>
    rw [sites_copied hcopied]
    exact ih
  | embedded parent name attributes raw rest outside rule hrule hbody ihbody ihbehind =>
    obtain ⟨halone, -⟩ := TagOptions.standalone_of_formatsBody hbody
    have hcut := TagOptions.body_following_length_le halone name rest
    have hbodyLength := bodyTokens_length_le name rule.options rest
    rw [sites_embedded hrule hbody, List.pairwise_append, List.pairwise_cons]
    refine ⟨ihbody, ⟨fun later hlater => ?_, ihbehind⟩, fun within hwithin other hother => ?_⟩
    · -- the tag takes no raw body
      obtain ⟨hlater, -⟩ := left_bounds hlater
      have hahead : later.left < rest.length + outside.length := by omega
      refine apart_of_ahead hahead fun found hfound hraw => ?_
      obtain rfl := Option.some.inj (hrule.symm.trans hfound)
      rw [TagOptions.not_takesRaw_of_formatsBody hbody] at hraw
      cases hraw
    · obtain ⟨hstart, hends⟩ := left_bounds hwithin
      rw [List.length_append, List.length_drop] at hstart hends
      rcases List.mem_cons.mp hother with rfl | hlater
      · have hahead : within.left < rest.length + outside.length := by omega
        refine (apart_of_ahead hahead fun found hfound hraw => ?_).symm
        obtain rfl := Option.some.inj (hrule.symm.trans hfound)
        rw [TagOptions.not_takesRaw_of_formatsBody hbody] at hraw
        cases hraw
      · obtain ⟨hlater, -⟩ := left_bounds hlater
        refine apart_of_ahead (by omega) fun found _ _ => ?_
        have hle := @body_length_le within found.options
        omega
  | raw parent name attributes raw rest outside rule hrule hbody ih =>
    have hfollowing := rule.options.following_length_le name rest
    rw [sites_raw hrule hbody, List.pairwise_cons]
    refine ⟨fun later hlater => ?_, ih⟩
    obtain ⟨hlater, -⟩ := left_bounds hlater
    have hahead : later.left < rest.length + outside.length := by omega
    refine apart_of_ahead hahead fun found hfound hraw => ?_
    obtain rfl := Option.some.inj (hrule.symm.trans hfound)
    obtain ⟨halone, -⟩ := TagOptions.body_of_takesRaw hraw
    have hcut := TagOptions.body_following_length_le halone name rest
    have hends : later.left + (bodyTokens name rule.options rest).length <
        rest.length + outside.length := by omega
    exact hends

end Places

end Dispatch.Markup
