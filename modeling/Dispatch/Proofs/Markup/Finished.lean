import Dispatch.Proofs.Markup.DepthFirst
import Dispatch.Proofs.Markup.Sites

/-!
# Finished beginnings

The search for the end of a tag looks at all the tokens that are left, but it stops at the first one
that ends the tag. So tokens whose tags are ended among themselves are formatted in the same way
whatever stands behind them, however their bodies are made; only a newline right behind them may
still be swallowed. Main statement: `outcome_append_of_finished`.
-/

namespace Dispatch.Markup

/-! ## 1. The end of a tag and the tokens behind -/

namespace Closing

variable {name : Text} {options : TagOptions}

/-- A token ends the search, whatever stands behind it, or the search goes on behind it. -/
theorem find_step (name : Text) (options : TagOptions) (depth : Nat) (token : Token) :
    (∃ consumed, ∀ rest, find name options depth (token :: rest) = ⟨0, consumed⟩) ∨
      ∃ depth', ∀ rest, find name options depth (token :: rest) =
        (find name options depth' rest).later := by
  cases token with
  | data text => exact Or.inr ⟨depth, fun rest => by rw [find]⟩
  | newline =>
    by_cases hcloses : options.newlineCloses = true
    · exact Or.inl ⟨true, fun rest => by rw [find, if_pos hcloses]⟩
    · exact Or.inr ⟨depth, fun rest => by rw [find, if_neg hcloses]⟩
  | opening other attributes raw =>
    by_cases hname : other = name
    · by_cases hsame : options.sameTagCloses = true
      · exact Or.inl ⟨false, fun rest => by rw [find, if_pos hname, if_pos hsame]⟩
      · exact Or.inr ⟨if options.renderEmbedded then depth + 1 else depth,
          fun rest => by rw [find, if_pos hname, if_neg hsame]⟩
    · exact Or.inr ⟨depth, fun rest => by rw [find, if_neg hname]⟩
  | closing other raw =>
    by_cases hname : other = name
    · cases depth with
      | zero => exact Or.inl ⟨true, fun rest => by rw [find, if_pos hname]⟩
      | succ depth => exact Or.inr ⟨depth, fun rest => by rw [find, if_pos hname]⟩
    · exact Or.inr ⟨depth, fun rest => by rw [find.eq_def]; simp only [hname, ↓reduceIte]⟩

/-- **A search ends among some tokens**, and then nothing behind them matters, **or it runs off
their end**, and then it goes on in what stands behind them. -/
theorem find_append (name : Text) (options : TagOptions) (depth : Nat) (tokens : List Token) :
    ((find name options depth tokens).length < tokens.length ∧
        ∀ behind, find name options depth (tokens ++ behind) = find name options depth tokens) ∨
      (find name options depth tokens = ⟨tokens.length, true⟩ ∧
        ∃ depth', ∀ behind, find name options depth (tokens ++ behind) =
          (find name options depth' behind).laterBy tokens.length) := by
  induction tokens generalizing depth with
  | nil => exact Or.inr ⟨rfl, depth, fun behind => rfl⟩
  | cons token rest ih =>
    rcases find_step name options depth token with ⟨consumed, hends⟩ | ⟨depth', hgoes⟩
    · refine Or.inl ⟨?_, fun behind => ?_⟩
      · rw [hends]
        exact Nat.succ_pos _
      · rw [List.cons_append, hends, hends]
    · rcases ih depth' with ⟨hlength, hsame⟩ | ⟨hend, depth'', hlater⟩
      · refine Or.inl ⟨?_, fun behind => ?_⟩
        · rw [hgoes]
          exact Nat.succ_lt_succ hlength
        · rw [List.cons_append, hgoes, hgoes, hsame]
      · refine Or.inr ⟨?_, depth'', fun behind => ?_⟩
        · rw [hgoes, hend]
          rfl
        · rw [List.cons_append, hgoes, hlater, later_laterBy]
          rfl

end Closing

theorem dropNewline_append {tokens behind : List Token}
    (h : tokens = [] → behind.head? ≠ some .newline) :
    dropNewline (tokens ++ behind) = dropNewline tokens ++ behind := by
  cases tokens with
  | nil =>
    cases behind with
    | nil => rfl
    | cons token rest =>
      cases token with
      | newline => exact absurd rfl (h rfl)
      | data text => rfl
      | opening name attributes raw => rfl
      | closing name raw => rfl
  | cons token rest =>
    cases token with
    | newline => rfl
    | data text => rfl
    | opening name attributes raw => rfl
    | closing name raw => rfl

/-! ## 2. One tag and the tokens behind -/

/-- The value that the formatter of a tag gets, given the tokens behind the tag. -/
def formatValue (rules : Rules) (context : Context) (name : Text) (options : TagOptions)
    (rest : List Token) : Formatting Text :=
  if options.formatsBody then
    options.stripped <$>
      formatTokens rules context (some ⟨name, options⟩) (bodyTokens name options rest)
  else pure (options.rawValue name rest)

/-- A tag that there is a rule for: its value is made, its formatter is called, and what follows
the tag is formatted. -/
theorem formatTokens_called {rules : Rules} {context : Context} {parent : Option ParentTag}
    {name : Text} {rule : Rule} (hrule : Dict.get? name rules = some rule)
    (attributes : Attributes) (raw : Text) (rest : List Token) :
    formatTokens rules context parent (.opening name attributes raw :: rest) = do
      let value ← formatValue rules context name rule.options rest
      let text ← invoke rule.formatter ⟨name, value, attributes, parent, context⟩
      let behind ← formatTokens rules context parent (rule.options.following name rest)
      return text ++ behind := by
  cases hbody : rule.options.formatsBody with
  | true =>
    rw [formatTokens_embedded hrule hbody, formatValue, if_pos hbody, map_eq_pure_bind, bind_assoc]
    simp only [pure_bind]
  | false =>
    rw [formatTokens_raw hrule hbody, formatValue, hbody, if_neg Bool.false_ne_true, pure_bind]

/-- A tag with a body: the tokens behind its opening tag. -/
structure OpenedTag where
  name : Text
  options : TagOptions
  rest : List Token

namespace OpenedTag

/-- Where the tag ends among the tokens behind it. -/
def closing (tag : OpenedTag) : Closing := Closing.find tag.name tag.options 0 tag.rest

/-- One of the tokens ends the tag. -/
def Ended (tag : OpenedTag) : Prop := tag.closing.length < tag.rest.length

/-- The tag ends with the last of the tokens and takes a newline right behind it. -/
def SwallowsNext (tag : OpenedTag) : Prop :=
  tag.options.swallowTrailingNewline = true ∧ tag.closing.behind tag.rest = []

instance : DecidablePred Ended := fun tag =>
  inferInstanceAs (Decidable (tag.closing.length < tag.rest.length))

instance : DecidablePred SwallowsNext := fun tag =>
  inferInstanceAs (Decidable (tag.options.swallowTrailingNewline = true ∧ _ = []))

variable {tag : OpenedTag}

/-- An end among the tokens is the end, whatever stands behind them. -/
theorem Ended.find_append (h : tag.Ended) (behind : List Token) :
    Closing.find tag.name tag.options 0 (tag.rest ++ behind) = tag.closing := by
  rcases Closing.find_append tag.name tag.options 0 tag.rest with ⟨-, hsame⟩ | ⟨hend, -⟩
  · exact hsame behind
  · rw [Ended, closing, hend] at h
    exact absurd h (Nat.lt_irrefl _)

theorem Ended.bodyTokens_append (h : tag.Ended) (behind : List Token) :
    bodyTokens tag.name tag.options (tag.rest ++ behind) =
      bodyTokens tag.name tag.options tag.rest := by
  rw [bodyTokens, h.find_append, Closing.body, List.take_append_of_le_length (Nat.le_of_lt h)]
  rfl

/-- What follows a tag that is ended goes on behind the tokens, unless the tag takes a newline from
there. -/
theorem Ended.tokensBehind_append (h : tag.Ended) {behind : List Token}
    (hswallow : tag.SwallowsNext → behind.head? ≠ some .newline) :
    tokensBehind tag.name tag.options (tag.rest ++ behind) =
      tokensBehind tag.name tag.options tag.rest ++ behind := by
  have hbehind :
      tag.closing.behind (tag.rest ++ behind) = tag.closing.behind tag.rest ++ behind := by
    rw [Closing.behind, Closing.behind, List.drop_append_of_le_length]
    split
    · exact h
    · exact Nat.le_of_lt h
  have hclosing : Closing.find tag.name tag.options 0 tag.rest = tag.closing := rfl
  simp only [tokensBehind, h.find_append, hbehind, hclosing]
  split
  · next hon => exact dropNewline_append fun hlast => hswallow ⟨hon, hlast⟩
  · rfl

end OpenedTag

/-! ## 3. Tags at the top -/

/-- The tags with a body that are opened at the top of some tokens, and not in the body of another
tag. -/
def Rules.topTags (rules : Rules) (tokens : List Token) : List OpenedTag :=
  match tokens with
  | [] => []
  | .opening name _ _ :: rest =>
    match Dict.get? name rules with
    | none => rules.topTags rest
    | some rule =>
      have := rule.options.following_length_le name rest
      (if rule.options.standalone then [] else [⟨name, rule.options, rest⟩])
        ++ rules.topTags (rule.options.following name rest)
  | _ :: rest => rules.topTags rest
termination_by tokens.length
decreasing_by all_goals simp only [List.length_cons]; omega

/-- Every tag that is opened at the top of the tokens is ended by one of them. -/
def Rules.Finishes (rules : Rules) (tokens : List Token) : Prop :=
  ∀ tag ∈ rules.topTags tokens, tag.Ended

/-- A tag at the top of the tokens ends with the last one and takes a newline right behind it. -/
def Rules.SwallowsNext (rules : Rules) (tokens : List Token) : Prop :=
  ∃ tag ∈ rules.topTags tokens, tag.SwallowsNext

instance (rules : Rules) (tokens : List Token) : Decidable (rules.Finishes tokens) :=
  inferInstanceAs (Decidable (∀ tag ∈ rules.topTags tokens, tag.Ended))

instance (rules : Rules) (tokens : List Token) : Decidable (rules.SwallowsNext tokens) :=
  inferInstanceAs (Decidable (∃ tag ∈ rules.topTags tokens, tag.SwallowsNext))

section TopTags

variable {rules : Rules} {rest : List Token}

theorem topTags_copied {token : Token} (h : ¬rules.Calls token) :
    rules.topTags (token :: rest) = rules.topTags rest := by
  cases token with
  | data text => rw [Rules.topTags]; exact fun _ _ _ => Token.noConfusion
  | newline => rw [Rules.topTags]; exact fun _ _ _ => Token.noConfusion
  | opening name attributes raw =>
    have hunruled : Dict.get? name rules = none := Rules.get?_of_not_knows h
    rw [Rules.topTags]
    simp only [hunruled]
  | closing name raw => rw [Rules.topTags]; exact fun _ _ _ => Token.noConfusion

theorem topTags_called {name raw : Text} {attributes : Attributes} {rule : Rule}
    (hrule : Dict.get? name rules = some rule) :
    rules.topTags (.opening name attributes raw :: rest) =
      (if rule.options.standalone then [] else [⟨name, rule.options, rest⟩])
        ++ rules.topTags (rule.options.following name rest) := by
  rw [Rules.topTags]
  simp only [hrule]

end TopTags

/-! ## 4. What stands behind -/

section Behind

variable {rules : Rules} {context : Context} {parent : Option ParentTag}

/-- The formatter of an ended tag gets the same value whatever stands behind. -/
theorem formatValue_append {name : Text} {options : TagOptions} {rest : List Token}
    (h : options.standalone = false → OpenedTag.Ended ⟨name, options, rest⟩) (behind : List Token) :
    formatValue rules context name options (rest ++ behind) =
      formatValue rules context name options rest := by
  cases halone : options.standalone with
  | true =>
    have hbody : options.formatsBody = false := by rw [TagOptions.formatsBody, halone]; rfl
    simp only [formatValue, hbody, Bool.false_eq_true, TagOptions.rawValue, halone, ↓reduceIte]
  | false =>
    have hbody := (h halone).bodyTokens_append behind
    simp only [formatValue, TagOptions.rawValue, halone, Bool.false_eq_true, ↓reduceIte, hbody]

theorem following_append {name : Text} {options : TagOptions} {rest behind : List Token}
    (h : options.standalone = false → OpenedTag.Ended ⟨name, options, rest⟩)
    (hswallow : options.standalone = false → OpenedTag.SwallowsNext ⟨name, options, rest⟩ →
      behind.head? ≠ some .newline) :
    options.following name (rest ++ behind) = options.following name rest ++ behind := by
  cases halone : options.standalone with
  | true =>
    rw [TagOptions.following_of_standalone halone, TagOptions.following_of_standalone halone]
  | false =>
    rw [TagOptions.following_of_body halone, TagOptions.following_of_body halone]
    exact (h halone).tokensBehind_append (hswallow halone)

/-- **Finished tokens are formatted first, and then what stands behind them**, in one run. -/
theorem formatTokens_append {first second : List Token} (hfinished : rules.Finishes first)
    (hswallow : rules.SwallowsNext first → second.head? ≠ some .newline) :
    formatTokens rules context parent (first ++ second) = do
      let front ← formatTokens rules context parent first
      let behind ← formatTokens rules context parent second
      return front ++ behind := by
  induction first using callInduction rules with
  | nil => simp
  | copied token rest htoken ih =>
    rw [Rules.Finishes, topTags_copied htoken] at hfinished
    rw [Rules.SwallowsNext, topTags_copied htoken] at hswallow
    rw [List.cons_append, formatTokens_copied htoken, formatTokens_copied htoken,
      ih hfinished hswallow]
    simp only [map_eq_pure_bind, bind_assoc, pure_bind, List.append_assoc]
  | called name attributes raw rest rule hrule _ ih =>
    rw [Rules.Finishes, topTags_called hrule] at hfinished
    rw [Rules.SwallowsNext, topTags_called hrule] at hswallow
    have hhere : rule.options.standalone = false →
        ⟨name, rule.options, rest⟩ ∈ (if rule.options.standalone then []
          else [⟨name, rule.options, rest⟩] : List OpenedTag) := by
      intro halone
      rw [halone, if_neg Bool.false_ne_true]
      exact List.mem_singleton_self _
    have hended : rule.options.standalone = false → OpenedTag.Ended ⟨name, rule.options, rest⟩ :=
      fun halone => hfinished _ (List.mem_append_left _ (hhere halone))
    have hnext : rule.options.standalone = false →
        OpenedTag.SwallowsNext ⟨name, rule.options, rest⟩ → second.head? ≠ some .newline :=
      fun halone h => hswallow ⟨_, List.mem_append_left _ (hhere halone), h⟩
    have hlater := ih (fun tag htag => hfinished tag (List.mem_append_right _ htag))
      fun ⟨tag, htag, h⟩ => hswallow ⟨tag, List.mem_append_right _ htag, h⟩
    rw [List.cons_append, formatTokens_called hrule, formatTokens_called hrule,
      formatValue_append hended, following_append hended hnext, hlater]
    simp only [bind_assoc, pure_bind, List.append_assoc]

end Behind

/-- One outcome and then another one: a failure is the end, else the texts and the calls are put
together in order. -/
def Formatted.andThen (first second : Formatted) : Formatted :=
  match first.result with
  | .error failure => ⟨.error failure, first.calls⟩
  | .ok front => ⟨second.result.map (front ++ ·), first.calls ++ second.calls⟩

/-- **What stands behind finished tokens does not reach into them.** If every tag that is opened at
the top of some tokens is ended by one of them, and no such tag takes a newline right behind them,
then these tokens have the outcome that they have alone, and the others the one that they have after
the calls of the first. -/
theorem outcome_append_of_finished (rules : Rules) (context : Context) (parent : Option ParentTag)
    (first second : List Token) (history : List Call) (hfinished : rules.Finishes first)
    (hswallow : ¬(rules.SwallowsNext first ∧ second.head? = some .newline)) :
    let front := (formatTokens rules context parent first).outcome history
    let behind := (formatTokens rules context parent second).outcome (history ++ front.calls)
    (formatTokens rules context parent (first ++ second)).outcome history =
      front.andThen behind := by
  intro front behind
  have happend := @formatTokens_append rules context parent first second hfinished
    fun hnext hnewline => hswallow ⟨hnext, hnewline⟩
  obtain ⟨result, calls, hrun, -⟩ := formatTokens_follows rules context parent first history
  have hfront : front = ⟨result, calls⟩ := Formatting.outcome_of_run hrun
  cases result with
  | error failure =>
    rw [happend, Formatting.outcome_of_run (Formatting.run_bind_error hrun _), hfront]
    rfl
  | ok text =>
    obtain ⟨later, others, hlater, -⟩ :=
      formatTokens_follows rules context parent second (history ++ calls)
    have hbehind : behind = ⟨later, others⟩ := by
      rw [← Formatting.outcome_of_run hlater]
      change Formatting.outcome _ (history ++ front.calls) = _
      rw [hfront]
    have hboth : (formatTokens rules context parent (first ++ second)).run.run history =
        (later.map (text ++ ·), history ++ (calls ++ others)) := by
      rw [happend, Formatting.run_bind_ok hrun, ← map_eq_pure_bind, Formatting.run_map hlater,
        List.append_assoc]
    rw [Formatting.outcome_of_run hboth, hfront, hbehind]
    rfl

/-- A line and a quotation whose bold text is not closed, with the newline that it takes; behind
them a newline that stays, a closing tag that closes nothing, and bold text that is not closed. -/
theorem outcome_brokenQuote :
    let first := tokenize quoteRules.knows "[hr][q] a[/b][b]x[/q]\n".toList
    let second := tokenize quoteRules.knows "\n[/q][b]y".toList
    quoteRules.Finishes first ∧
      ¬(quoteRules.SwallowsNext first ∧ second.head? = some .newline) ∧
      ((formatTokens quoteRules [] none (first ++ second)).outcome []).result =
        .ok "<hr><q>a<b>x</b></q>\n<b>y</b>".toList := by
  intro first second
  have hfinished : quoteRules.Finishes first := by decide +kernel
  have hswallow : ¬(quoteRules.SwallowsNext first ∧ second.head? = some .newline) := by
    decide +kernel
  refine ⟨hfinished, hswallow, ?_⟩
  rw [outcome_append_of_finished quoteRules [] none first second [] hfinished hswallow]
  decide +kernel

end Dispatch.Markup
