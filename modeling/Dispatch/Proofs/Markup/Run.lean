import Dispatch.Proofs.Markup.Formatting

/-!
# Runs of formatting

What a parser does with its tokens, as a relation between the calls made before, the outcome and the
calls that are added (`Formats`). Every run of `formatTokens` is of this kind
(`formatTokens_follows`), so what holds along the rules of the relation holds of every run; and the
relation allows no other run (`Formats.run_eq`). First of all: a run fails only if a formatter does
(`Formats.error_mem_replies`).
-/

namespace Dispatch.Markup

/-! ## 1. Replies -/

/-- The reply to a call, after some earlier calls. -/
def Rules.reply (rules : Rules) (earlier : List Call) (call : Call) : Except FormatError Text :=
  match Dict.get? call.tag rules with
  | some rule => rule.formatter.answer (earlier.filter fun other => other.tag = call.tag) call
  | none => .ok []

/-- The replies to a row of calls, after some earlier calls. -/
def Rules.replies (rules : Rules) : (earlier calls : List Call) → List (Except FormatError Text)
  | _, [] => []
  | earlier, call :: calls => rules.reply earlier call :: rules.replies (earlier ++ [call]) calls

theorem Rules.replies_append (rules : Rules) (earlier first second : List Call) :
    rules.replies earlier (first ++ second) =
      rules.replies earlier first ++ rules.replies (earlier ++ first) second := by
  induction first generalizing earlier with
  | nil => simp [Rules.replies]
  | cons call first ih => simp [Rules.replies, ih]

/-- The replies to some calls that a parser makes. -/
def TagParser.replies (parser : TagParser) (calls : List Call) : List (Except FormatError Text) :=
  parser.rules.replies parser.history calls

/-! ## 2. Runs of programs -/

namespace Formatting

variable {α β : Type} {action : Formatting α} {made after : List Call}

theorem run_bind_ok {a : α} (h : action.run.run made = (.ok a, after)) (next : α → Formatting β) :
    (action >>= next).run.run made = (next a).run.run after := by
  rw [ExceptT.run_bind, StateT.run_bind, h]
  rfl

theorem run_bind_error {failure : FormatError} (h : action.run.run made = (.error failure, after))
    (next : α → Formatting β) : (action >>= next).run.run made = (.error failure, after) := by
  rw [ExceptT.run_bind, StateT.run_bind, h]
  rfl

theorem run_get (made : List Call) :
    (get : Formatting (List Call)).run.run made = (.ok made, made) := rfl

theorem run_set (made after : List Call) :
    (set after : Formatting PUnit).run.run made = (.ok ⟨⟩, after) := rfl

theorem run_map {outcome : Except FormatError α} (h : action.run.run made = (outcome, after))
    (f : α → β) : (f <$> action).run.run made = (outcome.map f, after) := by
  rw [map_eq_pure_bind]
  cases outcome with
  | error failure => exact run_bind_error h _
  | ok a => exact run_bind_ok h _

/-- After any calls, the program adds some calls, and what it returns is related to the calls
before it and the calls that it added. -/
def Yields (action : Formatting α) (post : List Call → α → List Call → Prop) : Prop :=
  ∀ made, ∃ outcome calls, action.run.run made = (outcome, made ++ calls) ∧
    ∀ a, outcome = .ok a → post made a calls

theorem yields_pure {a : α} {post : List Call → α → List Call → Prop} (h : ∀ made, post made a []) :
    (pure a : Formatting α).Yields post := by
  refine fun made => ⟨.ok a, [], ?_, fun b hb => ?_⟩
  · rw [List.append_nil]
    rfl
  · obtain rfl := Except.ok.inj hb
    exact h made

theorem Yields.bind {first : List Call → α → List Call → Prop}
    {second : α → List Call → β → List Call → Prop} {post : List Call → β → List Call → Prop}
    (h : action.Yields first) {next : α → Formatting β} (hnext : ∀ a, (next a).Yields (second a))
    (hpost : ∀ {made a calls b others}, first made a calls → second a (made ++ calls) b others →
      post made b (calls ++ others)) : (action >>= next).Yields post := by
  intro made
  obtain ⟨outcome, calls, hrun, hfirst⟩ := h made
  cases outcome with
  | error failure =>
    exact ⟨.error failure, calls, run_bind_error hrun next, fun b hb => by cases hb⟩
  | ok a =>
    obtain ⟨outcome, others, hrest, hsecond⟩ := hnext a (made ++ calls)
    refine ⟨outcome, calls ++ others, ?_, fun b hb => hpost (hfirst a rfl) (hsecond b hb)⟩
    rw [run_bind_ok hrun, hrest, List.append_assoc]

theorem Yields.map {first : List Call → α → List Call → Prop}
    {post : List Call → β → List Call → Prop} (h : action.Yields first) {f : α → β}
    (hpost : ∀ {made a calls}, first made a calls → post made (f a) calls) :
    (action >>= fun a => pure (f a)).Yields post := by
  intro made
  obtain ⟨outcome, calls, hrun, hfirst⟩ := h made
  refine ⟨outcome.map f, calls, by rw [← map_eq_pure_bind, run_map hrun], fun b hb => ?_⟩
  cases outcome with
  | error failure => cases hb
  | ok a =>
    obtain rfl := Except.ok.inj hb
    exact hpost (hfirst a rfl)

end Formatting

/-- **The call of a formatter** is kept, and its outcome is the reply. -/
theorem invoke_run {rules : Rules} {call : Call} {rule : Rule}
    (hrule : Dict.get? call.tag rules = some rule) (made : List Call) :
    (invoke rule.formatter call).run.run made = (rules.reply made call, made ++ [call]) := by
  rw [invoke, Formatting.run_bind_ok (Formatting.run_get made),
    Formatting.run_bind_ok (Formatting.run_set made _), Rules.reply, hrule]
  cases hanswer : rule.formatter.answer (made.filter fun other => other.tag = call.tag) call with
  | error failure =>
    simp only [hanswer]
    rfl
  | ok text =>
    simp only [hanswer]
    rfl

/-- A formatter adds its own call. -/
theorem invoke_yields {rules : Rules} {call : Call} {rule : Rule}
    (hrule : Dict.get? call.tag rules = some rule) :
    (invoke rule.formatter call).Yields fun made text calls =>
      calls = [call] ∧ rules.reply made call = .ok text :=
  fun made => ⟨_, [call], invoke_run hrule made, fun _ htext => ⟨rfl, htext⟩⟩

theorem exceptMap_eq_error {α β : Type} {outcome : Except FormatError α} {f : α → β}
    {failure : FormatError} (h : outcome.map f = .error failure) : outcome = .error failure := by
  cases outcome with
  | error other => exact congrArg Except.error (Except.error.inj h)
  | ok a => cases h

theorem exceptMap_eq_ok {α β : Type} {outcome : Except FormatError α} {f : α → β} {b : β}
    (h : outcome.map f = .ok b) : ∃ a, outcome = .ok a ∧ f a = b := by
  cases outcome with
  | error failure => cases h
  | ok a => exact ⟨a, rfl, Except.ok.inj h⟩

/-! ## 3. Formatting as a relation -/

/-- What a token adds to the text if no formatter is called for it. -/
def Token.shown : Token → Text
  | .data text => text
  | .newline => ['\n']
  | .opening _ _ raw => raw
  | .closing _ _ => []

/-- Whether the rules call a formatter for a token. -/
def Rules.Calls (rules : Rules) : Token → Prop
  | .opening name _ _ => rules.knows name = true
  | _ => False

namespace TagOptions

/-- Whether the tags in the body are formatted before the tag. -/
def formatsBody (options : TagOptions) : Bool := !options.standalone && options.renderEmbedded

/-- The body as the formatter gets it. -/
def stripped (options : TagOptions) (inner : Text) : Text :=
  if options.strip then Text.trim inner else inner

/-- The value of a tag of this name whose body is not formatted, given the tokens behind it. -/
def rawValue (options : TagOptions) (name : Text) (rest : List Token) : Text :=
  if options.standalone then []
  else options.stripped (Token.rawText (bodyTokens name options rest))

/-- What follows a tag of this name, given the tokens behind it. -/
def following (options : TagOptions) (name : Text) (rest : List Token) : List Token :=
  if options.standalone then rest else tokensBehind name options rest

theorem following_of_standalone {options : TagOptions} (h : options.standalone = true)
    (name : Text) (rest : List Token) : options.following name rest = rest :=
  if_pos h

theorem following_of_body {options : TagOptions} (h : options.standalone = false) (name : Text)
    (rest : List Token) : options.following name rest = tokensBehind name options rest := by
  rw [following, h, if_neg Bool.false_ne_true]

theorem following_subset (options : TagOptions) (name : Text) (rest : List Token) :
    options.following name rest ⊆ rest := by
  rw [following]
  split
  · exact List.Subset.refl rest
  · exact tokensBehind_subset name options rest

theorem standalone_of_formatsBody {options : TagOptions} (h : options.formatsBody = true) :
    options.standalone = false ∧ options.renderEmbedded = true := by
  simpa [formatsBody] using h

end TagOptions

/-- `Formats rules context parent made tokens outcome calls`: after the calls `made`, formatting the
tokens has the outcome and makes the calls. -/
inductive Formats (rules : Rules) (context : Context) : Option ParentTag → List Call →
    List Token → Except FormatError Text → List Call → Prop
  | nil {parent made} : Formats rules context parent made [] (.ok []) []
  /-- A token for which no formatter is called. -/
  | copied {parent made token rest outcome calls} (htoken : ¬rules.Calls token)
      (behind : Formats rules context parent made rest outcome calls) :
      Formats rules context parent made (token :: rest) (outcome.map (token.shown ++ ·)) calls
  /-- A failure inside a body. -/
  | bodyFails {parent made name attributes raw rest rule failure calls}
      (hrule : Dict.get? name rules = some rule) (hbody : rule.options.formatsBody = true)
      (body : Formats rules context (some ⟨name, rule.options⟩) made
        (bodyTokens name rule.options rest) (.error failure) calls) :
      Formats rules context parent made (.opening name attributes raw :: rest) (.error failure)
        calls
  /-- A formatter fails on a body that was formatted. -/
  | fails {parent made name attributes raw rest rule inner inside failure}
      (hrule : Dict.get? name rules = some rule) (hbody : rule.options.formatsBody = true)
      (body : Formats rules context (some ⟨name, rule.options⟩) made
        (bodyTokens name rule.options rest) (.ok inner) inside)
      (hreply : rules.reply (made ++ inside)
        ⟨name, rule.options.stripped inner, attributes, parent, context⟩ = .error failure) :
      Formats rules context parent made (.opening name attributes raw :: rest) (.error failure)
        (inside ++ [⟨name, rule.options.stripped inner, attributes, parent, context⟩])
  /-- A formatter is called for a body that was formatted. -/
  | replies {parent made name attributes raw rest rule inner inside text outcome calls}
      (hrule : Dict.get? name rules = some rule) (hbody : rule.options.formatsBody = true)
      (body : Formats rules context (some ⟨name, rule.options⟩) made
        (bodyTokens name rule.options rest) (.ok inner) inside)
      (hreply : rules.reply (made ++ inside)
        ⟨name, rule.options.stripped inner, attributes, parent, context⟩ = .ok text)
      (behind : Formats rules context parent
        (made ++ inside ++ [⟨name, rule.options.stripped inner, attributes, parent, context⟩])
        (rule.options.following name rest) outcome calls) :
      Formats rules context parent made (.opening name attributes raw :: rest)
        (outcome.map (text ++ ·))
        (inside ++ ⟨name, rule.options.stripped inner, attributes, parent, context⟩ :: calls)
  /-- A formatter fails on a tag without a body or on a raw body. -/
  | rawFails {parent made name attributes raw rest rule failure}
      (hrule : Dict.get? name rules = some rule) (hbody : rule.options.formatsBody = false)
      (hreply : rules.reply made
        ⟨name, rule.options.rawValue name rest, attributes, parent, context⟩ = .error failure) :
      Formats rules context parent made (.opening name attributes raw :: rest) (.error failure)
        [⟨name, rule.options.rawValue name rest, attributes, parent, context⟩]
  /-- A formatter is called for a tag without a body or for a raw body. -/
  | rawReplies {parent made name attributes raw rest rule text outcome calls}
      (hrule : Dict.get? name rules = some rule) (hbody : rule.options.formatsBody = false)
      (hreply : rules.reply made
        ⟨name, rule.options.rawValue name rest, attributes, parent, context⟩ = .ok text)
      (behind : Formats rules context parent
        (made ++ [⟨name, rule.options.rawValue name rest, attributes, parent, context⟩])
        (rule.options.following name rest) outcome calls) :
      Formats rules context parent made (.opening name attributes raw :: rest)
        (outcome.map (text ++ ·))
        (⟨name, rule.options.rawValue name rest, attributes, parent, context⟩ :: calls)

namespace Formats

variable {rules : Rules} {context : Context} {parent : Option ParentTag} {made : List Call}
  {rest : List Token} {outcome : Except FormatError Text} {calls : List Call}

theorem nil_inv (h : Formats rules context parent made [] outcome calls) : outcome = .ok [] := by
  cases h with
  | nil => rfl

/-- A token for which no formatter is called is copied. -/
theorem copied_inv {token : Token}
    (h : Formats rules context parent made (token :: rest) outcome calls)
    (htoken : ¬rules.Calls token) :
    ∃ inner, outcome = inner.map (token.shown ++ ·) ∧
      Formats rules context parent made rest inner calls := by
  cases h with
  | copied _ behind => exact ⟨_, rfl, behind⟩
  | bodyFails hrule => exact absurd (Rules.knows_of_get? hrule) htoken
  | fails hrule => exact absurd (Rules.knows_of_get? hrule) htoken
  | replies hrule => exact absurd (Rules.knows_of_get? hrule) htoken
  | rawFails hrule => exact absurd (Rules.knows_of_get? hrule) htoken
  | rawReplies hrule => exact absurd (Rules.knows_of_get? hrule) htoken

/-- Plain text is copied. -/
theorem plain_inv {text : Text}
    (h : Formats rules context parent made (text.map Token.ofChar ++ rest) outcome calls) :
    ∃ inner, outcome = inner.map (text ++ ·) ∧
      Formats rules context parent made rest inner calls := by
  induction text generalizing outcome with
  | nil => exact ⟨outcome, by cases outcome <;> rfl, h⟩
  | cons c text ih =>
    have hshown : (Token.ofChar c).shown = [c] ∧ ¬rules.Calls (Token.ofChar c) := by
      unfold Token.ofChar
      split
      · next hc => exact ⟨by rw [hc]; rfl, id⟩
      · exact ⟨rfl, id⟩
    obtain ⟨behind, rfl, hbehind⟩ := h.copied_inv hshown.2
    obtain ⟨inner, rfl, hinner⟩ := ih hbehind
    refine ⟨inner, ?_, hinner⟩
    rw [hshown.1]
    cases inner <;> rfl

/-- A run that succeeds goes on behind a tag that there is a rule for, with the reply of its
formatter in front. -/
theorem opening_inv {name raw : Text} {attributes : Attributes} {out : Text}
    (h : Formats rules context parent made (.opening name attributes raw :: rest) (.ok out) calls)
    (hknown : rules.knows name = true) :
    ∃ rule text behind earlier later, Dict.get? name rules = some rule ∧
      .ok text ∈ rules.replies made calls ∧ out = text ++ behind ∧
      Formats rules context parent earlier (rule.options.following name rest) (.ok behind) later ∧
      rules.replies earlier later ⊆ rules.replies made calls := by
  generalize houtcome : Except.ok out = outcome at h
  cases h with
  | copied htoken _ => exact absurd hknown htoken
  | bodyFails => cases houtcome
  | fails => cases houtcome
  | replies hrule _ _ hreply behind =>
    obtain ⟨later, rfl, rfl⟩ := exceptMap_eq_ok houtcome.symm
    refine ⟨_, _, _, _, _, hrule, ?_, rfl, behind, fun reply hmem => ?_⟩
    · rw [Rules.replies_append, Rules.replies, hreply]
      exact List.mem_append_right _ List.mem_cons_self
    · rw [Rules.replies_append, Rules.replies]
      exact List.mem_append_right _ (List.mem_cons_of_mem _ hmem)
  | rawFails => cases houtcome
  | rawReplies hrule _ hreply behind =>
    obtain ⟨later, rfl, rfl⟩ := exceptMap_eq_ok houtcome.symm
    refine ⟨_, _, _, _, _, hrule, ?_, rfl, behind, fun reply hmem => ?_⟩
    · rw [Rules.replies, hreply]
      exact List.mem_cons_self
    · rw [Rules.replies]
      exact List.mem_cons_of_mem _ hmem

/-- A call is made for an opening tag. -/
theorem opening_mem {tokens : List Token}
    (h : Formats rules context parent made tokens outcome calls) {call : Call}
    (hcall : call ∈ calls) : ∃ raw, .opening call.tag call.attributes raw ∈ tokens := by
  have inside {name raw rest} {attributes : Attributes} {options : TagOptions} :
      (∃ raw, .opening call.tag call.attributes raw ∈ bodyTokens name options rest) →
      ∃ other, .opening call.tag call.attributes other ∈ Token.opening name attributes raw :: rest :=
    fun ⟨other, hmem⟩ => ⟨other, List.mem_cons_of_mem _ (bodyTokens_subset _ _ _ hmem)⟩
  have behind {name raw rest} {attributes : Attributes} {options : TagOptions} :
      (∃ raw, .opening call.tag call.attributes raw ∈ options.following name rest) →
      ∃ other, .opening call.tag call.attributes other ∈ Token.opening name attributes raw :: rest :=
    fun ⟨other, hmem⟩ => ⟨other, List.mem_cons_of_mem _ (options.following_subset name rest hmem)⟩
  induction h with
  | nil => exact absurd hcall List.not_mem_nil
  | copied _ _ ih =>
    obtain ⟨raw, hmem⟩ := ih hcall
    exact ⟨raw, List.mem_cons_of_mem _ hmem⟩
  | bodyFails _ _ _ ih => exact inside (ih hcall)
  | fails _ _ _ _ ih =>
    rcases List.mem_append.mp hcall with hcall | hcall
    · exact inside (ih hcall)
    · rw [List.mem_singleton.mp hcall]
      exact ⟨_, List.mem_cons_self⟩
  | replies _ _ _ _ _ ihbody ihbehind =>
    rcases List.mem_append.mp hcall with hcall | hcall
    · exact inside (ihbody hcall)
    · rcases List.mem_cons.mp hcall with rfl | hcall
      · exact ⟨_, List.mem_cons_self⟩
      · exact behind (ihbehind hcall)
  | rawFails =>
    rw [List.mem_singleton.mp hcall]
    exact ⟨_, List.mem_cons_self⟩
  | rawReplies _ _ _ _ ih =>
    rcases List.mem_cons.mp hcall with rfl | hcall
    · exact ⟨_, List.mem_cons_self⟩
    · exact behind (ih hcall)

/-- Without an opening tag of a name no call is made for it. -/
theorem filter_eq_nil {tokens : List Token} {name : Text}
    (h : Formats rules context parent made tokens outcome calls)
    (hnone : ∀ attributes raw, .opening name attributes raw ∉ tokens) :
    calls.filter (fun call => call.tag = name) = [] := by
  refine List.filter_eq_nil_iff.mpr fun call hcall hname => ?_
  obtain ⟨raw, hmem⟩ := h.opening_mem hcall
  rw [of_decide_eq_true hname] at hmem
  exact hnone call.attributes raw hmem

/-- A run that succeeds makes the calls for the body of a tag, the call for the tag, and the calls
for what follows. -/
theorem calls_inv {name raw : Text} {attributes : Attributes} {out : Text} {rule : Rule}
    (h : Formats rules context parent made (.opening name attributes raw :: rest) (.ok out) calls)
    (hrule : Dict.get? name rules = some rule) :
    ∃ inside value earlier behind later,
      calls = inside ++ ⟨name, value, attributes, parent, context⟩ :: later ∧
      (∀ other, (∀ attributes raw,
          .opening other attributes raw ∉ bodyTokens name rule.options rest) →
        inside.filter (fun call => call.tag = other) = []) ∧
      Formats rules context parent earlier (rule.options.following name rest) (.ok behind)
        later := by
  generalize houtcome : Except.ok out = outcome at h
  cases h with
  | copied htoken _ => exact absurd (Rules.knows_of_get? hrule) htoken
  | bodyFails => cases houtcome
  | fails => cases houtcome
  | replies hfound _ body _ behind =>
    obtain rfl := Option.some.inj (hfound.symm.trans hrule)
    obtain ⟨later, rfl, -⟩ := exceptMap_eq_ok houtcome.symm
    exact ⟨_, _, _, later, _, rfl, fun _ hnone => body.filter_eq_nil hnone, behind⟩
  | rawFails => cases houtcome
  | rawReplies hfound _ _ behind =>
    obtain rfl := Option.some.inj (hfound.symm.trans hrule)
    obtain ⟨later, rfl, -⟩ := exceptMap_eq_ok houtcome.symm
    exact ⟨[], _, _, later, _, rfl, fun _ _ => rfl, behind⟩

/-- A run that succeeds makes one call for a tag of a name that no later tag opens. -/
theorem call_once {name raw : Text} {attributes : Attributes} {out : Text}
    (h : Formats rules context parent made (.opening name attributes raw :: rest) (.ok out) calls)
    (hknown : rules.knows name = true)
    (hrest : ∀ attributes raw, .opening name attributes raw ∉ rest) :
    ∃ value, calls.filter (fun call => call.tag = name) =
      [⟨name, value, attributes, parent, context⟩] := by
  obtain ⟨rule, hrule⟩ := Option.isSome_iff_exists.mp hknown
  obtain ⟨inside, value, _, _, later, rfl, hinside, hlater⟩ := h.calls_inv hrule
  have hbody : inside.filter (fun call => call.tag = name) = [] :=
    hinside name fun attributes raw hmem => hrest attributes raw (bodyTokens_subset _ _ _ hmem)
  have hbehind : later.filter (fun call => call.tag = name) = [] :=
    hlater.filter_eq_nil fun attributes raw hmem =>
      hrest attributes raw (rule.options.following_subset name rest hmem)
  refine ⟨value, ?_⟩
  rw [List.filter_append, hbody, List.nil_append, List.filter_cons,
    if_pos (decide_eq_true rfl), hbehind]

end Formats

/-! ## 4. One step of a run -/

section Steps

variable {rules : Rules} {context : Context} {parent : Option ParentTag} {made : List Call}

theorem formatTokens_copied {token : Token} {rest : List Token} (htoken : ¬rules.Calls token) :
    formatTokens rules context parent (token :: rest) =
      (token.shown ++ ·) <$> formatTokens rules context parent rest := by
  cases token with
  | data text => exact formatTokens_data text rest
  | newline => exact formatTokens_newline rest
  | opening name attributes raw =>
    exact formatTokens_unruled attributes raw rest (Rules.get?_of_not_knows htoken)
  | closing name raw => exact (formatTokens_closing name raw rest).trans (id_map _).symm

section Opening

variable {name raw : Text} {attributes : Attributes} {rest : List Token} {rule : Rule}

theorem formatTokens_embedded (hrule : Dict.get? name rules = some rule)
    (hbody : rule.options.formatsBody = true) :
    formatTokens rules context parent (.opening name attributes raw :: rest) = do
      let inner ← formatTokens rules context (some ⟨name, rule.options⟩)
        (bodyTokens name rule.options rest)
      let text ← invoke rule.formatter
        ⟨name, rule.options.stripped inner, attributes, parent, context⟩
      let behind ← formatTokens rules context parent (rule.options.following name rest)
      return text ++ behind := by
  obtain ⟨halone, hembedded⟩ := TagOptions.standalone_of_formatsBody hbody
  rw [formatTokens_element _ _ _ hrule halone, if_pos hembedded,
    TagOptions.following_of_body halone]
  rfl

theorem formatTokens_raw (hrule : Dict.get? name rules = some rule)
    (hbody : rule.options.formatsBody = false) :
    formatTokens rules context parent (.opening name attributes raw :: rest) = do
      let text ← invoke rule.formatter
        ⟨name, rule.options.rawValue name rest, attributes, parent, context⟩
      let behind ← formatTokens rules context parent (rule.options.following name rest)
      return text ++ behind := by
  by_cases halone : rule.options.standalone = true
  · rw [formatTokens_standalone _ _ _ hrule halone, TagOptions.following_of_standalone halone,
      TagOptions.rawValue, if_pos halone]
  · have hoff : rule.options.standalone = false := Bool.eq_false_iff.mpr halone
    have hraw : rule.options.renderEmbedded = false := by
      rw [TagOptions.formatsBody, hoff] at hbody
      exact hbody
    rw [formatTokens_element _ _ _ hrule hoff, hraw, if_neg Bool.false_ne_true,
      TagOptions.following_of_body hoff, TagOptions.rawValue, if_neg halone, pure_bind]
    rfl

/-- The part of a run from a call on: the formatter fails. -/
theorem run_call_error {call : Call} {rest : List Token} {failure : FormatError}
    (hrule : Dict.get? call.tag rules = some rule)
    (hreply : rules.reply made call = .error failure) :
    (do let text ← invoke rule.formatter call
        let behind ← formatTokens rules context parent rest
        return text ++ behind : Formatting Text).run.run made = (.error failure, made ++ [call]) := by
  have hinvoke := invoke_run hrule made
  rw [hreply] at hinvoke
  exact Formatting.run_bind_error hinvoke _

/-- The part of a run from a call on: the formatter replies, and the rest is formatted. -/
theorem run_call_ok {call : Call} {rest : List Token} {text : Text}
    {outcome : Except FormatError Text} {calls : List Call}
    (hrule : Dict.get? call.tag rules = some rule) (hreply : rules.reply made call = .ok text)
    (hbehind : (formatTokens rules context parent rest).run.run (made ++ [call]) =
      (outcome, made ++ [call] ++ calls)) :
    (do let text ← invoke rule.formatter call
        let behind ← formatTokens rules context parent rest
        return text ++ behind : Formatting Text).run.run made =
      (outcome.map (text ++ ·), made ++ call :: calls) := by
  have hinvoke := invoke_run hrule made
  rw [hreply] at hinvoke
  rw [Formatting.run_bind_ok hinvoke, ← map_eq_pure_bind, Formatting.run_map hbehind,
    List.append_assoc]
  rfl

end Opening

end Steps

/-! ## 5. Runs -/

section Runs

variable {rules : Rules} {context : Context} {parent : Option ParentTag}

/-- Every run of formatting these tokens follows the relation. -/
def Follows (rules : Rules) (context : Context) (parent : Option ParentTag) (tokens : List Token) :
    Prop :=
  ∀ made, ∃ outcome calls,
    (formatTokens rules context parent tokens).run.run made = (outcome, made ++ calls) ∧
      Formats rules context parent made tokens outcome calls

theorem follows_copied {token : Token} {rest : List Token} (htoken : ¬rules.Calls token)
    (h : Follows rules context parent rest) : Follows rules context parent (token :: rest) := by
  intro made
  obtain ⟨outcome, calls, hrun, hformats⟩ := h made
  rw [formatTokens_copied htoken]
  exact ⟨_, calls, Formatting.run_map hrun _, .copied htoken hformats⟩

/-- The part of a run from the call of a formatter on: the formatter fails, or it replies and the
rest is formatted. -/
theorem run_call {rule : Rule} {rest : List Token} (call : Call)
    (hrule : Dict.get? call.tag rules = some rule) (h : Follows rules context parent rest)
    (earlier : List Call) :
    let program : Formatting Text := do
      let text ← invoke rule.formatter call
      let behind ← formatTokens rules context parent rest
      return text ++ behind
    (∃ failure, rules.reply earlier call = .error failure ∧
        program.run.run earlier = (.error failure, earlier ++ [call])) ∨
      ∃ text outcome calls, rules.reply earlier call = .ok text ∧
        Formats rules context parent (earlier ++ [call]) rest outcome calls ∧
        program.run.run earlier = (outcome.map (text ++ ·), earlier ++ call :: calls) := by
  cases hreply : rules.reply earlier call with
  | error failure => exact Or.inl ⟨failure, rfl, run_call_error hrule hreply⟩
  | ok text =>
    obtain ⟨outcome, calls, hrun, hformats⟩ := h (earlier ++ [call])
    exact Or.inr ⟨text, outcome, calls, rfl, hformats, run_call_ok hrule hreply hrun⟩

theorem follows_raw {name : Text} {rule : Rule} {attributes : Attributes} {raw : Text}
    {rest : List Token} (hrule : Dict.get? name rules = some rule)
    (hbody : rule.options.formatsBody = false)
    (h : Follows rules context parent (rule.options.following name rest)) :
    Follows rules context parent (.opening name attributes raw :: rest) := by
  intro made
  rw [formatTokens_raw hrule hbody]
  rcases run_call ⟨name, rule.options.rawValue name rest, attributes, parent, context⟩ hrule h made
    with ⟨failure, hreply, hrun⟩ | ⟨text, outcome, calls, hreply, hformats, hrun⟩
  · exact ⟨_, _, hrun, .rawFails hrule hbody hreply⟩
  · exact ⟨_, _, hrun, .rawReplies hrule hbody hreply hformats⟩

theorem follows_embedded {name : Text} {rule : Rule} {attributes : Attributes} {raw : Text}
    {rest : List Token} (hrule : Dict.get? name rules = some rule)
    (hbody : rule.options.formatsBody = true)
    (hinside : Follows rules context (some ⟨name, rule.options⟩)
      (bodyTokens name rule.options rest))
    (h : Follows rules context parent (rule.options.following name rest)) :
    Follows rules context parent (.opening name attributes raw :: rest) := by
  intro made
  rw [formatTokens_embedded hrule hbody]
  obtain ⟨outcome, inside, hrun, hformats⟩ := hinside made
  cases outcome with
  | error failure =>
    exact ⟨_, inside, Formatting.run_bind_error hrun _, .bodyFails hrule hbody hformats⟩
  | ok inner =>
    rw [Formatting.run_bind_ok hrun]
    have hcall := run_call ⟨name, rule.options.stripped inner, attributes, parent, context⟩ hrule h
      (made ++ inside)
    rcases hcall with ⟨failure, hreply, hrun⟩ | ⟨text, outcome, calls, hreply, hbehind, hrun⟩
    · refine ⟨_, _, ?_, .fails hrule hbody hformats hreply⟩
      rw [← List.append_assoc]
      exact hrun
    · refine ⟨_, _, ?_, .replies hrule hbody hformats hreply hbehind⟩
      rw [← List.append_assoc]
      exact hrun

/-- **Every run of `formatTokens` follows the relation.** -/
theorem formatTokens_follows (rules : Rules) (context : Context) (parent : Option ParentTag)
    (tokens : List Token) : Follows rules context parent tokens := by
  induction parent, tokens using formatTokens.induct rules context with
  | case1 parent => exact fun made => ⟨.ok [], [], by simp; rfl, .nil⟩
  | case2 parent text rest ih => exact follows_copied id ih
  | case3 parent rest ih => exact follows_copied id ih
  | case4 parent name raw rest ih => exact follows_copied id ih
  | case5 parent name attributes raw rest hrule ih =>
    refine follows_copied (fun hcalls => ?_) ih
    exact Bool.false_ne_true ((Rules.not_knows_of_get? hrule).symm.trans hcalls)
  | case6 parent name attributes raw rest rule hrule halone ih =>
    have hfollowing := TagOptions.following_of_standalone halone name rest
    have hbody : rule.options.formatsBody = false := by rw [TagOptions.formatsBody, halone]; rfl
    exact follows_raw hrule hbody (by rw [hfollowing]; exact ih)
  | case7 parent name attributes raw rest rule hrule halone _ _ body hembedded ihbehind ihbody =>
    have halone := Bool.eq_false_iff.mpr halone
    have hbody : rule.options.formatsBody = true := by
      rw [TagOptions.formatsBody, halone, hembedded]; rfl
    have hfollowing := TagOptions.following_of_body halone name rest
    exact follows_embedded hrule hbody ihbody (by rw [hfollowing]; exact ihbehind)
  | case8 parent name attributes raw rest rule hrule halone _ _ hraw ihbehind =>
    have halone := Bool.eq_false_iff.mpr halone
    have hbody : rule.options.formatsBody = false := by
      rw [TagOptions.formatsBody, Bool.eq_false_iff.mpr hraw, Bool.and_false]
    have hfollowing := TagOptions.following_of_body halone name rest
    exact follows_raw hrule hbody (by rw [hfollowing]; exact ihbehind)

/-- An action that was run after some calls and added some. -/
theorem Formatting.outcome_of_run {action : Formatting Text} {history calls : List Call}
    {result : Except FormatError Text} (h : action.run.run history = (result, history ++ calls)) :
    action.outcome history = ⟨result, calls⟩ := by
  rw [Formatting.outcome, h]
  change Formatted.mk result ((history ++ calls).drop history.length) = _
  rw [List.drop_left]

/-- What a parser makes of a text, from the run of its tokens. -/
theorem format_of_run {parser : TagParser} {text : Text} {outcome : Except FormatError Text}
    {calls : List Call}
    (h : (formatTokens parser.rules context none (spelled parser.rules.knows text)).run.run
      parser.history = (outcome, parser.history ++ calls)) :
    parser.format text context = ⟨outcome, calls⟩ := by
  rw [format_eq, Formatting.outcome_of_run h]

/-- **What a parser makes of a text** follows the relation, on the tokens of the text spelled
out. -/
theorem format_formats (parser : TagParser) (text : Text) (context : Context) :
    Formats parser.rules context none parser.history (spelled parser.rules.knows text)
      (parser.format text context).result (parser.format text context).calls := by
  obtain ⟨outcome, calls, hrun, hformats⟩ :=
    formatTokens_follows parser.rules context none (spelled parser.rules.knows text)
      parser.history
  rw [format_of_run hrun]
  exact hformats

end Runs

/-! ## 6. Failures -/

/-- A run fails only because a formatter does. -/
theorem Formats.error_mem_replies {rules : Rules} {context : Context} {parent : Option ParentTag}
    {made : List Call} {tokens : List Token} {outcome : Except FormatError Text}
    {calls : List Call} (h : Formats rules context parent made tokens outcome calls)
    {failure : FormatError} (hfails : outcome = .error failure) :
    .error failure ∈ rules.replies made calls := by
  induction h with
  | nil => cases hfails
  | copied _ _ ih => exact ih (exceptMap_eq_error hfails)
  | bodyFails _ _ _ ih => exact ih hfails
  | fails _ _ _ hreply _ =>
    rw [Rules.replies_append, Rules.replies, hreply, hfails]
    exact List.mem_append_right _ List.mem_cons_self
  | replies _ _ _ _ _ _ ih =>
    rw [Rules.replies_append, Rules.replies]
    exact List.mem_append_right _ (List.mem_cons_of_mem _ (ih (exceptMap_eq_error hfails)))
  | rawFails _ _ hreply =>
    rw [Rules.replies, hreply, hfails]
    exact List.mem_cons_self
  | rawReplies _ _ _ _ ih =>
    rw [Rules.replies]
    exact List.mem_cons_of_mem _ (ih (exceptMap_eq_error hfails))

/-- **A parser succeeds on a text if none of its formatters fails.** -/
theorem format_ok_of_replies (parser : TagParser) (text : Text) (context : Context)
    (h : ∀ reply ∈ parser.replies (parser.format text context).calls, ∃ t, reply = .ok t) :
    ∃ out, (parser.format text context).result = .ok out := by
  cases hresult : (parser.format text context).result with
  | ok out => exact ⟨out, rfl⟩
  | error failure =>
    obtain ⟨t, ht⟩ := h _ ((format_formats parser text context).error_mem_replies hresult)
    cases ht

/-! ## 7. One outcome -/

section Outcome

variable {rules : Rules} {context : Context} {parent : Option ParentTag} {made : List Call}

/-- **The relation leaves a run no choice**: whatever outcome and calls it relates to the tokens,
`formatTokens` has that outcome and makes those calls. -/
theorem Formats.run_eq {tokens : List Token} {outcome : Except FormatError Text}
    {calls : List Call} (h : Formats rules context parent made tokens outcome calls) :
    (formatTokens rules context parent tokens).run.run made = (outcome, made ++ calls) := by
  induction h with
  | nil =>
    rw [formatTokens_nil, List.append_nil]
    rfl
  | copied htoken _ ih =>
    rw [formatTokens_copied htoken]
    exact Formatting.run_map ih _
  | bodyFails hrule hbody _ ih =>
    rw [formatTokens_embedded hrule hbody]
    exact Formatting.run_bind_error ih _
  | fails hrule hbody _ hreply ih =>
    rw [formatTokens_embedded hrule hbody, Formatting.run_bind_ok ih, run_call_error hrule hreply,
      List.append_assoc]
  | replies hrule hbody _ hreply _ ihbody ihbehind =>
    rw [formatTokens_embedded hrule hbody, Formatting.run_bind_ok ihbody,
      run_call_ok hrule hreply ihbehind, List.append_assoc]
  | rawFails hrule hbody hreply =>
    rw [formatTokens_raw hrule hbody]
    exact run_call_error hrule hreply
  | rawReplies hrule hbody hreply _ ih =>
    rw [formatTokens_raw hrule hbody]
    exact run_call_ok hrule hreply ih

/-- What the relation says of the tokens of a text is what a parser makes of the text. -/
theorem Formats.format_eq {parser : TagParser} {text : Text} {outcome : Except FormatError Text}
    {calls : List Call}
    (h : Formats parser.rules context none parser.history (spelled parser.rules.knows text) outcome
      calls) : parser.format text context = ⟨outcome, calls⟩ :=
  format_of_run h.run_eq

end Outcome

end Dispatch.Markup
