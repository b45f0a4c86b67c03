import Dispatch.Markup.Passes
import Dispatch.Proofs.Markup.Run

/-!
# Handlers without state

A handler may remember its earlier calls. If no handler does, a text is formatted the same way
whatever was formatted before it: main statements `TagParser.format_of_stateless`, on one pass, and
`Passes.format_of_stateless`, on both.
-/

namespace Dispatch.Markup

/-! ## 1. One pass -/

/-- A handler answers a call as if it had had none before; a template always does. -/
def Formatter.Stateless : Formatter → Prop
  | .template _ => True
  | .handler h => ∀ earlier call, h.reply earlier call = h.reply [] call

/-- No formatter of the rules remembers its calls. -/
def Rules.Stateless (rules : Rules) : Prop :=
  ∀ name rule, Dict.get? name rules = some rule → rule.formatter.Stateless

theorem Formatter.Stateless.answer_eq {formatter : Formatter} (h : formatter.Stateless)
    (earlier others : List Call) (call : Call) :
    formatter.answer earlier call = formatter.answer others call := by
  cases formatter with
  | template t => rfl
  | handler asked =>
    simp only [Formatter.answer]
    rw [h earlier call, h others call]

theorem Rules.Stateless.reply_eq {rules : Rules} (h : rules.Stateless)
    (earlier others : List Call) (call : Call) :
    rules.reply earlier call = rules.reply others call := by
  unfold Rules.reply
  cases hrule : Dict.get? call.tag rules with
  | none => rfl
  | some rule => exact (h _ _ hrule).answer_eq _ _ call

/-- The run of some tokens is one after any other calls, too. -/
theorem Formats.after_any {rules : Rules} (hstateless : rules.Stateless) {context : Context}
    {parent : Option ParentTag} {made : List Call} {tokens : List Token}
    {outcome : Except FormatError Text} {calls : List Call}
    (h : Formats rules context parent made tokens outcome calls) (others : List Call) :
    Formats rules context parent others tokens outcome calls := by
  induction h generalizing others with
  | nil => exact .nil
  | copied htoken _ ih => exact .copied htoken (ih others)
  | bodyFails hrule hbody _ ih => exact .bodyFails hrule hbody (ih others)
  | fails hrule hbody _ hreply ih =>
    rw [hstateless.reply_eq] at hreply
    exact .fails hrule hbody (ih others) hreply
  | replies hrule hbody _ hreply _ ihbody ihbehind =>
    rw [hstateless.reply_eq] at hreply
    exact .replies hrule hbody (ihbody others) hreply (ihbehind _)
  | rawFails hrule hbody hreply =>
    rw [hstateless.reply_eq] at hreply
    exact .rawFails hrule hbody hreply
  | rawReplies hrule hbody hreply _ ih =>
    rw [hstateless.reply_eq] at hreply
    exact .rawReplies hrule hbody hreply (ih _)

/-- **A parser formats a text as any other with its rules**, whatever calls each has had. -/
theorem TagParser.format_of_stateless {parser other : TagParser}
    (hrules : parser.rules = other.rules) (hstateless : parser.rules.Stateless) (text : Text)
    (context : Context) : parser.format text context = other.format text context := by
  have hformats := (format_formats parser text context).after_any hstateless other.history
  rw [hrules] at hformats
  exact hformats.format_eq.symm

/-! ## 2. Both passes -/

namespace Passes

/-- The rules of the passes. -/
def rules (passes : Passes) : Option Rules × Option Rules :=
  (passes.complex.map TagParser.rules, passes.simple.map TagParser.rules)

/-- No formatter of a pass remembers its calls. -/
def Stateless (passes : Passes) : Prop :=
  ∀ parser, passes.complex = some parser ∨ passes.simple = some parser → parser.rules.Stateless

theorem rules_remember (passes : Passes) (formatted : PassesFormatted) :
    (passes.remember formatted).rules = passes.rules := by
  unfold rules remember
  cases passes.complex <;> cases passes.simple <;> rfl

theorem formatPass_of_stateless {pass other : Option TagParser}
    (hrules : pass.map TagParser.rules = other.map TagParser.rules)
    (hstateless : ∀ parser, pass = some parser → parser.rules.Stateless) (text : Text)
    (context : Context) : formatPass pass text context = formatPass other text context := by
  cases pass with
  | none =>
    cases other with
    | none => rfl
    | some other => cases hrules
  | some parser =>
    cases other with
    | none => cases hrules
    | some other =>
      exact TagParser.format_of_stateless (Option.some.inj hrules) (hstateless parser rfl) text
        context

/-- **Passes format a text as any others with their rules**, whatever was formatted before. -/
theorem format_of_stateless {passes other : Passes} (hrules : passes.rules = other.rules)
    (hstateless : passes.Stateless) (text : Text) (context : Context) :
    passes.format text context = other.format text context := by
  have hcomplex := formatPass_of_stateless (congrArg Prod.fst hrules)
    fun parser h => hstateless parser (.inl h)
  have hsimple := formatPass_of_stateless (congrArg Prod.snd hrules)
    fun parser h => hstateless parser (.inr h)
  unfold format
  simp only [hcomplex, hsimple]

end Passes

end Dispatch.Markup
