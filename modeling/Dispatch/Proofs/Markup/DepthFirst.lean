import Mathlib.Control.Monad.Basic
import Dispatch.Proofs.Markup.Document

/-!
# Nested markup is formatted depth-first

A parser cuts the text of a document into tokens, looks for the end of every tag and jumps behind
it. Main statement: what comes out is the value of the document by its nesting
(`format_text_eq_value`), with the same calls of formatters in the same order, or the same first
failure.
-/

namespace Dispatch.Markup

/-- The tokens without a newline at their start, if one is swallowed. -/
def swallowTokens (swallows : Bool) (tokens : List Token) : List Token :=
  if swallows then dropNewline tokens else tokens

theorem swallowTokens_cons {token : Token} (h : token ≠ .newline) (swallows : Bool)
    (rest : List Token) : swallowTokens swallows (token :: rest) = token :: rest := by
  cases swallows with
  | false => rfl
  | true =>
    cases token with
    | newline => exact absurd rfl h
    | data text => rfl
    | opening name attributes raw => rfl
    | closing name raw => rfl

theorem swallowTokens_nil (swallows : Bool) : swallowTokens swallows [] = [] := by
  cases swallows <;> rfl

/-- A piece of text that is not empty is what a newline is swallowed from. -/
theorem swallowTokens_plain {text : Text} (h : text ≠ []) (swallows : Bool) (rest : List Token) :
    swallowTokens swallows (text.map Token.ofChar ++ rest) =
      (Document.swallowed swallows text).map Token.ofChar ++ rest := by
  cases text with
  | nil => exact absurd rfl h
  | cons c text =>
    cases swallows with
    | false => rfl
    | true =>
      by_cases hc : c = '\n'
      · subst hc
        rfl
      · have hkeep : Document.swallowed true (c :: text) = c :: text := by
          unfold Document.swallowed
          split
          · next heq => exact absurd (List.cons.inj heq).1 hc
          · rfl
        rw [hkeep, List.map_cons, List.cons_append]
        refine swallowTokens_cons ?_ true _
        rw [Token.ofChar, if_neg hc]
        exact Token.noConfusion

/-- A tag is never swallowed. -/
theorem swallowTokens_tag {raw : Text} {tag : Tag} (h : IsSpan raw) (known : Text → Bool)
    (swallows : Bool) (rest : List Token) :
    swallowTokens swallows (tag.spelled known raw ++ rest) = tag.spelled known raw ++ rest := by
  obtain ⟨inner, rfl, -⟩ := h
  rw [Tag.spelled]
  split
  · exact swallowTokens_cons (Tag.token_ne_newline _ tag) swallows rest
  · exact swallowTokens_cons Token.noConfusion swallows _

namespace Document

variable {rules : Rules} {context : Context}

/-- Whether a newline right behind the document is swallowed. -/
def swallowsBehind (rules : Rules) : Bool → Document → Bool
  | swallows, .nil => swallows
  | swallows, .leaf text rest => rest.swallowsBehind rules (swallows && text.isEmpty)
  | _, .single _ rest => rest.swallowsBehind rules false
  | _, .element tag _ _ rest =>
    rest.swallowsBehind rules ((Dict.get? tag.name rules).any (·.options.swallowTrailingNewline))

theorem rawText_tokens {doc : Document} (h : doc.Fits rules) (known : Text → Bool) :
    Token.rawText (doc.tokens known) = doc.text := by
  rw [← spelled_text known h, rawText_spelled]

/-- Formatting the tokens of a document, and some behind them, evaluates the document first. -/
def Evaluates (rules : Rules) (context : Context) (doc : Document) : Prop :=
  ∀ parent swallows behind,
    formatTokens rules context parent (swallowTokens swallows (doc.tokens rules.knows ++ behind)) =
      do
        let text ← doc.evaluate rules context parent swallows
        let others ← formatTokens rules context parent
          (swallowTokens (doc.swallowsBehind rules swallows) behind)
        return text ++ others

/-- The same where no newline is swallowed before the document. -/
theorem Evaluates.plainly {doc : Document} (h : Evaluates rules context doc)
    (parent : Option ParentTag) (behind : List Token) :
    formatTokens rules context parent (doc.tokens rules.knows ++ behind) = do
      let text ← doc.evaluate rules context parent false
      let others ← formatTokens rules context parent
        (swallowTokens (doc.swallowsBehind rules false) behind)
      return text ++ others :=
  h parent false behind

/-- The same where nothing stands behind the document. -/
theorem Evaluates.alone {doc : Document} (h : Evaluates rules context doc)
    (parent : Option ParentTag) :
    formatTokens rules context parent (doc.tokens rules.knows) =
      doc.evaluate rules context parent false := by
  have hvalue := h.plainly parent []
  rw [List.append_nil, swallowTokens_nil, formatTokens_nil] at hvalue
  simpa only [pure_bind, List.append_nil, bind_pure] using hvalue

theorem evaluates_leaf {text : Text} {rest : Document} (h : Evaluates rules context rest) :
    Evaluates rules context (.leaf text rest) := by
  intro parent swallows behind
  rw [tokens, List.append_assoc, evaluate, swallowsBehind]
  cases htext : text with
  | nil =>
    have hnone : swallowed swallows [] = [] := by cases swallows <;> rfl
    simp only [List.map_nil, List.nil_append, List.isEmpty_nil, Bool.and_true, hnone, bind_pure,
      h parent swallows behind]
  | cons c tail =>
    have hkeep : (swallows && text.isEmpty) = false := by simp [htext]
    rw [← htext, swallowTokens_plain (by simp [htext]), formatTokens_plain, hkeep, h.plainly]
    simp only [map_eq_pure_bind, bind_assoc, pure_bind, List.append_assoc]

section Tag

variable {tag : OpeningTag}

/-- Without a rule, the tags of a name are plain text. -/
theorem spelled_of_unruled (hrule : Dict.get? tag.name rules = none) {other : Tag}
    (hname : other.name = tag.name) (raw : Text) :
    other.spelled rules.knows raw = raw.map Token.ofChar := by
  rw [Tag.spelled, hname, Rules.not_knows_of_get? hrule, if_neg Bool.false_ne_true]

/-- With a rule, they are tags. -/
theorem spelled_of_ruled {rule : Rule} (hrule : Dict.get? tag.name rules = some rule) {other : Tag}
    (hname : other.name = tag.name) (raw : Text) :
    other.spelled rules.knows raw = [other.token raw] := by
  rw [Tag.spelled, hname, Rules.knows_of_get? hrule, if_pos rfl]

theorem evaluates_single {rest : Document}
    (halone : ∀ rule, Dict.get? tag.name rules = some rule → rule.options.standalone = true)
    (h : Evaluates rules context rest) : Evaluates rules context (.single tag rest) := by
  intro parent swallows behind
  rw [tokens, List.append_assoc, swallowTokens_tag tag.isSpan.1, evaluate, swallowsBehind]
  cases hrule : Dict.get? tag.name rules with
  | none =>
    rw [spelled_of_unruled hrule rfl, formatTokens_plain, h.plainly]
    simp only [map_eq_pure_bind, bind_assoc, pure_bind, List.append_assoc]
  | some rule =>
    rw [spelled_of_ruled hrule rfl, List.singleton_append, OpeningTag.tag, Tag.token,
      formatTokens_standalone _ _ _ hrule (halone rule hrule), h.plainly]
    simp only [bind_assoc, pure_bind, List.append_assoc]

variable {closing : ClosingTag tag.name} {body rest : Document}

/-- An element without a rule is its tags, as text, around its body. -/
theorem evaluates_unruled (hrule : Dict.get? tag.name rules = none)
    (hbody : Evaluates rules context body) (hrest : Evaluates rules context rest) :
    Evaluates rules context (.element tag body closing rest) := by
  intro parent swallows behind
  simp only [tokens, List.append_assoc]
  rw [swallowTokens_tag tag.isSpan.1, evaluate, swallowsBehind, hrule,
    spelled_of_unruled hrule rfl, formatTokens_plain, hbody.plainly,
    swallowTokens_tag closing.isSpan.1, spelled_of_unruled hrule rfl, formatTokens_plain,
    hrest.plainly]
  simp only [map_eq_pure_bind, bind_assoc, pure_bind, List.append_assoc, Option.any_none]

/-- An element whose tag passes its body over is formatted with that body, and what stands behind
its closing tag follows. -/
theorem evaluates_ruled {rule : Rule} (hrule : Dict.get? tag.name rules = some rule)
    (hstandalone : rule.options.standalone = false)
    (hpasses : Closing.Passes tag.name rule.options (body.tokens rules.knows))
    (hraw : Token.rawText (body.tokens rules.knows) = body.text)
    (hbody : Evaluates rules context body) (hrest : Evaluates rules context rest) :
    Evaluates rules context (.element tag body closing rest) := by
  intro parent swallows behind
  have hbehind := hrest parent rule.options.swallowTrailingNewline behind
  rw [swallowTokens] at hbehind
  simp only [tokens, List.append_assoc]
  rw [swallowTokens_tag tag.isSpan.1, evaluate, swallowsBehind, hrule,
    spelled_of_ruled hrule rfl, spelled_of_ruled hrule rfl, List.singleton_append,
    List.singleton_append, OpeningTag.tag, ClosingTag.tag, Tag.token, Tag.token,
    formatTokens_element _ _ _ hrule hstandalone, bodyTokens_balanced hpasses,
    tokensBehind_balanced hpasses, hraw, hbody.alone, hbehind]
  cases hembedded : rule.options.renderEmbedded with
  | true =>
    simp only [hembedded, ↓reduceIte, bind_assoc, pure_bind, List.append_assoc, Option.any_some]
  | false =>
    simp only [hembedded, Bool.false_eq_true, ↓reduceIte, bind_assoc, pure_bind,
      List.append_assoc, Option.any_some]

end Tag

/-- **Formatting the tokens of a document evaluates it**, by induction along the nesting. -/
theorem evaluates_of_fits {doc : Document} (h : doc.Fits rules) : Evaluates rules context doc := by
  induction doc with
  | nil => exact fun parent swallows behind => by simp [tokens, evaluate, swallowsBehind]
  | leaf text rest ih => exact evaluates_leaf (ih h.2)
  | single tag rest ih => exact evaluates_single h.1 (ih h.2)
  | element tag body closing rest ihbody ihrest =>
    obtain ⟨hrules, hbody, hrest⟩ := h
    cases hrule : Dict.get? tag.name rules with
    | none => exact evaluates_unruled hrule (ihbody hbody) (ihrest hrest)
    | some rule =>
      obtain ⟨halone, hnewline, hname⟩ := hrules rule hrule
      have hpasses := passes hrule halone hbody hnewline hname
      exact evaluates_ruled hrule halone hpasses (rawText_tokens hbody rules.knows) (ihbody hbody)
        (ihrest hrest)

/-- Formatting the text of a document evaluates the document. -/
theorem formatTokens_text {doc : Document} (h : doc.Fits rules) (parent : Option ParentTag) :
    formatTokens rules context parent (spelled rules.knows doc.text) =
      doc.evaluate rules context parent false := by
  rw [spelled_text rules.knows h]
  exact (evaluates_of_fits h).alone parent

end Document

/-- **Nested markup is formatted depth-first.** The text of a document whose nesting the rules
allow is formatted to the value of the document: children from left to right before their element,
every formatter told the body, the attributes and the parent that the nesting says, the first
failure ending it. -/
theorem format_text_eq_value (parser : TagParser) (context : Context) (doc : Document)
    (h : doc.Fits parser.rules) : parser.format doc.text context = doc.format parser context := by
  rw [format_eq, Document.formatTokens_text h]
  rfl

/-- Rules for a quotation, for bold text and for a line. -/
def quoteRules : Rules :=
  [("b".toList, ⟨{}, .template ⟨"<b>%s</b>".toList,
      [.literal "<b>".toList, .body, .literal "</b>".toList]⟩⟩),
   ("hr".toList, ⟨{ standalone := true }, .template ⟨"<hr>".toList, [.literal "<hr>".toList]⟩⟩),
   ("q".toList, ⟨{ strip := true, swallowTrailingNewline := true }, .template
      ⟨"<q>%s</q>".toList, [.literal "<q>".toList, .body, .literal "</q>".toList]⟩⟩)]

/-- A quotation of a document. -/
def Document.quote (body rest : Document) : Document :=
  .element ⟨"q".toList, [], "[q]".toList, by decide +kernel⟩ body
    ⟨"[/q]".toList, by decide +kernel⟩ rest

/-- A piece of bold text. -/
def Document.bold (text : Text) (rest : Document) : Document :=
  .element ⟨"b".toList, [], "[B]".toList, by decide +kernel⟩ (.leaf text .nil)
    ⟨"[/b]".toList, by decide +kernel⟩ rest

/-- Bold text inside a quotation that a line follows. -/
def quoteDocument : Document :=
  .quote (.leaf " x".toList (.bold "y".toList (.leaf " ".toList .nil)))
    (.leaf "\n".toList (.single ⟨"hr".toList, [], "[hr]".toList, by decide +kernel⟩ .nil))

theorem format_quoteDocument :
    quoteDocument.Fits quoteRules ∧
      quoteDocument.text = "[q] x[B]y[/b] [/q]\n[hr]".toList ∧
      (TagParser.format ⟨quoteRules, []⟩ quoteDocument.text []).result =
        .ok "<q>x<b>y</b></q><hr>".toList := by
  have hfits : quoteDocument.Fits quoteRules := by decide +kernel
  refine ⟨hfits, by decide +kernel, ?_⟩
  rw [format_text_eq_value ⟨quoteRules, []⟩ [] quoteDocument hfits]
  decide +kernel

end Dispatch.Markup
