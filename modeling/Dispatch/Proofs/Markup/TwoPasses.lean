import Mathlib.Control.Monad.Basic
import Dispatch.Markup.Passes
import Dispatch.Proofs.Markup.DepthFirst
import Dispatch.Proofs.Markup.Run

/-!
# Two passes over one document

The first pass replaces the elements that it has rules for by what its formatters reply, and leaves
every other tag as it is written. If the replies are read as documents in their turn, the first pass
takes a document to a document (`Document.resolve`), and what the second pass reads is the text of
that document. Main statement: both passes together give the value, for the rules of the second, of
the document that the first one leaves (`format_resolved`).
-/

namespace Dispatch.Markup

/-! ## 1. Reading replies -/

/-- For every text a document that is written so. A text that is no nested markup may be read as
one piece of plain text; such a document fits no rules if the text holds a bracket. -/
structure Reading where
  read : Text → Document
  text_read : ∀ text, (read text).text = text

namespace Document

/-- One document behind another. -/
def append : Document → Document → Document
  | .nil, other => other
  | .leaf text rest, other => .leaf text (rest.append other)
  | .single tag rest, other => .single tag (rest.append other)
  | .element tag body closing rest, other => .element tag body closing (rest.append other)

theorem text_append (doc other : Document) : (doc.append other).text = doc.text ++ other.text := by
  induction doc with
  | nil => rfl
  | leaf piece rest ih => simp only [append, Document.text, ih, List.append_assoc]
  | single tag rest ih => simp only [append, Document.text, ih, List.append_assoc]
  | element tag body closing rest _ ih => simp only [append, Document.text, ih, List.append_assoc]

/-! ## 2. The document that a pass leaves -/

/-- The document that a pass leaves: depth-first and from left to right, each piece that there is a
rule for is replaced by the reply of its formatter, newlines that a tag swallows are dropped, and
all other tags stay as they are written. -/
def resolve (rules : Rules) (context : Context) (reading : Reading) :
    (parent : Option ParentTag) → (swallows : Bool) → Document → Formatting Document
  | _, _, .nil => return .nil
  | parent, swallows, .leaf text rest => do
    let behind ← resolve rules context reading parent (swallows && text.isEmpty) rest
    return .leaf (swallowed swallows text) behind
  | parent, _, .single tag rest =>
    match Dict.get? tag.name rules with
    | none => do
      let behind ← resolve rules context reading parent false rest
      return .single tag behind
    | some rule => do
      let reply ← invoke rule.formatter ⟨tag.name, [], tag.attributes, parent, context⟩
      let behind ← resolve rules context reading parent false rest
      return (reading.read reply).append behind
  | parent, _, .element tag body closing rest =>
    match Dict.get? tag.name rules with
    | none => do
      let inner ← resolve rules context reading parent false body
      let behind ← resolve rules context reading parent false rest
      return .element tag inner closing behind
    | some rule => do
      let inner ←
        if rule.options.renderEmbedded then
          resolve rules context reading (some ⟨tag.name, rule.options⟩) false body
        else pure body
      let value := if rule.options.strip then Text.trim inner.text else inner.text
      let reply ← invoke rule.formatter ⟨tag.name, value, tag.attributes, parent, context⟩
      let behind ← resolve rules context reading parent rule.options.swallowTrailingNewline rest
      return (reading.read reply).append behind

/-- **A pass gives the text of the document that it leaves**, with the same calls. -/
theorem evaluate_eq_resolve (rules : Rules) (context : Context) (reading : Reading)
    (parent : Option ParentTag) (swallows : Bool) (doc : Document) :
    doc.evaluate rules context parent swallows =
      text <$> doc.resolve rules context reading parent swallows := by
  induction doc generalizing parent swallows with
  | nil => rfl
  | leaf text rest ih =>
    rw [evaluate, resolve, ih]
    simp only [map_eq_pure_bind, bind_assoc, pure_bind, Document.text]
  | single tag rest ih =>
    rw [evaluate, resolve]
    cases Dict.get? tag.name rules with
    | none =>
      simp only [ih, map_eq_pure_bind, bind_assoc, pure_bind, Document.text]
    | some rule =>
      simp only [ih, map_eq_pure_bind, bind_assoc, pure_bind, text_append, reading.text_read]
  | element tag body closing rest ihbody ihrest =>
    rw [evaluate, resolve]
    cases Dict.get? tag.name rules with
    | none =>
      simp only [ihbody, ihrest, map_eq_pure_bind, bind_assoc, pure_bind, Document.text]
    | some rule =>
      cases hembedded : rule.options.renderEmbedded with
      | true =>
        simp only [hembedded, ↓reduceIte, ihbody, ihrest, map_eq_pure_bind, bind_assoc, pure_bind,
          text_append, reading.text_read]
      | false =>
        simp only [hembedded, Bool.false_eq_true, ↓reduceIte, ihrest, map_eq_pure_bind, bind_assoc,
          pure_bind, text_append, reading.text_read]

/-! ## 3. Where the tags of the result come from -/

/-- The names of the tags that the document opens, at any depth. -/
def tagNames : Document → List Text
  | .nil => []
  | .leaf _ rest => rest.tagNames
  | .single tag rest => tag.name :: rest.tagNames
  | .element tag body _ rest => tag.name :: body.tagNames ++ rest.tagNames

theorem mem_tagNames_append {doc other : Document} {name : Text} :
    name ∈ (doc.append other).tagNames ↔ name ∈ doc.tagNames ∨ name ∈ other.tagNames := by
  induction doc with
  | nil => simp [append, tagNames]
  | leaf piece rest ih => simp [append, tagNames, ih]
  | single tag rest ih => simp [append, tagNames, ih, or_assoc]
  | element tag body closing rest _ ih => simp [append, tagNames, ih, or_assoc]

/-- A formatter wrote a tag of this name, as the replies are read. -/
def Written (rules : Rules) (reading : Reading) (made calls : List Call) (name : Text) : Prop :=
  ∃ reply, .ok reply ∈ rules.replies made calls ∧ name ∈ (reading.read reply).tagNames

/-- The tags that there is a rule for were written by formatters. -/
def FromReplies (rules : Rules) (reading : Reading) (made : List Call) (doc : Document)
    (calls : List Call) : Prop :=
  ∀ name ∈ doc.tagNames, rules.knows name = true → Written rules reading made calls name

section Origin

variable {rules : Rules} {reading : Reading} {made calls others : List Call} {name : Text}

theorem Written.append_right (h : Written rules reading made calls name) (others : List Call) :
    Written rules reading made (calls ++ others) name := by
  obtain ⟨reply, hreply, hname⟩ := h
  refine ⟨reply, ?_, hname⟩
  rw [Rules.replies_append]
  exact List.mem_append_left _ hreply

theorem Written.append_left (h : Written rules reading (made ++ calls) others name) :
    Written rules reading made (calls ++ others) name := by
  obtain ⟨reply, hreply, hname⟩ := h
  refine ⟨reply, ?_, hname⟩
  rw [Rules.replies_append]
  exact List.mem_append_right _ hreply

/-- A reply in front of a document. -/
theorem FromReplies.reply {call : Call} {reply : Text} {behind : Document}
    (hreply : rules.reply made call = .ok reply)
    (h : FromReplies rules reading (made ++ [call]) behind others) :
    FromReplies rules reading made ((reading.read reply).append behind) ([call] ++ others) := by
  intro name hname hknown
  rcases mem_tagNames_append.mp hname with hname | hname
  · refine Written.append_right ⟨reply, ?_, hname⟩ others
    rw [Rules.replies, hreply]
    exact List.mem_cons_self
  · exact Written.append_left (h name hname hknown)

/-- A tag that there is no rule for stays in front of a document. -/
theorem FromReplies.single {tag : OpeningTag} {behind : Document}
    (hrule : Dict.get? tag.name rules = none) (h : FromReplies rules reading made behind calls) :
    FromReplies rules reading made (.single tag behind) calls := by
  intro name hname hknown
  rcases List.mem_cons.mp hname with rfl | hname
  · rw [Rules.not_knows_of_get? hrule] at hknown
    cases hknown
  · exact h name hname hknown

/-- An element that there is no rule for stays around what its body leaves. -/
theorem FromReplies.element {tag : OpeningTag} {closing : ClosingTag tag.name}
    {inner behind : Document} (hrule : Dict.get? tag.name rules = none)
    (hinner : FromReplies rules reading made inner calls)
    (hbehind : FromReplies rules reading (made ++ calls) behind others) :
    FromReplies rules reading made (.element tag inner closing behind) (calls ++ others) := by
  intro name hname hknown
  rcases List.mem_cons.mp hname with rfl | hname
  · rw [Rules.not_knows_of_get? hrule] at hknown
    cases hknown
  · rcases List.mem_append.mp hname with hname | hname
    · exact Written.append_right (hinner name hname hknown) others
    · exact Written.append_left (hbehind name hname hknown)

end Origin

/-- A call whose reply stands in front of what follows. -/
theorem yields_reply {rules : Rules} {reading : Reading} {call : Call} {rule : Rule}
    (hrule : Dict.get? call.tag rules = some rule) {action : Formatting Document}
    (h : action.Yields (FromReplies rules reading)) :
    (do
      let reply ← invoke rule.formatter call
      let behind ← action
      return (reading.read reply).append behind).Yields (FromReplies rules reading) := by
  have hbehind := fun reply : Text =>
    @Formatting.Yields.map _ _ _ _ (fun made doc calls => ∃ behind,
      doc = (reading.read reply).append behind ∧ FromReplies rules reading made behind calls)
      h ((reading.read reply).append ·) fun h => ⟨_, rfl, h⟩
  refine (invoke_yields hrule).bind hbehind ?_
  rintro made reply calls _ others ⟨rfl, hreply⟩ ⟨behind, rfl, hbehind⟩
  exact hbehind.reply hreply

/-- **What a pass has a rule for stands in its result only where a formatter wrote it.** -/
theorem resolve_yields (rules : Rules) (context : Context) (reading : Reading)
    (parent : Option ParentTag) (swallows : Bool) (doc : Document) :
    (doc.resolve rules context reading parent swallows).Yields (FromReplies rules reading) := by
  induction doc generalizing parent swallows with
  | nil => exact Formatting.yields_pure fun _ _ h => absurd h List.not_mem_nil
  | leaf piece rest ih => exact (ih parent _).map id
  | single tag rest ih =>
    rw [resolve]
    split
    · next hrule => exact (ih parent false).map fun h => h.single hrule
    · next rule hrule => exact yields_reply hrule (ih parent false)
  | element tag body closing rest ihbody ihrest =>
    rw [resolve]
    split
    · next hrule =>
      have hrest := fun inner : Document =>
        @Formatting.Yields.map _ _ _ _ (fun made doc calls => ∃ behind,
          doc = .element tag inner closing behind ∧ FromReplies rules reading made behind calls)
          (ihrest parent false) (Document.element tag inner closing) fun h => ⟨_, rfl, h⟩
      refine (ihbody parent false).bind hrest ?_
      rintro made inner calls _ others hinner ⟨behind, rfl, hbehind⟩
      exact hinner.element hrule hbehind
    · next rule hrule =>
      have hreply := fun value : Text =>
        @yields_reply rules reading ⟨tag.name, value, tag.attributes, parent, context⟩ rule hrule _
          (ihrest parent rule.options.swallowTrailingNewline)
      dsimp only
      split
      · -- what the body leaves is only the value of the call
        refine (ihbody (some ⟨tag.name, rule.options⟩) false).bind (fun _ => hreply _) ?_
        intro made inner calls doc others _ hdoc name hname hknown
        exact Written.append_left (hdoc name hname hknown)
      · rw [pure_bind]
        exact hreply _

end Document

/-! ## 4. Both passes -/

/-- What the first pass makes of a document, in terms of what the document is resolved to. -/
theorem format_eq_resolve {parser : TagParser} {context : Context} {doc : Document}
    (h : doc.Fits parser.rules) (reading : Reading) {outcome : Except FormatError Document}
    {calls : List Call}
    (hrun : (doc.resolve parser.rules context reading none false).run.run parser.history =
      (outcome, parser.history ++ calls)) :
    parser.format doc.text context = ⟨outcome.map Document.text, calls⟩ := by
  rw [format_eq, Document.formatTokens_text h, Document.evaluate_eq_resolve _ _ reading,
    Formatting.outcome_of_run (Formatting.run_map hrun Document.text)]

/-- **Two passes over nested markup.** If no formatter of the first pass fails, the first pass takes
the document to another document, in which tags that it has a rule for stand only where a formatter
wrote them. If the rules of the second pass read that document as it is nested, both passes give
its value for the second parser, or the first failure there. -/
theorem format_resolved (complex simple : TagParser) (context : Context) (reading : Reading)
    (doc : Document) (hdoc : doc.Fits complex.rules)
    (hreplies : ∀ reply ∈ complex.replies (complex.format doc.text context).calls,
      ∃ text, reply = .ok text) :
    ∃ between calls,
      (doc.resolve complex.rules context reading none false).run.run complex.history =
        (.ok between, complex.history ++ calls) ∧
      (∀ name ∈ between.tagNames, complex.rules.knows name = true →
        ∃ reply, .ok reply ∈ complex.replies calls ∧ name ∈ (reading.read reply).tagNames) ∧
      (between.Fits simple.rules →
        Passes.format ⟨some complex, some simple⟩ doc.text context =
          ⟨(between.format simple context).result, calls,
            (between.format simple context).calls⟩) := by
  obtain ⟨outcome, calls, hrun, horigin⟩ :=
    Document.resolve_yields complex.rules context reading none false doc complex.history
  have hfirst := format_eq_resolve hdoc reading hrun
  obtain ⟨out, hout⟩ := format_ok_of_replies complex doc.text context hreplies
  rw [hfirst] at hout
  obtain ⟨between, rfl, rfl⟩ := exceptMap_eq_ok hout
  refine ⟨between, calls, hrun, horigin between rfl, fun hbetween => ?_⟩
  have hsecond : simple.format between.text context = between.format simple context := by
    rw [format_eq, Document.formatTokens_text hbetween]
    rfl
  simp only [Passes.format, Passes.formatPass, hfirst, Except.map, hsecond]

/-- The rule of a note, which writes bold text. -/
def noteRules : Rules :=
  [("note".toList, ⟨{}, .template ⟨"[B]%s[/b]!".toList,
      [.literal "[B]".toList, .body, .literal "[/b]!".toList]⟩⟩)]

/-- What a note about `x` writes. -/
def boldReply : Document := .bold "x".toList (.leaf "!".toList .nil)

/-- That reply as the document it is, all other texts as they are. -/
def boldReading : Reading where
  read text := if text = boldReply.text then boldReply else .leaf text .nil
  text_read text := by
    split
    · next h => exact h.symm
    · exact List.append_nil text

/-- A note inside a quotation. -/
def noteDocument : Document :=
  .quote (.element ⟨"note".toList, [], "[note]".toList, by decide +kernel⟩ (.leaf "x".toList .nil)
    ⟨"[/note]".toList, by decide +kernel⟩ .nil) .nil

theorem format_noteDocument :
    (Passes.format ⟨some ⟨noteRules, []⟩, some ⟨quoteRules, []⟩⟩
      "[q][note]x[/note][/q]".toList []).result = .ok "<q><b>x</b>!</q>".toList := by
  have hdoc : noteDocument.Fits noteRules := by decide +kernel
  have hreplies : ∀ reply ∈ TagParser.replies ⟨noteRules, []⟩
      (TagParser.format ⟨noteRules, []⟩ noteDocument.text []).calls, ∃ text, reply = .ok text := by
    have hwritten : TagParser.replies ⟨noteRules, []⟩
        (TagParser.format ⟨noteRules, []⟩ noteDocument.text []).calls = [.ok boldReply.text] := by
      decide +kernel
    rw [hwritten]
    exact fun reply hreply => ⟨_, List.mem_singleton.mp hreply⟩
  obtain ⟨between, calls, hrun, -, hboth⟩ :=
    format_resolved ⟨noteRules, []⟩ ⟨quoteRules, []⟩ [] boldReading noteDocument hdoc hreplies
  have hresolved : (noteDocument.resolve noteRules [] boldReading none false).run.run [] =
      (.ok (.quote boldReply .nil), [⟨"note".toList, "x".toList, [], none, []⟩]) := by
    rfl
  obtain rfl : Document.quote boldReply .nil = between :=
    Except.ok.inj (congrArg Prod.fst (hresolved.symm.trans hrun))
  have hvalue : ((Document.quote boldReply .nil).format ⟨quoteRules, []⟩ []).result =
      .ok "<q><b>x</b>!</q>".toList := by
    decide +kernel
  exact (congrArg PassesFormatted.result (hboth (by decide +kernel))).trans hvalue

end Dispatch.Markup
