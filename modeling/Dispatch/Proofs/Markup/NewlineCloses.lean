import Dispatch.Proofs.Markup.ClosingTags

/-!
# Tags that newlines close

A tag that newlines close ends at the first newline behind it, however many elements that newline
stands in: the search for the end counts the open tags of the same name, but a newline ends it at
every count. So a document around which such a tag is written is cut there (`beforeNewline`,
`behindNewline`). Its elements that the newline stands in end with the tag; their closing tags close
nothing any more and are dropped, and only the tag may swallow a newline (`evaluateRow`).

Main statement: `format_line`. The tag gets the whole document exactly if there is no newline in it,
at any depth (`Document.beforeNewline_eq_self_iff`); `format_newlineInBold` is a document for which
this differs from its nesting.
-/

namespace Dispatch.Markup

namespace Document

/-! ## 1. The first newline of a document -/

/-- The document in front of its first newline; elements that the newline stands in end there. -/
def beforeNewline : Document → Document
  | .nil => .nil
  | .leaf text rest =>
    if '\n' ∈ text then .leaf (text.takeWhile (· ≠ '\n')) .nil else .leaf text rest.beforeNewline
  | .single tag rest => .single tag rest.beforeNewline
  | .element tag body closing rest =>
    if '\n' ∈ body.text then .element tag body.beforeNewline closing .nil
    else .element tag body closing rest.beforeNewline

/-- The documents behind the first newline, from the innermost element around it outwards. -/
def behindNewline : Document → List Document
  | .nil => []
  | .leaf text rest =>
    if '\n' ∈ text then [.leaf (text.dropWhile (· ≠ '\n')).tail rest] else rest.behindNewline
  | .single _ rest => rest.behindNewline
  | .element _ body _ rest =>
    if '\n' ∈ body.text then body.behindNewline ++ [rest] else rest.behindNewline

/-- A newline behind some elements stands in the text between them. -/
theorem newline_mem_of_element {tag : OpeningTag} {body rest : Document}
    {closing : ClosingTag tag.name} (h : '\n' ∈ (Document.element tag body closing rest).text)
    (hbody : '\n' ∉ body.text) : '\n' ∈ rest.text := by
  simp only [Document.text, List.mem_append] at h
  rcases h with ((htag | hinner) | hclosing) | hrest
  · exact absurd htag (notMem_newline_of_tag tag.isSpan.2)
  · exact absurd hinner hbody
  · exact absurd hclosing (notMem_newline_of_tag closing.isSpan.2)
  · exact hrest

theorem newline_mem_of_single {tag : OpeningTag} {rest : Document}
    (h : '\n' ∈ (Document.single tag rest).text) : '\n' ∈ rest.text :=
  (List.mem_append.mp h).resolve_left (notMem_newline_of_tag tag.isSpan.2)

theorem newline_notMem_beforeNewline (doc : Document) : '\n' ∉ doc.beforeNewline.text := by
  induction doc with
  | nil => exact List.not_mem_nil
  | leaf text rest ih =>
    rw [beforeNewline]
    split
    · intro hmem
      rw [Document.text, Document.text, List.append_nil] at hmem
      simpa using List.all_eq_true.mp List.all_takeWhile '\n' hmem
    · next htext => exact fun hmem => (List.mem_append.mp hmem).elim htext ih
  | single tag rest ih => exact fun hmem => ih (newline_mem_of_single hmem)
  | element tag body closing rest ihbody ihrest =>
    rw [beforeNewline]
    split
    · exact fun hmem => List.not_mem_nil (newline_mem_of_element hmem ihbody)
    · next hbody => exact fun hmem => ihrest (newline_mem_of_element hmem hbody)

/-- All of the document is in front of its first newline exactly if it has none. -/
theorem beforeNewline_eq_self_iff (doc : Document) : doc.beforeNewline = doc ↔ '\n' ∉ doc.text := by
  refine ⟨fun hsame => hsame ▸ newline_notMem_beforeNewline doc, fun h => ?_⟩
  induction doc with
  | nil => rfl
  | leaf text rest ih =>
    simp only [Document.text, List.mem_append, not_or] at h
    rw [beforeNewline, if_neg h.1, ih h.2]
  | single tag rest ih =>
    simp only [Document.text, List.mem_append, not_or] at h
    rw [beforeNewline, ih h.2]
  | element tag body closing rest ihbody ihrest =>
    simp only [Document.text, List.mem_append, not_or] at h
    rw [beforeNewline, if_neg h.1.1.2, ihrest h.2]

theorem behindNewline_eq_nil_iff (doc : Document) : doc.behindNewline = [] ↔ '\n' ∉ doc.text := by
  induction doc with
  | nil => exact ⟨fun _ => List.not_mem_nil, fun _ => rfl⟩
  | leaf text rest ih =>
    by_cases htext : '\n' ∈ text <;> simp [behindNewline, Document.text, htext, ih]
  | single tag rest ih =>
    have htag := notMem_newline_of_tag tag.isSpan.2
    simp [behindNewline, Document.text, htag, ih]
  | element tag body closing rest ihbody ihrest =>
    have htag := notMem_newline_of_tag tag.isSpan.2
    have hclosing := notMem_newline_of_tag closing.isSpan.2
    by_cases hbody : '\n' ∈ body.text <;>
      simp [behindNewline, Document.text, htag, hclosing, hbody, ihrest]

theorem elementNames_beforeNewline (doc : Document) :
    doc.beforeNewline.elementNames ⊆ doc.elementNames := by
  induction doc with
  | nil => exact List.Subset.refl _
  | leaf text rest ih =>
    rw [beforeNewline]
    split
    · exact List.nil_subset _
    · exact ih
  | single tag rest ih => exact ih
  | element tag body closing rest ihbody ihrest =>
    rw [beforeNewline]
    split
    · simp only [elementNames, List.append_nil]
      exact List.subset_append_of_subset_left _ (List.cons_subset_cons _ ihbody)
    · exact List.append_subset.mpr ⟨List.subset_append_left _ _,
        List.subset_append_of_subset_right _ ihrest⟩

variable {rules : Rules} {context : Context} {doc : Document}

/-- The rules read the document in front of its first newline as it is nested, too. -/
theorem Fits.beforeNewline (h : doc.Fits rules) : doc.beforeNewline.Fits rules := by
  induction doc with
  | nil => exact trivial
  | leaf text rest ih =>
    rw [Document.beforeNewline]
    split
    · exact ⟨fun hmem => h.1 ((List.takeWhile_sublist _).subset hmem), trivial⟩
    · exact ⟨h.1, ih h.2⟩
  | single tag rest ih => exact ⟨h.1, ih h.2⟩
  | element tag body closing rest ihbody ihrest =>
    obtain ⟨hrules, hbody, hrest⟩ := h
    rw [Document.beforeNewline]
    split
    · refine ⟨fun rule hrule => ?_, ihbody hbody, trivial⟩
      obtain ⟨halone, -, hname⟩ := hrules rule hrule
      exact ⟨halone, fun _ => newline_notMem_beforeNewline body,
        fun hon hmem => hname hon (elementNames_beforeNewline body hmem)⟩
    · exact ⟨hrules, hbody, ihrest hrest⟩

/-- An opening tag among the tokens of a document is that of an element, or it stands alone. -/
theorem element_or_alone_of_opening_mem (h : doc.Fits rules) {name raw : Text}
    {attributes : Attributes} (hmem : .opening name attributes raw ∈ doc.tokens rules.knows) :
    name ∈ doc.elementNames ∨
      ∀ rule, Dict.get? name rules = some rule → rule.options.standalone = true := by
  have hplain := Tag.token_notMem_plain raw (.opening name attributes)
  have hspelled {tag : Tag} {written : Text}
      (htag : .opening name attributes raw ∈ tag.spelled rules.knows written) :
      tag = .opening name attributes := by
    rw [Tag.spelled] at htag
    split at htag
    · have hsame := @Tag.token_inj raw written (.opening name attributes) tag
      exact (hsame.mp (List.mem_singleton.mp htag)).1.symm
    · exact absurd htag (hplain written)
  induction doc with
  | nil => exact absurd hmem List.not_mem_nil
  | leaf text rest ih =>
    rcases List.mem_append.mp hmem with htext | hrest
    · exact absurd htext (hplain text)
    · exact ih h.2 hrest
  | single tag rest ih =>
    rcases List.mem_append.mp hmem with htag | hrest
    · obtain rfl : tag.name = name := congrArg Tag.name (hspelled htag)
      exact Or.inr h.1
    · exact ih h.2 hrest
  | element tag body closing rest ihbody ihrest =>
    obtain ⟨-, hbody, hrest⟩ := h
    simp only [tokens, elementNames, List.mem_append, List.mem_cons] at hmem ⊢
    rcases hmem with ((htag | hinner) | hclosing) | hbehind
    · obtain rfl : tag.name = name := congrArg Tag.name (hspelled htag)
      exact Or.inl (Or.inl (Or.inl rfl))
    · exact (ihbody hbody hinner).imp_left fun hname => Or.inl (Or.inr hname)
    · cases hspelled hclosing
    · exact (ihrest hrest hbehind).imp_left Or.inr

/-! ## 2. What is behind the newline -/

/-- The values of some documents, one behind the other. Only in front of the first of them a newline
is swallowed or not: a closing tag stands in front of the others. -/
def evaluateRow (rules : Rules) (context : Context) (parent : Option ParentTag) :
    (swallows : Bool) → List Document → Formatting Text
  | _, [] => return []
  | swallows, doc :: docs => do
    let text ← doc.evaluate rules context parent swallows
    let behind ← evaluateRow rules context parent false docs
    return text ++ behind

theorem evaluateRow_single (parent : Option ParentTag) (swallows : Bool) :
    evaluateRow rules context parent swallows [doc] =
      doc.evaluate rules context parent swallows := by
  simp only [evaluateRow, pure_bind, List.append_nil, bind_pure]

theorem evaluateRow_concat {docs : List Document} (h : docs ≠ []) (last : Document)
    (parent : Option ParentTag) (swallows : Bool) :
    evaluateRow rules context parent swallows (docs ++ [last]) = do
      let front ← evaluateRow rules context parent swallows docs
      let behind ← last.evaluate rules context parent false
      return front ++ behind := by
  induction docs generalizing swallows with
  | nil => exact absurd rfl h
  | cons doc docs ih =>
    cases docs with
    | nil =>
      rw [evaluateRow_single, List.singleton_append, evaluateRow, evaluateRow_single]
    | cons second docs =>
      have hlater := ih (List.cons_ne_nil second docs) false
      generalize second :: docs = later at hlater ⊢
      simp only [List.cons_append, evaluateRow, hlater, bind_assoc, pure_bind, List.append_assoc]

/-- The tokens, with a closing tag behind them that closes nothing, are made the values of the
documents. -/
def Leaves (rules : Rules) (context : Context) (tokens : List Token) (docs : List Document) :
    Prop :=
  ∀ parent swallows name raw behind,
    formatTokens rules context parent
        (swallowTokens swallows (tokens ++ .closing name raw :: behind)) = do
      let text ← evaluateRow rules context parent swallows docs
      let others ← formatTokens rules context parent behind
      return text ++ others

/-- The tokens of one document. -/
theorem leaves_document (h : doc.Fits rules) :
    Leaves rules context (doc.tokens rules.knows) [doc] := by
  intro parent swallows name raw behind
  rw [evaluates_of_fits h parent swallows, swallowTokens_cons Token.noConfusion,
    formatTokens_closing, evaluateRow_single]

/-- The tokens of another document behind a closing tag. -/
theorem Leaves.concat {tokens : List Token} {docs : List Document}
    (h : Leaves rules context tokens docs) (hdocs : docs ≠ []) (hdoc : doc.Fits rules)
    (name raw : Text) :
    Leaves rules context (tokens ++ .closing name raw :: doc.tokens rules.knows)
      (docs ++ [doc]) := by
  intro parent swallows last lastRaw behind
  have hlast : formatTokens rules context parent
      (doc.tokens rules.knows ++ .closing last lastRaw :: behind) = do
        let text ← evaluateRow rules context parent false [doc]
        let others ← formatTokens rules context parent behind
        return text ++ others :=
    leaves_document hdoc parent false last lastRaw behind
  rw [List.append_assoc, List.cons_append, h, hlast, evaluateRow_single,
    evaluateRow_concat hdocs doc]
  simp only [bind_assoc, pure_bind, List.append_assoc]

/-! ## 3. The tokens of a document around its first newline -/

/-- A newline cuts the tokens: in front of it they are those of `before` up to some closing tags,
and behind it they are made the values of the documents. -/
def CutsTo (rules : Rules) (context : Context) (tokens before : List Token)
    (docs : List Document) : Prop :=
  ∃ front closings behind, tokens = front ++ .newline :: behind ∧ before = front ++ closings ∧
    AllClosing closings ∧ Leaves rules context behind docs

theorem CutsTo.append {tokens before : List Token} {docs : List Document}
    (h : CutsTo rules context tokens before docs) (piece : List Token) :
    CutsTo rules context (piece ++ tokens) (piece ++ before) docs := by
  obtain ⟨front, closings, behind, rfl, rfl, hclosings, hleaves⟩ := h
  exact ⟨piece ++ front, closings, behind, (List.append_assoc _ _ _).symm,
    (List.append_assoc _ _ _).symm, hclosings, hleaves⟩

/-- **The first newline cuts the tokens of a document as it cuts the document.** -/
theorem cutsTo_of_newline (h : doc.Fits rules)
    (hknown : ∀ name ∈ doc.elementNames, rules.knows name = true) (hnewline : '\n' ∈ doc.text) :
    CutsTo rules context (doc.tokens rules.knows) (doc.beforeNewline.tokens rules.knows)
      doc.behindNewline := by
  induction doc with
  | nil => exact absurd hnewline List.not_mem_nil
  | leaf text rest ih =>
    rw [Document.beforeNewline, behindNewline]
    by_cases htext : '\n' ∈ text
    · obtain ⟨start, tail, rfl, hstart⟩ := List.eq_append_cons_of_mem htext
      have hplain : ∀ c ∈ start, decide (c ≠ '\n') = true := fun c hc =>
        decide_eq_true fun he => hstart (he ▸ hc)
      have htake : (start ++ '\n' :: tail).takeWhile (· ≠ '\n') = start := by
        rw [List.takeWhile_append_of_pos hplain]
        simp
      have hdrop : ((start ++ '\n' :: tail).dropWhile (· ≠ '\n')).tail = tail := by
        rw [List.dropWhile_append_of_pos hplain]
        simp
      have htail : (Document.leaf tail rest).Fits rules :=
        ⟨fun hmem => h.1 (List.mem_append_right _ (List.mem_cons_of_mem _ hmem)), h.2⟩
      rw [if_pos htext, if_pos htext, htake, hdrop]
      refine ⟨start.map Token.ofChar, [], _, ?_, rfl, .nil, leaves_document htail⟩
      simp [tokens, Token.ofChar]
    · rw [if_neg htext, if_neg htext]
      have hrest := (List.mem_append.mp hnewline).resolve_left htext
      exact (ih h.2 hknown hrest).append (text.map Token.ofChar)
  | single tag rest ih =>
    have hrest := newline_mem_of_single hnewline
    exact (ih h.2 hknown hrest).append (tag.tag.spelled rules.knows tag.raw)
  | element tag body closing rest ihbody ihrest =>
    obtain ⟨-, hbody, hrest⟩ := h
    simp only [elementNames, List.mem_append, List.mem_cons] at hknown
    rw [Document.beforeNewline, behindNewline]
    by_cases hinner : '\n' ∈ body.text
    · -- the element ends at the newline, and its closing tag goes to the tokens behind
      have hclosing : closing.tag.spelled rules.knows closing.raw =
          [.closing tag.name closing.raw] := if_pos (hknown tag.name (Or.inl (Or.inl rfl)))
      have hdocs : body.behindNewline ≠ [] := fun hnil =>
        (behindNewline_eq_nil_iff body).mp hnil hinner
      obtain ⟨front, closings, behind, hfront, hbefore, hclosings, hleaves⟩ :=
        ihbody hbody (fun name hname => hknown name (Or.inl (Or.inr hname))) hinner
      rw [if_pos hinner, if_pos hinner]
      refine ⟨tag.tag.spelled rules.knows tag.raw ++ front,
        closings ++ [.closing tag.name closing.raw],
        behind ++ .closing tag.name closing.raw :: rest.tokens rules.knows, ?_, ?_,
        hclosings.concat tag.name closing.raw, hleaves.concat hdocs hrest tag.name closing.raw⟩
      · simp only [tokens, hclosing, hfront, List.append_assoc, List.cons_append, List.nil_append]
      · simp only [tokens, hclosing, hbefore, List.append_assoc, List.append_nil]
    · rw [if_neg hinner, if_neg hinner]
      have hlater := ihrest hrest (fun name hname => hknown name (Or.inr hname))
        (newline_mem_of_element hnewline hinner)
      exact hlater.append (tag.tag.spelled rules.knows tag.raw ++ body.tokens rules.knows
        ++ closing.tag.spelled rules.knows closing.raw)

end Document

/-! ## 4. The end of the tag -/

/-- The options of a tag that newlines close, around a body that is formatted. -/
structure TagOptions.EndsWithLine (options : TagOptions) : Prop where
  newlineCloses : options.newlineCloses = true
  renderEmbedded : options.renderEmbedded = true
  sameTagCloses : options.sameTagCloses = false
  standalone : options.standalone = false

section Newline

variable {name : Text} {options : TagOptions} {front closings : List Token}

/-- A newline ends the tag, also in the middle of tokens that would be passed over with some closing
tags in its place. -/
theorem find_newline (hcloses : options.newlineCloses = true)
    (hpasses : Closing.Passes name options (front ++ closings)) (behind : List Token) :
    Closing.find name options 0 (front ++ .newline :: behind) =
      (⟨0, true⟩ : Closing).laterBy front.length := by
  rcases Closing.find_append name options 0 front with ⟨hlength, hsame⟩ | ⟨-, depth, hlater⟩
  · -- an end in front of the newline would be one with the closing tags, too
    have hend := hpasses 0 []
    rw [List.append_nil, hsame] at hend
    rw [hend] at hlength
    simp only [Closing.find, Closing.laterBy, List.length_append] at hlength
    omega
  · rw [hlater, Closing.find, if_pos hcloses]

theorem bodyTokens_newline (hcloses : options.newlineCloses = true)
    (hpasses : Closing.Passes name options (front ++ closings)) (behind : List Token) :
    bodyTokens name options (front ++ .newline :: behind) = front := by
  rw [bodyTokens, find_newline hcloses hpasses, Closing.body_laterBy]
  exact List.append_nil front

theorem tokensBehind_newline (hcloses : options.newlineCloses = true)
    (hpasses : Closing.Passes name options (front ++ closings)) (behind : List Token) :
    tokensBehind name options (front ++ .newline :: behind) =
      swallowTokens options.swallowTrailingNewline behind := by
  rw [tokensBehind, find_newline hcloses hpasses, Closing.behind_laterBy]
  rfl

end Newline

/-! ## 5. A tag around a document -/

namespace Document

/-- What is made of a tag around a document if it ends at the first newline. -/
def evaluateLine (rules : Rules) (context : Context) (parent : Option ParentTag) (tag : OpeningTag)
    (rule : Rule) (body : Document) : Formatting Text := do
  let inner ← body.beforeNewline.evaluate rules context (some ⟨tag.name, rule.options⟩) false
  let text ← invoke rule.formatter
    ⟨tag.name, rule.options.stripped inner, tag.attributes, parent, context⟩
  let behind ← evaluateRow rules context parent rule.options.swallowTrailingNewline
    body.behindNewline
  return text ++ behind

/-- Every element of the document has a rule that takes the body formatted. -/
def Embedded (rules : Rules) (doc : Document) : Prop :=
  ∀ name ∈ doc.elementNames,
    ∃ rule, Dict.get? name rules = some rule ∧ rule.options.renderEmbedded = true

variable {rules : Rules} {context : Context} {body : Document}

theorem Embedded.knows (h : body.Embedded rules) :
    ∀ name ∈ body.elementNames, rules.knows name = true :=
  fun name hname => (h name hname).elim fun _ hfound => Rules.knows_of_get? hfound.1

theorem takesNoRaw_tokens (hfits : body.Fits rules) (hembedded : body.Embedded rules) :
    rules.TakesNoRaw (body.tokens rules.knows) := by
  intro name attributes raw hmem rule hrule
  rcases element_or_alone_of_opening_mem hfits hmem with helement | halone
  · obtain ⟨found, hfound, hon⟩ := hembedded name helement
    obtain rfl := Option.some.inj (hfound.symm.trans hrule)
    rw [TagOptions.takesRaw, hon, Bool.not_true, Bool.and_false]
  · rw [TagOptions.takesRaw, halone rule hrule, Bool.not_true, Bool.false_and]

section Around

variable {tag : OpeningTag} {rule : Rule}

/-- The tag passes over the document in front of its first newline. -/
theorem passes_beforeNewline (hrule : Dict.get? tag.name rules = some rule)
    (hoptions : rule.options.EndsWithLine) (hfits : body.Fits rules) :
    Closing.Passes tag.name rule.options (body.beforeNewline.tokens rules.knows) := by
  refine passes hrule hoptions.standalone hfits.beforeNewline
    (fun _ => newline_notMem_beforeNewline body) fun hon => ?_
  rw [hoptions.sameTagCloses, hoptions.renderEmbedded] at hon
  exact absurd hon (by decide)

/-- **The body of the tag** is made the value of the document in front of its first newline. -/
theorem formatTokens_bodyTokens (hrule : Dict.get? tag.name rules = some rule)
    (hoptions : rule.options.EndsWithLine) (hfits : body.Fits rules)
    (hembedded : body.Embedded rules) (parent : Option ParentTag) (raw : Text) :
    formatTokens rules context parent
        (bodyTokens tag.name rule.options (body.tokens rules.knows ++ [.closing tag.name raw])) =
      body.beforeNewline.evaluate rules context parent false := by
  have hpasses := passes_beforeNewline hrule hoptions hfits
  have hbody : Evaluates rules context body.beforeNewline := evaluates_of_fits hfits.beforeNewline
  have hvalue := hbody.alone parent
  by_cases hnewline : '\n' ∈ body.text
  · obtain ⟨front, closings, behind, htokens, hbefore, hclosings, -⟩ : CutsTo rules context _ _ _ :=
      cutsTo_of_newline hfits hembedded.knows hnewline
    have hraw : rules.TakesNoRaw front := by
      refine (takesNoRaw_tokens hfits hembedded).mono ?_
      rw [htokens]
      exact List.subset_append_left _ _
    rw [hbefore] at hpasses hvalue
    rw [htokens, List.append_assoc, List.cons_append,
      bodyTokens_newline hoptions.newlineCloses hpasses,
      ← formatTokens_append_closings hraw hclosings, hvalue]
  · rw [(beforeNewline_eq_self_iff body).mpr hnewline] at hpasses hvalue ⊢
    rw [bodyTokens_balanced hpasses, hvalue]

/-- **What follows the tag** is made the values of the documents behind the first newline. -/
theorem formatTokens_tokensBehind (hrule : Dict.get? tag.name rules = some rule)
    (hoptions : rule.options.EndsWithLine) (hfits : body.Fits rules)
    (hembedded : body.Embedded rules) (parent : Option ParentTag) (raw : Text) :
    formatTokens rules context parent
        (tokensBehind tag.name rule.options (body.tokens rules.knows ++ [.closing tag.name raw])) =
      evaluateRow rules context parent rule.options.swallowTrailingNewline body.behindNewline := by
  have hpasses := passes_beforeNewline hrule hoptions hfits
  by_cases hnewline : '\n' ∈ body.text
  · obtain ⟨front, closings, behind, htokens, hbefore, -, hleaves⟩ : CutsTo rules context _ _ _ :=
      cutsTo_of_newline hfits hembedded.knows hnewline
    rw [hbefore] at hpasses
    rw [htokens, List.append_assoc, List.cons_append,
      tokensBehind_newline hoptions.newlineCloses hpasses, hleaves, formatTokens_nil]
    simp only [pure_bind, List.append_nil, bind_pure]
  · rw [(beforeNewline_eq_self_iff body).mpr hnewline] at hpasses
    have hnone : dropNewline [] = [] := rfl
    rw [tokensBehind_balanced hpasses, hnone, ite_self, formatTokens_nil,
      (behindNewline_eq_nil_iff body).mpr hnewline]
    rfl

/-- **The tokens of the tag and the document** are formatted as the first newline cuts them. -/
theorem formatTokens_line (hrule : Dict.get? tag.name rules = some rule)
    (hoptions : rule.options.EndsWithLine) (hfits : body.Fits rules)
    (hembedded : body.Embedded rules) (parent : Option ParentTag) (raw : Text) :
    formatTokens rules context parent (.opening tag.name tag.attributes tag.raw ::
        (body.tokens rules.knows ++ [.closing tag.name raw])) =
      evaluateLine rules context parent tag rule body := by
  have hbody : rule.options.formatsBody = true := by
    rw [TagOptions.formatsBody, hoptions.standalone, hoptions.renderEmbedded]
    rfl
  rw [formatTokens_embedded hrule hbody, TagOptions.following_of_body hoptions.standalone,
    formatTokens_bodyTokens hrule hoptions hfits hembedded,
    formatTokens_tokensBehind hrule hoptions hfits hembedded]
  rfl

/-- With no newline in the document, the tag is an element like any other. -/
theorem evaluateLine_of_oneLine {closing : ClosingTag tag.name}
    (hrule : Dict.get? tag.name rules = some rule) (hembedded : rule.options.renderEmbedded = true)
    (hline : '\n' ∉ body.text) (parent : Option ParentTag) (swallows : Bool) :
    evaluateLine rules context parent tag rule body =
      (Document.element tag body closing .nil).evaluate rules context parent swallows := by
  rw [evaluateLine, (beforeNewline_eq_self_iff body).mpr hline,
    (behindNewline_eq_nil_iff body).mpr hline, evaluate, hrule]
  simp only [hembedded, ↓reduceIte]
  rfl

/-- The tokens of the tag, the document and the closing tag. -/
theorem spelled_around (hrule : Dict.get? tag.name rules = some rule) (hfits : body.Fits rules)
    (closing : ClosingTag tag.name) :
    spelled rules.knows (tag.raw ++ body.text ++ closing.raw) =
      .opening tag.name tag.attributes tag.raw ::
        (body.tokens rules.knows ++ [.closing tag.name closing.raw]) := by
  have hclosing := spelled_tag_append rules.knows closing.isSpan []
  rw [List.append_nil, spelled_nil, List.append_nil] at hclosing
  rw [List.append_assoc, spelled_tag_append _ tag.isSpan, spelled_append _ hfits, hclosing,
    spelled_of_ruled hrule rfl, spelled_of_ruled hrule rfl]
  rfl

end Around

end Document

/-- **A tag that newlines close ends at the first newline, at any depth.** Around a document whose
elements are all formatted, its formatter gets the value of the document in front of the first
newline, and then the documents behind it are formatted by themselves. So it gets the whole document
if there is no newline in it. Unless the document holds elements of its name, it is called once. -/
theorem format_line (parser : TagParser) (context : Context) (tag : OpeningTag) (body : Document)
    (closing : ClosingTag tag.name) (rule : Rule)
    (hrule : Dict.get? tag.name parser.rules = some rule) (hoptions : rule.options.EndsWithLine)
    (hfits : body.Fits parser.rules) (hembedded : body.Embedded parser.rules) :
    let formatted := parser.format (tag.raw ++ body.text ++ closing.raw) context
    formatted =
        (body.evaluateLine parser.rules context none tag rule).outcome parser.history ∧
      ('\n' ∉ body.text →
        formatted = (Document.element tag body closing .nil).format parser context) ∧
      (tag.name ∉ body.elementNames → ∀ out, formatted.result = .ok out →
        ∃ value, formatted.calls.filter (fun call => call.tag = tag.name) =
          [⟨tag.name, value, tag.attributes, none, context⟩]) := by
  intro formatted
  have htokens := Document.spelled_around hrule hfits closing
  have hline : formatted =
      (body.evaluateLine parser.rules context none tag rule).outcome parser.history := by
    rw [← Document.formatTokens_line hrule hoptions hfits hembedded none closing.raw, ← htokens]
    exact format_eq parser _ context
  refine ⟨hline, fun hnewline => ?_, fun hname out hout => ?_⟩
  · rw [hline, Document.evaluateLine_of_oneLine hrule hoptions.renderEmbedded hnewline none false]
    rfl
  · have hformats : Formats parser.rules context none parser.history
        (spelled parser.rules.knows (tag.raw ++ body.text ++ closing.raw)) formatted.result
        formatted.calls := format_formats parser _ context
    rw [htokens, hout] at hformats
    refine hformats.call_once (Rules.knows_of_get? hrule) fun attributes raw hmem => ?_
    -- an opening tag of the name would be that of an element, for the tag does not stand alone
    rcases List.mem_append.mp hmem with hinner | hclosing
    · rcases Document.element_or_alone_of_opening_mem hfits hinner with helement | halone
      · exact hname helement
      · exact Bool.false_ne_true (hoptions.standalone.symm.trans (halone rule hrule))
    · cases List.mem_singleton.mp hclosing

/-- Rules for bold text and for a heading with some options. -/
def headingRules (options : TagOptions) : Rules :=
  [("b".toList, ⟨{}, .template ⟨"<b>%s</b>".toList,
      [.literal "<b>".toList, .body, .literal "</b>".toList]⟩⟩),
   ("h".toList, ⟨options, .template ⟨"<h>%s</h>".toList,
      [.literal "<h>".toList, .body, .literal "</h>".toList]⟩⟩)]

/-- The tag of a heading. -/
def headingTag : OpeningTag := ⟨"h".toList, [], "[h]".toList, by decide +kernel⟩

/-- The tag that closes a heading. -/
def headingEnd : ClosingTag headingTag.name := ⟨"[/h]".toList, by decide +kernel⟩

/-- Bold text of two lines with bold text of three lines in it. -/
def boldOverLines : Document :=
  .leaf " a ".toList (.element ⟨"b".toList, [], "[b]".toList, by decide +kernel⟩
    (.leaf "b".toList (.bold "x\n\ny".toList (.leaf "c".toList .nil)))
    ⟨"[/b]".toList, by decide +kernel⟩ (.leaf "\nd".toList .nil))

/-- A heading that ends in the bold text, with the newline that is swallowed behind it. -/
theorem format_headingOverLines :
    let options : TagOptions :=
      { newlineCloses := true, strip := true, swallowTrailingNewline := true }
    options.EndsWithLine ∧ boldOverLines.Fits (headingRules options) ∧
      boldOverLines.Embedded (headingRules options) ∧
      (TagParser.format ⟨headingRules options, []⟩
        (headingTag.raw ++ boldOverLines.text ++ headingEnd.raw) []).result =
        .ok "<h>a <b>b<b>x</b></b></h>yc\nd".toList := by
  intro options
  have hoptions : options.EndsWithLine := ⟨rfl, rfl, rfl, rfl⟩
  have hfits : boldOverLines.Fits (headingRules options) := by decide +kernel
  have hembedded : boldOverLines.Embedded (headingRules options) := by
    intro name hname
    have hbold : name = "b".toList := by
      simpa [boldOverLines, Document.bold, Document.elementNames] using hname
    rw [hbold]
    exact ⟨_, rfl, rfl⟩
  refine ⟨hoptions, hfits, hembedded, ?_⟩
  obtain ⟨hline, -, -⟩ := format_line ⟨headingRules options, []⟩ [] headingTag boldOverLines
    headingEnd ⟨options, _⟩ rfl hoptions hfits hembedded
  rw [hline]
  decide +kernel

/-- A heading around bold text of two lines. By its nesting the heading holds all of it, for the
newline belongs to the bold text; but the newline ends the heading. -/
theorem format_newlineInBold :
    let parser : TagParser := ⟨headingRules { newlineCloses := true }, []⟩
    let body : Document := .leaf "a".toList (.bold "x\ny".toList (.leaf "c".toList .nil))
    let heading : Document := .element headingTag body headingEnd .nil
    body.Fits parser.rules ∧ heading.text = "[h]a[B]x\ny[/b]c[/h]".toList ∧
      (heading.format parser []).result = .ok "<h>a<b>x\ny</b>c</h>".toList ∧
      (heading.format parser []).calls.map Call.value =
        ["x\ny".toList, "a<b>x\ny</b>c".toList] ∧
      (parser.format heading.text []).result = .ok "<h>a<b>x</b></h>yc".toList ∧
      (parser.format heading.text []).calls.map Call.value = ["x".toList, "a<b>x</b>".toList] := by
  decide +kernel

end Dispatch.Markup
