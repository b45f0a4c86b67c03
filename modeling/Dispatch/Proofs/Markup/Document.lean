import Dispatch.Proofs.Markup.Formatting

/-!
# Documents

A document is markup whose tags are nested: plain text, single tags, and elements that hold a
document between an opening and a closing tag. This file fixes

* its text (`Document.text`) and, for given names, its tokens (`Document.tokens`), which are those of
  the text (`spelled_document`);
* when rules read the text as it is nested (`Document.Fits`): then a tag around a part of it passes
  that part over (`Document.passes`);
* its value (`Document.evaluate`), by recursion over the nesting and without tokens.
-/

namespace Dispatch.Markup

/-! ## 1. Tags -/

/-- An opening tag as it is written: read alone, the text is that tag. -/
structure OpeningTag where
  name : Text
  attributes : Attributes
  raw : Text
  reads : tokenize (fun _ => true) raw = [.opening name attributes raw]

/-- A closing tag of a name as it is written: read alone, the text is that tag. -/
structure ClosingTag (name : Text) where
  raw : Text
  reads : tokenize (fun _ => true) raw = [.closing name raw]

/-- The tokens of a tag, which is plain text if its name is not known. -/
def Tag.spelled (known : Text → Bool) (raw : Text) (tag : Tag) : List Token :=
  if known tag.name then [tag.token raw] else raw.map Token.ofChar

namespace OpeningTag

/-- What the tag says. -/
def tag (opening : OpeningTag) : Tag := .opening opening.name opening.attributes

theorem isSpan (opening : OpeningTag) :
    IsSpan opening.raw ∧ Tag.ofSpan? opening.raw = some opening.tag := by
  obtain ⟨hspan, htag, -⟩ := tokenize_eq_tag_iff.mp
    (show tokenize (fun _ => true) opening.raw = [opening.tag.token opening.raw] from opening.reads)
  exact ⟨hspan, htag⟩

/-- A text that a parser reads as an opening tag and nothing else. -/
def ofTokens {known : Text → Bool} {name : Text} {attributes : Attributes} {raw : Text}
    (h : tokenize known raw = [.opening name attributes raw]) : OpeningTag where
  name := name
  attributes := attributes
  raw := raw
  reads :=
    have hread := (@tokenize_eq_tag_iff known raw (.opening name attributes)).mp h
    (@tokenize_eq_tag_iff _ raw (.opening name attributes)).mpr ⟨hread.1, hread.2.1, rfl⟩

end OpeningTag

namespace ClosingTag

/-- What the tag says. -/
def tag {name : Text} (_ : ClosingTag name) : Tag := .closing name

theorem isSpan {name : Text} (closing : ClosingTag name) :
    IsSpan closing.raw ∧ Tag.ofSpan? closing.raw = some closing.tag := by
  obtain ⟨hspan, htag, -⟩ := tokenize_eq_tag_iff.mp
    (show tokenize (fun _ => true) closing.raw = [closing.tag.token closing.raw] from closing.reads)
  exact ⟨hspan, htag⟩

end ClosingTag

/-- A tag in front of a text puts its token, or its characters, in front of the tokens. -/
theorem spelled_tag_append (known : Text → Bool) {raw : Text} {tag : Tag}
    (h : IsSpan raw ∧ Tag.ofSpan? raw = some tag) (behind : Text) :
    spelled known (raw ++ behind) = tag.spelled known raw ++ spelled known behind := by
  rw [h.1.spelled_append, Tag.spelled]
  congr 1
  rcases Token.ofSpan_cases known raw true with ⟨other, -, hother, hknown, htag⟩ | ⟨htext, hno⟩
  · obtain rfl : tag = other := Option.some.inj (h.2.symm.trans hother)
    rw [htag, if_pos hknown, Token.spell_cons, Tag.letters_token]
    rfl
  · rw [htext, hno tag rfl h.2, if_neg Bool.false_ne_true, Token.spell_ofText]

theorem notMem_newline_of_tag {raw : Text} {tag : Tag} (h : Tag.ofSpan? raw = some tag) :
    '\n' ∉ raw := by
  intro hmem
  have hany : raw.any Tag.isLineEnd = true := List.any_eq_true.mpr ⟨'\n', hmem, rfl⟩
  unfold Tag.ofSpan? at h
  rw [if_pos hany] at h
  cases h

/-! ## 2. Documents and their texts -/

/-- Nested markup, as a row of pieces: each constructor puts one in front of the rest. -/
inductive Document where
  | nil
  /-- A piece of text. -/
  | leaf (text : Text) (rest : Document)
  /-- A tag that has no body. -/
  | single (tag : OpeningTag) (rest : Document)
  /-- A tag with its body and its closing tag. -/
  | element (tag : OpeningTag) (body : Document) (closing : ClosingTag tag.name) (rest : Document)

namespace Document

/-- The document as it is written. -/
def text : Document → Text
  | .nil => []
  | .leaf text rest => text ++ rest.text
  | .single tag rest => tag.raw ++ rest.text
  | .element tag body closing rest => tag.raw ++ body.text ++ closing.raw ++ rest.text

/-- The names of the elements, at any depth. -/
def elementNames : Document → List Text
  | .nil => []
  | .leaf _ rest => rest.elementNames
  | .single _ rest => rest.elementNames
  | .element tag body _ rest => tag.name :: body.elementNames ++ rest.elementNames

/-- The tokens of the document, spelled out. -/
def tokens (known : Text → Bool) : Document → List Token
  | .nil => []
  | .leaf text rest => text.map Token.ofChar ++ rest.tokens known
  | .single tag rest => tag.tag.spelled known tag.raw ++ rest.tokens known
  | .element tag body closing rest =>
    tag.tag.spelled known tag.raw ++ body.tokens known ++ closing.tag.spelled known closing.raw
      ++ rest.tokens known

/-- The rules read the document as it is nested. Its text holds no opening bracket. A tag without a
body has no rule or one that stands alone; an element has no rule or one with a body. A body that
newlines close holds no newline, and a body that ends at the next tag of its own name holds no
such element. Tags of names without a rule may stand anywhere. -/
def Fits (rules : Rules) : Document → Prop
  | .nil => True
  | .leaf text rest => '[' ∉ text ∧ rest.Fits rules
  | .single tag rest =>
    (∀ rule, Dict.get? tag.name rules = some rule → rule.options.standalone = true)
      ∧ rest.Fits rules
  | .element tag body _ rest =>
    (∀ rule, Dict.get? tag.name rules = some rule →
      rule.options.standalone = false ∧
        (rule.options.newlineCloses = true → '\n' ∉ body.text) ∧
        (rule.options.sameTagCloses = true ∨ rule.options.renderEmbedded = false →
          tag.name ∉ body.elementNames))
      ∧ body.Fits rules ∧ rest.Fits rules

instance decidableForallRule {p : Rule → Prop} [DecidablePred p] :
    (found : Option Rule) → Decidable (∀ rule, found = some rule → p rule)
  | none => .isTrue fun _ h => nomatch h
  | some rule =>
    decidable_of_iff (p rule) ⟨fun h _ hrule => Option.some.inj hrule ▸ h, fun h => h rule rfl⟩

instance decidableFits (rules : Rules) : (doc : Document) → Decidable (doc.Fits rules)
  | .nil => .isTrue trivial
  | .leaf text rest =>
    have := decidableFits rules rest
    inferInstanceAs (Decidable ('[' ∉ text ∧ rest.Fits rules))
  | .single tag rest =>
    have := decidableFits rules rest
    inferInstanceAs (Decidable ((∀ rule, Dict.get? tag.name rules = some rule →
      rule.options.standalone = true) ∧ rest.Fits rules))
  | .element tag body _ rest =>
    have := decidableFits rules body
    have := decidableFits rules rest
    inferInstanceAs (Decidable ((∀ rule, Dict.get? tag.name rules = some rule →
      rule.options.standalone = false ∧
        (rule.options.newlineCloses = true → '\n' ∉ body.text) ∧
        (rule.options.sameTagCloses = true ∨ rule.options.renderEmbedded = false →
          tag.name ∉ body.elementNames)) ∧ body.Fits rules ∧ rest.Fits rules))

/-- The tokens of a document's text are those of the document, whatever stands behind it. -/
theorem spelled_append {rules : Rules} (known : Text → Bool) {doc : Document} (h : doc.Fits rules)
    (behind : Text) :
    spelled known (doc.text ++ behind) = doc.tokens known ++ spelled known behind := by
  induction doc generalizing behind with
  | nil => rfl
  | leaf text rest ih =>
    rw [Document.text, tokens, List.append_assoc, spelled_append_of_plain known h.1, ih h.2,
      List.append_assoc]
  | single tag rest ih =>
    rw [Document.text, tokens, List.append_assoc, spelled_tag_append known tag.isSpan, ih h.2,
      List.append_assoc]
  | element tag body closing rest ihbody ihrest =>
    obtain ⟨-, hbody, hrest⟩ := h
    simp only [Document.text, tokens, List.append_assoc]
    rw [spelled_tag_append known tag.isSpan, ihbody hbody,
      spelled_tag_append known closing.isSpan, ihrest hrest]

theorem spelled_text {rules : Rules} (known : Text → Bool) {doc : Document} (h : doc.Fits rules) :
    spelled known doc.text = doc.tokens known := by
  have hend := spelled_append known h []
  rwa [List.append_nil, spelled_nil, List.append_nil] at hend

/-! ## 3. A tag around a document -/

section Around

variable {rules : Rules} {name : Text} {rule : Rule}

theorem passes_tag {raw : Text} {tag : Tag} (h : Tag.ofSpan? raw = some tag)
    (hname : tag.name ≠ name) (known : Text → Bool) :
    Closing.Passes name rule.options (tag.spelled known raw) := by
  rw [Tag.spelled]
  split
  · cases tag with
    | opening other attributes => exact Closing.passes_opening hname attributes raw
    | closing other => exact Closing.passes_closing hname raw
  · exact Closing.passes_plain fun _ => notMem_newline_of_tag h

/-- **A tag passes a document inside it over**: nothing in it ends the tag. -/
theorem passes (hrule : Dict.get? name rules = some rule) (hbody : rule.options.standalone = false)
    {doc : Document} (h : doc.Fits rules)
    (hnewline : rule.options.newlineCloses = true → '\n' ∉ doc.text)
    (hname : rule.options.sameTagCloses = true ∨ rule.options.renderEmbedded = false →
      name ∉ doc.elementNames) :
    Closing.Passes name rule.options (doc.tokens rules.knows) := by
  induction doc with
  | nil => exact Closing.passes_nil
  | leaf text rest ih =>
    refine (Closing.passes_plain fun hon hmem => ?_).append (ih h.2 (fun hon hmem => ?_) hname)
    · exact hnewline hon (List.mem_append_left _ hmem)
    · exact hnewline hon (List.mem_append_right _ hmem)
  | single tag rest ih =>
    refine (passes_tag tag.isSpan.2 (fun he => ?_) _).append (ih h.2 (fun hon hmem => ?_) hname)
    · have halone := h.1 rule (by rw [show tag.name = name from he, hrule])
      rw [hbody] at halone
      cases halone
    · exact hnewline hon (List.mem_append_right _ hmem)
  | element tag body closing rest ihbody ihrest =>
    obtain ⟨-, hfits, hrest⟩ := h
    simp only [Document.text, List.mem_append, not_or] at hnewline
    simp only [elementNames, List.mem_append, List.mem_cons, not_or] at hname
    have hinner := ihbody hfits (fun hon => (hnewline hon).1.1.2) fun hon => (hname hon).1.2
    have houter := ihrest hrest (fun hon => (hnewline hon).2) fun hon => (hname hon).2
    refine Closing.Passes.append ?_ houter
    by_cases he : tag.name = name
    · -- an element of the same name stands here only if such elements nest
      subst he
      have hnest := fun hon => (hname hon).1.1 rfl
      obtain ⟨hsame, hembedded⟩ := not_or.mp hnest
      have hknown := Rules.knows_of_get? hrule
      have hopening : tag.tag.spelled rules.knows tag.raw =
          [.opening tag.name tag.attributes tag.raw] := if_pos hknown
      have hclosing : closing.tag.spelled rules.knows closing.raw =
          [.closing tag.name closing.raw] := if_pos hknown
      rw [hopening, hclosing]
      exact hinner.nest (Bool.eq_false_iff.mpr hsame) (Bool.of_not_eq_false hembedded) _ _ _
    · exact ((passes_tag tag.isSpan.2 he _).append hinner).append
        (passes_tag closing.isSpan.2 he _)

end Around

/-! ## 4. The value of a document -/

/-- The text without a newline at its start, if one is swallowed. -/
def swallowed (swallows : Bool) (text : Text) : Text :=
  match swallows, text with
  | true, '\n' :: rest => rest
  | _, text => text

/-- The value of a document by its nesting, behind a piece that swallows a newline or not. The
pieces are taken from left to right, the body of an element before the element; a body that is
taken raw is handed over as it is written. Tags without a rule are copied. -/
def evaluate (rules : Rules) (context : Context) :
    (parent : Option ParentTag) → (swallows : Bool) → Document → Formatting Text
  | _, _, .nil => return []
  | parent, swallows, .leaf text rest => do
    let behind ← evaluate rules context parent (swallows && text.isEmpty) rest
    return swallowed swallows text ++ behind
  | parent, _, .single tag rest =>
    match Dict.get? tag.name rules with
    | none => do
      let behind ← evaluate rules context parent false rest
      return tag.raw ++ behind
    | some rule => do
      let text ← invoke rule.formatter ⟨tag.name, [], tag.attributes, parent, context⟩
      let behind ← evaluate rules context parent false rest
      return text ++ behind
  | parent, _, .element tag body closing rest =>
    match Dict.get? tag.name rules with
    | none => do
      let inner ← evaluate rules context parent false body
      let behind ← evaluate rules context parent false rest
      return tag.raw ++ inner ++ closing.raw ++ behind
    | some rule => do
      let inner ←
        if rule.options.renderEmbedded then
          evaluate rules context (some ⟨tag.name, rule.options⟩) false body
        else pure body.text
      let value := if rule.options.strip then Text.trim inner else inner
      let text ← invoke rule.formatter ⟨tag.name, value, tag.attributes, parent, context⟩
      let behind ← evaluate rules context parent rule.options.swallowTrailingNewline rest
      return text ++ behind

/-- What a parser makes of a document: its value after the calls that the formatters have had. -/
def format (parser : TagParser) (context : Context) (doc : Document) : Formatted :=
  (doc.evaluate parser.rules context none false).outcome parser.history

end Document

end Dispatch.Markup
