import Dispatch.Proofs.Markup.NewlineCloses

/-!
# Items of a list

A tag that the next tag of its name closes needs no closing tag: an item of a list ends where the
next item begins or where the text ends. It may also end at a closing tag or, if newlines close it,
at a newline, and each item of a list in its own way. Where an item has ended the next one begins:

* the search for the end passes the body of an item over and takes what ends the item, but not the
  opening tag of the next one (`bodyTokens_item`, `tokensBehind_item`);
* so an item is formatted by itself, as an element with its body is (`formatTokens_item`), and a row
  of items one by one (`formatTokens_items`).

Main statement: `format_items`.
-/

namespace Dispatch.Markup

/-! ## 1. Items -/

/-- What is written at the end of an item: nothing, a closing tag, or a newline. -/
inductive ItemEnd (name : Text) where
  | nothing
  | closing (tag : ClosingTag name)
  | newline

namespace ItemEnd

variable {name : Text}

def text : ItemEnd name → Text
  | .nothing => []
  | .closing tag => tag.raw
  | .newline => ['\n']

def tokens : ItemEnd name → List Token
  | .nothing => []
  | .closing tag => [.closing name tag.raw]
  | .newline => [.newline]

end ItemEnd

/-- An item: an opening tag of the name, a body, and an end. -/
structure Item (name : Text) where
  attributes : Attributes
  raw : Text
  reads : tokenize (fun _ => true) raw = [.opening name attributes raw]
  body : Document
  ending : ItemEnd name

namespace Item

variable {name : Text}

/-- The opening tag of the item. -/
def tag (item : Item name) : OpeningTag := ⟨name, item.attributes, item.raw, item.reads⟩

/-- The item as it is written. -/
def text (item : Item name) : Text := item.raw ++ item.body.text ++ item.ending.text

/-- The tokens of the item, spelled out, if its name is known. -/
def tokens (known : Text → Bool) (item : Item name) : List Token :=
  .opening name item.attributes item.raw :: (item.body.tokens known ++ item.ending.tokens)

/-- The rules read the item as it is written: its body is nested as they allow and holds no item of
the same name, and newlines are in it and behind it as they are allowed to be. -/
structure Fits (rules : Rules) (options : TagOptions) (item : Item name) : Prop where
  body : item.body.Fits rules
  unnested : name ∉ item.body.elementNames
  oneLine : options.newlineCloses = true → '\n' ∉ item.body.text
  ending : item.ending = .newline → options.newlineCloses = true

/-- What is made of an item. -/
def evaluate (rules : Rules) (context : Context) (parent : Option ParentTag) (rule : Rule)
    (item : Item name) : Formatting Text := do
  let inner ←
    if rule.options.renderEmbedded then
      item.body.evaluate rules context (some ⟨name, rule.options⟩) false
    else pure item.body.text
  invoke rule.formatter ⟨name, rule.options.stripped inner, item.attributes, parent, context⟩

end Item

/-- What is made of a row of items. -/
def evaluateItems {name : Text} (rules : Rules) (context : Context) (parent : Option ParentTag)
    (rule : Rule) : List (Item name) → Formatting Text
  | [] => return []
  | item :: items => do
    let text ← item.evaluate rules context parent rule
    let behind ← evaluateItems rules context parent rule items
    return text ++ behind

/-! ## 2. The tokens of items -/

section Spelled

variable {rules : Rules} {name : Text} {rule : Rule}

theorem spelled_ending (hknown : rules.knows name = true) (ending : ItemEnd name) (behind : Text) :
    spelled rules.knows (ending.text ++ behind) = ending.tokens ++ spelled rules.knows behind := by
  cases ending with
  | nothing => rfl
  | closing tag =>
    have htag : tag.tag.spelled rules.knows tag.raw = [.closing name tag.raw] := if_pos hknown
    rw [ItemEnd.text, spelled_tag_append _ tag.isSpan, htag]
    rfl
  | newline => exact spelled_cons rules.knows (by decide) behind

theorem spelled_item (hknown : rules.knows name = true) {item : Item name}
    (hfits : item.Fits rules rule.options) (behind : Text) :
    spelled rules.knows (item.text ++ behind) =
      item.tokens rules.knows ++ spelled rules.knows behind := by
  have hopening : item.tag.tag.spelled rules.knows item.tag.raw =
      [.opening name item.attributes item.raw] := if_pos hknown
  have htext : item.text ++ behind =
      item.tag.raw ++ (item.body.text ++ (item.ending.text ++ behind)) := by
    simp [Item.text, Item.tag]
  rw [htext, spelled_tag_append _ item.tag.isSpan, Document.spelled_append _ hfits.body,
    spelled_ending hknown, hopening, Item.tokens]
  simp

theorem spelled_items (hknown : rules.knows name = true) {items : List (Item name)}
    (hfits : ∀ item ∈ items, item.Fits rules rule.options) :
    spelled rules.knows (items.flatMap Item.text) =
      items.flatMap (Item.tokens rules.knows) := by
  induction items with
  | nil => exact spelled_nil rules.knows
  | cons item items ih =>
    have hrest := ih fun other hother => hfits other (List.mem_cons_of_mem item hother)
    rw [List.flatMap_cons, spelled_item hknown (hfits item List.mem_cons_self), hrest,
      List.flatMap_cons]

end Spelled

/-! ## 3. Where an item ends -/

/-- The tokens are at their end or at an opening tag of the name. -/
def AtItem (name : Text) (tokens : List Token) : Prop :=
  tokens = [] ∨ ∃ attributes raw rest, tokens = .opening name attributes raw :: rest

theorem atItem_items {name : Text} (known : Text → Bool) (items : List (Item name)) :
    AtItem name (items.flatMap (Item.tokens known)) := by
  cases items with
  | nil => exact Or.inl rfl
  | cons item items => exact Or.inr ⟨item.attributes, item.raw, _, rfl⟩

theorem AtItem.dropNewline {name : Text} {tokens : List Token} (h : AtItem name tokens) :
    dropNewline tokens = tokens := by
  rcases h with rfl | ⟨attributes, raw, rest, rfl⟩
  · rfl
  · rfl

section Cut

variable {name : Text} {options : TagOptions} {body behind : List Token} {ending : ItemEnd name}

/-- **The search ends right behind the body**, and it leaves the next item where it is. -/
theorem find_ending (hsame : options.sameTagCloses = true)
    (hending : ending = .newline → options.newlineCloses = true) (hbehind : AtItem name behind) :
    ∃ consumed, Closing.find name options 0 (ending.tokens ++ behind) = ⟨0, consumed⟩ ∧
      Closing.behind ⟨0, consumed⟩ (ending.tokens ++ behind) = behind := by
  cases ending with
  | nothing =>
    rcases hbehind with rfl | ⟨attributes, raw, rest, rfl⟩
    · exact ⟨true, rfl, rfl⟩
    · refine ⟨false, ?_, rfl⟩
      rw [ItemEnd.tokens, List.nil_append, Closing.find, if_pos rfl, if_pos hsame]
  | closing tag =>
    refine ⟨true, ?_, rfl⟩
    rw [ItemEnd.tokens, List.singleton_append, Closing.find, if_pos rfl]
  | newline =>
    refine ⟨true, ?_, rfl⟩
    rw [ItemEnd.tokens, List.singleton_append, Closing.find, if_pos (hending rfl)]

variable (hpasses : Closing.Passes name options body) (hsame : options.sameTagCloses = true)
  (hending : ending = .newline → options.newlineCloses = true) (hbehind : AtItem name behind)
include hpasses hsame hending hbehind

theorem bodyTokens_item : bodyTokens name options (body ++ (ending.tokens ++ behind)) = body := by
  obtain ⟨consumed, hfind, -⟩ := find_ending hsame hending hbehind
  rw [bodyTokens, hpasses, hfind, Closing.body_laterBy]
  exact List.append_nil body

theorem tokensBehind_item :
    tokensBehind name options (body ++ (ending.tokens ++ behind)) = behind := by
  obtain ⟨consumed, hfind, hrest⟩ := find_ending hsame hending hbehind
  rw [tokensBehind, hpasses, hfind, Closing.behind_laterBy, hrest, hbehind.dropNewline, ite_self]

end Cut

/-! ## 4. Formatting items -/

section Formatting

variable {rules : Rules} {context : Context} {parent : Option ParentTag} {name : Text} {rule : Rule}

section Item

variable {item : Item name} {behind : List Token}

/-- The tag of an item passes the body of the item over. -/
theorem Item.Fits.passes (hfits : item.Fits rules rule.options)
    (hrule : Dict.get? name rules = some rule) (hbody : rule.options.standalone = false) :
    Closing.Passes name rule.options (item.body.tokens rules.knows) :=
  Document.passes hrule hbody hfits.body hfits.oneLine fun _ => hfits.unnested

/-- **An item is formatted by itself**, and what stands behind it follows. -/
theorem formatTokens_item (hfits : item.Fits rules rule.options)
    (hrule : Dict.get? name rules = some rule) (hsame : rule.options.sameTagCloses = true)
    (hbody : rule.options.standalone = false) (hbehind : AtItem name behind) :
    formatTokens rules context parent (item.tokens rules.knows ++ behind) = do
      let text ← item.evaluate rules context parent rule
      let others ← formatTokens rules context parent behind
      return text ++ others := by
  have hpasses := hfits.passes hrule hbody
  have hinner : Document.Evaluates rules context item.body := Document.evaluates_of_fits hfits.body
  rw [Item.tokens, List.cons_append, List.append_assoc,
    formatTokens_element _ _ _ hrule hbody,
    bodyTokens_item hpasses hsame hfits.ending hbehind,
    tokensBehind_item hpasses hsame hfits.ending hbehind,
    Document.rawText_tokens hfits.body, hinner.alone, Item.evaluate]
  cases hembedded : rule.options.renderEmbedded with
  | true =>
    simp only [↓reduceIte, bind_assoc]
    rfl
  | false =>
    simp only [Bool.false_eq_true, ↓reduceIte, pure_bind]
    rfl

/-- The call for an item stands between the calls for its body and those for the items behind it. -/
theorem calls_item (hfits : item.Fits rules rule.options)
    (hrule : Dict.get? name rules = some rule) (hsame : rule.options.sameTagCloses = true)
    (hbody : rule.options.standalone = false) (hbehind : AtItem name behind)
    {made calls : List Call} {out : Text}
    (h : Formats rules context parent made (item.tokens rules.knows ++ behind) (.ok out) calls) :
    ∃ value earlier others later,
      calls.filter (fun call => call.tag = name) =
        ⟨name, value, item.attributes, parent, context⟩ ::
          later.filter (fun call => call.tag = name) ∧
      Formats rules context parent earlier behind (.ok others) later := by
  have hpasses := hfits.passes hrule hbody
  rw [Item.tokens, List.cons_append, List.append_assoc] at h
  obtain ⟨inside, value, earlier, others, later, rfl, hinside, hlater⟩ := h.calls_inv hrule
  rw [bodyTokens_item hpasses hsame hfits.ending hbehind] at hinside
  rw [TagOptions.following_of_body hbody,
    tokensBehind_item hpasses hsame hfits.ending hbehind] at hlater
  have hnone : inside.filter (fun call => call.tag = name) = [] := by
    refine hinside name fun attributes raw hmem => ?_
    -- an opening tag of the name would be that of an element, for the tag does not stand alone
    rcases Document.element_or_alone_of_opening_mem hfits.body hmem with helement | halone
    · exact hfits.unnested helement
    · exact Bool.false_ne_true (hbody.symm.trans (halone rule hrule))
  refine ⟨value, earlier, others, later, ?_, hlater⟩
  rw [List.filter_append, hnone, List.nil_append, List.filter_cons, if_pos (decide_eq_true rfl)]

end Item

variable {items : List (Item name)}

/-- **A row of items is formatted item by item.** -/
theorem formatTokens_items (hfits : ∀ item ∈ items, item.Fits rules rule.options)
    (hrule : Dict.get? name rules = some rule) (hsame : rule.options.sameTagCloses = true)
    (hbody : rule.options.standalone = false) :
    formatTokens rules context parent (items.flatMap (Item.tokens rules.knows)) =
      evaluateItems rules context parent rule items := by
  induction items with
  | nil => exact formatTokens_nil
  | cons item items ih =>
    have hrest := ih fun other hother => hfits other (List.mem_cons_of_mem item hother)
    have hbehind := atItem_items rules.knows items
    rw [List.flatMap_cons, formatTokens_item (hfits item List.mem_cons_self) hrule hsame hbody
      hbehind, hrest, evaluateItems]

/-- A run that succeeds makes one call for every item. -/
theorem calls_items (hfits : ∀ item ∈ items, item.Fits rules rule.options)
    (hrule : Dict.get? name rules = some rule) (hsame : rule.options.sameTagCloses = true)
    (hbody : rule.options.standalone = false) {made calls : List Call} {out : Text}
    (h : Formats rules context parent made (items.flatMap (Item.tokens rules.knows)) (.ok out)
      calls) :
    (calls.filter fun call => call.tag = name).map (fun call => (call.attributes, call.parent)) =
      items.map fun item => (item.attributes, parent) := by
  induction items generalizing made calls out with
  | nil =>
    have hnone : calls.filter (fun call => call.tag = name) = [] :=
      h.filter_eq_nil fun _ _ => List.not_mem_nil
    rw [hnone]
    rfl
  | cons item items ih =>
    rw [List.flatMap_cons] at h
    obtain ⟨value, earlier, others, later, hcalls, hlater⟩ := calls_item
      (hfits item List.mem_cons_self) hrule hsame hbody (atItem_items rules.knows items) h
    have hrest := ih (fun other hother => hfits other (List.mem_cons_of_mem item hother)) hlater
    rw [hcalls, List.map_cons, hrest, List.map_cons]

end Formatting

/-- **Lists.** If the next tag of its name closes a tag, then a row of items is made the values of
the items one behind the other, whichever way each of them ends, and the formatter of the tag is
called once for every item, in order and without a parent. -/
theorem format_items (parser : TagParser) (context : Context) {name : Text} {rule : Rule}
    (items : List (Item name)) (hrule : Dict.get? name parser.rules = some rule)
    (hsame : rule.options.sameTagCloses = true) (hbody : rule.options.standalone = false)
    (hfits : ∀ item ∈ items, item.Fits parser.rules rule.options) :
    let formatted := parser.format (items.flatMap Item.text) context
    formatted =
        (evaluateItems parser.rules context none rule items).outcome parser.history ∧
      ∀ out, formatted.result = .ok out →
        (formatted.calls.filter fun call => call.tag = name).map
            (fun call => (call.attributes, call.parent)) =
          items.map fun item => (item.attributes, none) := by
  intro formatted
  have htokens := spelled_items (Rules.knows_of_get? hrule) hfits
  have hvalue : formatted =
      (evaluateItems parser.rules context none rule items).outcome parser.history := by
    rw [← formatTokens_items hfits hrule hsame hbody, ← htokens]
    exact format_eq parser _ context
  refine ⟨hvalue, fun out hout => ?_⟩
  have hformats : Formats parser.rules context none parser.history
      (spelled parser.rules.knows (items.flatMap Item.text)) formatted.result formatted.calls :=
    format_formats parser _ context
  rw [htokens, hout] at hformats
  exact calls_items hfits hrule hsame hbody hformats

/-- Rules for bold text and for items with some options. -/
def listRules (options : TagOptions) : Rules :=
  [("b".toList, ⟨{}, .template ⟨"<b>%s</b>".toList,
      [.literal "<b>".toList, .body, .literal "</b>".toList]⟩⟩),
   ("li".toList, ⟨options, .template ⟨"<li>%s</li>".toList,
      [.literal "<li>".toList, .body, .literal "</li>".toList]⟩⟩)]

/-- An item without attributes. -/
def plainItem (body : Document) (ending : ItemEnd "li".toList) : Item "li".toList :=
  ⟨[], "[li]".toList, by decide +kernel, body, ending⟩

/-- Items that end at the next item, at a closing tag, at a newline and at the end of the text; one
of them has an empty body. -/
theorem format_mixedItems :
    let options : TagOptions :=
      { sameTagCloses := true, newlineCloses := true, strip := true,
        swallowTrailingNewline := true }
    let parser : TagParser := ⟨listRules options, []⟩
    let items : List (Item "li".toList) :=
      [plainItem (.leaf " a ".toList (.bold "x".toList .nil)) .nothing,
       plainItem .nil (.closing ⟨"[/LI]".toList, by decide +kernel⟩),
       plainItem (.leaf "b".toList .nil) .newline,
       plainItem (.leaf "c".toList .nil) .nothing]
    items.flatMap Item.text = "[li] a [B]x[/b][li][/LI][li]b\n[li]c".toList ∧
      (parser.format (items.flatMap Item.text) []).result =
        .ok "<li>a <b>x</b></li><li></li><li>b</li><li>c</li>".toList := by
  intro options parser items
  have hfits : ∀ item ∈ items, item.Fits parser.rules options := by
    intro item hitem
    simp only [items, List.mem_cons, List.not_mem_nil, or_false] at hitem
    rcases hitem with rfl | rfl | rfl | rfl
    · exact ⟨by decide +kernel, by decide +kernel, fun _ => by decide +kernel, fun _ => rfl⟩
    · exact ⟨by decide +kernel, by decide +kernel, fun _ => by decide +kernel, fun _ => rfl⟩
    · exact ⟨by decide +kernel, by decide +kernel, fun _ => by decide +kernel, fun _ => rfl⟩
    · exact ⟨by decide +kernel, by decide +kernel, fun _ => by decide +kernel, fun _ => rfl⟩
  refine ⟨by decide +kernel, ?_⟩
  obtain ⟨hvalue, -⟩ := format_items parser [] items rfl rfl rfl hfits
  rw [hvalue]
  decide +kernel

end Dispatch.Markup
