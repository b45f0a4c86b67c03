import Dispatch.Proofs.Markup.Spelling
import Dispatch.Proofs.Markup.WrittenTags

/-!
# Values in quotes

A tag may be written with every value in quotes, and with a backslash before each quote and each
backslash in it (`QuotedTag.text`). Two scans read that text. The attribute scan takes the
backslashes off again and finds every value, whatever it holds (`QuotedTag.ofSpan?_text`). The
bracket scan knows no backslash: for it a quote inside a value ends the quoted region, and a bracket
behind that quote ends the tag. So such a tag is read back exactly if the bracket scan takes it for
one span, which it does as long as no value holds a bracket or an equals sign behind a quote. Main
statement: `tokenize_quotedTag`.
-/

namespace Dispatch.Markup

/-! ## 1. Tags with values in quotes -/

/-- An attribute whose value is written in double quotes, on one line. -/
structure QuotedAttribute where
  key : Text
  value : Text
  validKey : isValidName key = true
  oneLine : value.any Tag.isLineEnd = false

namespace QuotedAttribute

/-- The value with the quotes around it. -/
def quoted (entry : QuotedAttribute) : Text :=
  '"' :: escapeValue '"' entry.value ++ ['"']

/-- The attribute as it is written behind the name of a tag or another attribute. -/
def text (entry : QuotedAttribute) : Text :=
  ' ' :: entry.key ++ '=' :: entry.quoted

end QuotedAttribute

/-- A tag with values in double quotes. -/
structure QuotedTag where
  name : Text
  attributes : List QuotedAttribute
  validName : isValidName name = true

namespace QuotedTag

/-- What stands between the brackets. -/
def inner (tag : QuotedTag) : Text := tag.name ++ tag.attributes.flatMap QuotedAttribute.text

/-- The tag as it is written. -/
def text (tag : QuotedTag) : Text := '[' :: tag.inner ++ [']']

/-- The values by their keys: they are trimmed, and the last one of a key counts. -/
def values (tag : QuotedTag) : Attributes :=
  Dict.ofList (tag.attributes.map fun entry => (entry.key, Text.trim entry.value))

/-- The token that the tag stands for. -/
def token (tag : QuotedTag) : Token := .opening tag.name tag.values tag.text

end QuotedTag

/-! ## 2. The attribute scan -/

/-- The attribute as one whose value stands in double quotes. -/
def QuotedAttribute.written (entry : QuotedAttribute) : WrittenAttribute where
  key := entry.key
  value := .quoted '"' entry.value rfl entry.oneLine
  validKey := entry.validKey

namespace QuotedTag

/-- The tag as one whose values stand in double quotes. -/
def written (tag : QuotedTag) : WrittenTag where
  name := tag.name
  own := none
  attributes := tag.attributes.map QuotedAttribute.written
  validName := tag.validName

/-- **The attribute scan reads every tag with values in quotes**, whatever the values hold. -/
theorem ofSpan?_text (tag : QuotedTag) :
    Tag.ofSpan? tag.text = some (.opening tag.name tag.values) := by
  have htext : tag.written.text = tag.text := by
    simp only [WrittenTag.text, text, WrittenTag.inner, inner, written, List.flatMap_map]
    rfl
  have hvalues : tag.written.values = tag.values := by
    simp only [WrittenTag.values, values, WrittenTag.entries, WrittenTag.keyed, written,
      List.map_map]
    rfl
  have hread := tag.written.ofSpan?_text
  rw [htext, hvalues] at hread
  exact hread

end QuotedTag

/-! ## 3. The bracket scan -/

namespace Quoting

theorem isQuote_of_plain (q : Char) (h : Quoting.plain = .inside q) : isQuote q = true :=
  nomatch h

/-- Only a quote opens a quoted region. -/
theorem isQuote_of_next {state : Quoting} (hstate : ∀ q, state = .inside q → isQuote q = true)
    (c q : Char) (h : state.next c = .inside q) : isQuote q = true := by
  cases state with
  | plain =>
    rw [next] at h
    split at h <;> cases h
  | allowed =>
    rw [next] at h
    split at h
    · next hquote =>
      obtain rfl := Quoting.inside.inj h
      exact hquote
    · cases h
  | inside quote =>
    rw [next] at h
    split at h
    · cases h
    · exact hstate q h

variable {state between after : Quoting}

/-- The bracket scan passes over a text and then goes on as `after` says. -/
def Crosses (state : Quoting) (text : Text) (after : Quoting) : Prop :=
  ∀ behind, Bracket.scan state (text ++ behind) =
    { Bracket.scan after behind with inner := text ++ (Bracket.scan after behind).inner }

theorem Crosses.append {first second : Text} (hfirst : state.Crosses first between)
    (hsecond : between.Crosses second after) : state.Crosses (first ++ second) after := by
  intro behind
  rw [List.append_assoc, hfirst, hsecond, List.append_assoc]

/-- A character is passed over if it is no bracket, or if brackets do not count. -/
theorem crosses_char {c : Char} (h : state.outside = true → c ≠ '[' ∧ c ≠ ']') :
    state.Crosses [c] (state.next c) := by
  intro behind
  have hopen : ¬(state.outside && decide (c = '[')) = true := fun hboth =>
    (h (Bool.and_eq_true_iff.mp hboth).1).1 (of_decide_eq_true (Bool.and_eq_true_iff.mp hboth).2)
  have hclose : ¬(state.outside && decide (c = ']')) = true := fun hboth =>
    (h (Bool.and_eq_true_iff.mp hboth).1).2 (of_decide_eq_true (Bool.and_eq_true_iff.mp hboth).2)
  rw [List.singleton_append, Bracket.scan_step hopen hclose]
  rfl

/-- A text is passed over if no character of it changes how the next one is read. -/
theorem crosses_same {text : Text}
    (h : ∀ c ∈ text, state.next c = state ∧ (state.outside = true → c ≠ '[' ∧ c ≠ ']')) :
    state.Crosses text state := by
  induction text with
  | nil => exact fun _ => rfl
  | cons c text ih =>
    obtain ⟨hnext, hbracket⟩ := h c List.mem_cons_self
    have hfirst : state.Crosses [c] state := by
      have hchar := crosses_char hbracket
      rwa [hnext] at hchar
    exact hfirst.append (ih fun d hd => h d (List.mem_cons_of_mem _ hd))

/-- Where no quote counts, all is passed over but brackets and equals signs. -/
theorem crosses_plain {text : Text} (h : ∀ c ∈ text, c ≠ '[' ∧ c ≠ ']' ∧ c ≠ '=') :
    Quoting.plain.Crosses text .plain := by
  refine crosses_same fun c hc => ?_
  obtain ⟨hopen, hclose, hequals⟩ := h c hc
  exact ⟨if_neg hequals, fun _ => ⟨hopen, hclose⟩⟩

/-- Inside quotes, all is passed over but the quote. -/
theorem crosses_inside {quote : Char} {text : Text} (h : quote ∉ text) :
    (Quoting.inside quote).Crosses text (.inside quote) := by
  refine crosses_same fun c hc => ⟨?_, fun houtside => Bool.noConfusion houtside⟩
  have hne : c ≠ quote := fun he => h (he ▸ hc)
  exact if_neg hne

end Quoting

/-- From its first double quote on, the value holds no bracket and no equals sign. -/
def Quotable (value : Text) : Prop :=
  ∀ c ∈ value.dropWhile (· ≠ '"'), c ≠ '[' ∧ c ≠ ']' ∧ c ≠ '='

instance (value : Text) : Decidable (Quotable value) :=
  List.decidableBAll (fun c => c ≠ '[' ∧ c ≠ ']' ∧ c ≠ '=') (value.dropWhile (· ≠ '"'))

theorem escapeValue_append (quote : Char) (first second : Text) :
    escapeValue quote (first ++ second) = escapeValue quote first ++ escapeValue quote second :=
  List.flatMap_append

/-- **The bracket scan ends a quotable value where it is written to end.** -/
theorem Quotable.crosses {value : Text} (h : Quotable value) :
    Quoting.allowed.Crosses ('"' :: escapeValue '"' value ++ ['"']) .plain := by
  have hopens : Quoting.allowed.Crosses ['"'] (.inside '"') :=
    Quoting.crosses_char fun _ => by decide
  have hbefore : '"' ∉ value.takeWhile (· ≠ '"') := fun hmem => by
    simpa using List.all_eq_true.mp List.all_takeWhile '"' hmem
  have hstart : '"' ∉ escapeValue '"' (value.takeWhile (· ≠ '"')) := fun hmem =>
    (mem_escapeValue hmem).elim (by decide) hbefore
  have hsplit : escapeValue '"' value = escapeValue '"' (value.takeWhile (· ≠ '"'))
      ++ escapeValue '"' (value.dropWhile (· ≠ '"')) := by
    rw [← escapeValue_append, List.takeWhile_append_dropWhile]
  have hfront := hopens.append (Quoting.crosses_inside hstart)
  -- either no quote stands in the value, or the first one is taken for its end
  cases hrest : value.dropWhile (· ≠ '"') with
  | nil =>
    have hcloses : (Quoting.inside '"').Crosses ['"'] .plain :=
      Quoting.crosses_char fun houtside => Bool.noConfusion houtside
    rw [hsplit, hrest]
    simpa [escapeValue] using hfront.append hcloses
  | cons c behind =>
    have hquote : c = '"' := by
      have hhead := Text.dropWhile_head_not value (p := (· ≠ '"')) (c := c) (by rw [hrest]; rfl)
      simpa using hhead
    subst hquote
    have hquotes : (Quoting.inside '"').Crosses ['\\', '"'] .plain :=
      (Quoting.crosses_char (c := '\\') fun houtside => Bool.noConfusion houtside).append
        (Quoting.crosses_char (c := '"') fun houtside => Bool.noConfusion houtside)
    have hbehind : Quoting.plain.Crosses (escapeValue '"' behind) .plain := by
      refine Quoting.crosses_plain fun d hd => ?_
      rcases mem_escapeValue hd with rfl | hd
      · decide
      · exact h d (by rw [hrest]; exact List.mem_cons_of_mem _ hd)
    have hcloses : Quoting.plain.Crosses ['"'] .plain := Quoting.crosses_char fun _ => by decide
    rw [hsplit, hrest]
    simpa [escapeValue] using ((hfront.append hquotes).append hbehind).append hcloses

theorem crosses_name {name : Text} (h : isValidName name = true) :
    Quoting.plain.Crosses name .plain := by
  refine Quoting.crosses_plain fun c hc => ?_
  have hc := isNameChar_of_mem h hc
  exact ⟨ne_of_isNameChar hc (by decide), ne_of_isNameChar hc (by decide),
    ne_of_isNameChar hc (by decide)⟩

/-- Brackets around a text that is passed over make one span. -/
theorem isSpan_of_crosses {inner : Text} (h : Quoting.plain.Crosses inner .plain) :
    IsSpan ('[' :: (inner ++ [']'])) := by
  refine ⟨inner ++ [']'], rfl, ?_⟩
  rw [h]
  rfl

theorem QuotedAttribute.crosses (entry : QuotedAttribute) (h : Quotable entry.value) :
    Quoting.plain.Crosses entry.text .plain := by
  have hspace : Quoting.plain.Crosses [' '] .plain := Quoting.crosses_char fun _ => by decide
  have hequals : Quoting.plain.Crosses ['='] .allowed := Quoting.crosses_char fun _ => by decide
  have hall := ((hspace.append (crosses_name entry.validKey)).append hequals).append h.crosses
  simpa [QuotedAttribute.text, QuotedAttribute.quoted] using hall

namespace QuotedTag

/-- **A tag whose values are quotable is one whole span.** -/
theorem isSpan_text (tag : QuotedTag) (h : ∀ entry ∈ tag.attributes, Quotable entry.value) :
    IsSpan tag.text := by
  have hattributes : ∀ entries : List QuotedAttribute,
      (∀ entry ∈ entries, Quotable entry.value) →
      Quoting.plain.Crosses (entries.flatMap QuotedAttribute.text) .plain := by
    intro entries hentries
    induction entries with
    | nil => exact fun _ => rfl
    | cons entry entries ih =>
      have hfirst := entry.crosses (hentries entry List.mem_cons_self)
      exact hfirst.append (ih fun other hother => hentries other (List.mem_cons_of_mem _ hother))
  have hinner : Quoting.plain.Crosses tag.inner .plain :=
    (crosses_name tag.validName).append (hattributes tag.attributes h)
  exact isSpan_of_crosses hinner

end QuotedTag

/-! ## 4. Reading the tag back -/

/-- A whole span in front of a text puts its tokens in front of those of the text. -/
theorem IsSpan.tokenize_append {raw : Text} (h : IsSpan raw) (known : Text → Bool) (rest : Text) :
    tokenize known (raw ++ rest) = Token.ofSpan known raw true ++ tokenize known rest := by
  obtain ⟨inner, rfl, hscan⟩ := h
  have hclosed : (Bracket.scan .plain inner).closed = true := by rw [hscan]
  have htokens := tokenize_bracket known List.not_mem_nil (inner ++ rest)
  rw [Bracket.scan_append_of_closed hclosed, hscan] at htokens
  exact htokens

/-- **Which tags with quoted values are read back.** Such a tag stands for its token in front of
every text exactly if the bracket scan takes it for one span. It does as long as no value holds a
bracket or an equals sign behind a double quote, whatever else the values hold. -/
theorem tokenize_quotedTag (tag : QuotedTag) (known : Text → Bool)
    (hknown : known tag.name = true) :
    ((∀ rest, tokenize known (tag.text ++ rest) = tag.token :: tokenize known rest) ↔
      IsSpan tag.text) ∧
    ((∀ entry ∈ tag.attributes, Quotable entry.value) →
      ∀ rest, tokenize known (tag.text ++ rest) = tag.token :: tokenize known rest) := by
  have hspan : Token.ofSpan known tag.text true = [tag.token] := by
    simp only [Token.ofSpan, ↓reduceIte, tag.ofSpan?_text, hknown]
    rfl
  have hreads : IsSpan tag.text →
      ∀ rest, tokenize known (tag.text ++ rest) = tag.token :: tokenize known rest := by
    intro h rest
    rw [h.tokenize_append known rest, hspan]
    rfl
  refine ⟨⟨fun h => ?_, hreads⟩, fun h => hreads (tag.isSpan_text h)⟩
  have halone : tokenize known tag.text = [tag.token] := by
    have hempty := h []
    rwa [List.append_nil, tokenize_of_plain known List.not_mem_nil] at hempty
  have hwhole := (@tokenize_eq_tag_iff known tag.text (.opening tag.name tag.values)).mp halone
  exact hwhole.1

/-- A tag with a quoted bracket, quotes of both kinds, and a key that is given twice. -/
def saidTag : QuotedTag where
  name := "q".toList
  attributes :=
    [⟨"who".toList, "a]b\\".toList, by decide +kernel, by decide⟩,
     ⟨"say".toList, "x=[1] \"it's\" ".toList, by decide +kernel, by decide⟩,
     ⟨"who".toList, " c ".toList, by decide +kernel, by decide⟩]
  validName := by decide +kernel

theorem tokenize_saidTag :
    let known := fun name => decide (name = "q".toList)
    known saidTag.name = true ∧
      tokenize known (saidTag.text ++ "x[/q]".toList) =
        .opening "q".toList [("say".toList, "x=[1] \"it's\"".toList), ("who".toList, "c".toList)]
            saidTag.text :: tokenize known "x[/q]".toList := by
  refine ⟨by decide, ?_⟩
  have hvalues : saidTag.values =
      [("say".toList, "x=[1] \"it's\"".toList), ("who".toList, "c".toList)] := by
    decide +kernel
  obtain ⟨-, hreads⟩ := tokenize_quotedTag saidTag (fun name => decide (name = "q".toList))
    (by decide)
  have hquotable : ∀ entry ∈ saidTag.attributes, Quotable entry.value := by decide
  have htag := hreads hquotable "x[/q]".toList
  rw [QuotedTag.token, hvalues] at htag
  exact htag

/-- A tag with a bracket behind a quote in its value. -/
def bracketBehindQuote : QuotedTag where
  name := "q".toList
  attributes := [⟨"k".toList, "a\"]b".toList, by decide +kernel, by decide⟩]
  validName := by decide +kernel

/-- The bracket behind the quote ends the tag, and the rest of the value is plain text. -/
theorem tokenize_bracketBehindQuote :
    tokenize (fun _ => true) (bracketBehindQuote.text ++ []) =
        [.opening "q".toList [("k".toList, "a\"".toList)] "[q k=\"a\\\"]".toList,
          .data "b\"]".toList] ∧
      tokenize (fun _ => true) (bracketBehindQuote.text ++ []) ≠
        bracketBehindQuote.token :: tokenize (fun _ => true) [] := by
  constructor <;> decide +kernel

end Dispatch.Markup
