import Mathlib.Control.Monad.Basic
import Dispatch.Markup.Passes
import Dispatch.Proofs.Markup.Conservation

/-!
# Names in both passes

A tag that both passes have rules for is meant for the first one. The second pass reads the result
of the first as a new text, so it meets such a tag exactly if the result holds one
(`simple_untagged_iff`). The first pass can make one up itself, without any formatter: where it
takes a tag out right behind an open bracket, or cuts a span in two at a newline, what is left over
may join to a tag. In a text in which it does neither (`Unbroken`), no tag comes up but what a
formatter writes. Main statement: `format_precedence`.
-/

namespace Dispatch.Markup

/-! ## 1. What the second pass meets -/

/-- The text holds no opening tag that the rules know. -/
def Rules.Untagged (rules : Rules) (text : Text) : Prop :=
  Token.openings (spelled rules.knows text) = []

theorem openings_eq_nil_iff {tokens : List Token} :
    Token.openings tokens = [] ↔
      ∀ name attributes raw, .opening name attributes raw ∉ tokens := by
  rw [Token.openings, List.flatMap_eq_nil_iff]
  constructor
  · intro h name attributes raw hmem
    cases h _ hmem
  · intro h token hmem
    cases token with
    | data text => rfl
    | newline => rfl
    | opening name attributes raw => exact absurd hmem (h name attributes raw)
    | closing name raw => rfl

/-- **A parser calls no formatter for a name whose tags the text does not open.** -/
theorem not_knows_of_untagged {rules : Rules} {text : Text} (h : rules.Untagged text)
    (parser : TagParser) {context : Context} {call : Call}
    (hcall : call ∈ (parser.format text context).calls) : rules.knows call.tag = false := by
  obtain ⟨raw, hmem⟩ := (format_formats parser text context).opening_mem hcall
  have hany := ((@tag_mem_spelled_iff _ raw (.opening call.tag call.attributes) text).mp hmem).2
  refine Bool.eq_false_iff.mpr fun hknown => ?_
  exact openings_eq_nil_iff.mp h call.tag call.attributes raw
    ((@tag_mem_spelled_iff _ raw (.opening call.tag call.attributes) text).mpr ⟨hknown, hany⟩)

/-- Rules for the same names that copy every body. -/
def Rules.copying (rules : Rules) : Rules := rules.map fun (name, _) => (name, .copying {})

theorem get?_copying (rules : Rules) (name : Text) :
    Dict.get? name rules.copying = (Dict.get? name rules).map fun _ => .copying {} := by
  induction rules with
  | nil => rfl
  | cons entry rules ih =>
    obtain ⟨other, rule⟩ := entry
    rw [Rules.copying, List.map_cons, Dict.get?_cons, Dict.get?_cons]
    split
    · rfl
    · exact ih

theorem knows_copying (rules : Rules) : rules.copying.knows = rules.knows := by
  funext name
  rw [Rules.knows, Dict.contains, get?_copying, Option.isSome_map]
  rfl

theorem all_copying {rules : Rules} {p : Rule → Prop} (h : p (.copying {})) :
    rules.copying.All p := by
  intro name rule hrule
  rw [get?_copying] at hrule
  obtain ⟨_, -, rfl⟩ := Option.map_eq_some_iff.mp hrule
  exact h

/-- Formatters that copy are called for every tag that they know. -/
theorem untagged_of_copying {rules : Rules} {text : Text} {context : Context}
    (h : ∀ call ∈ (TagParser.format ⟨rules.copying, []⟩ text context).calls,
      rules.knows call.tag = false) : rules.Untagged text := by
  have hformats := format_formats ⟨rules.copying, []⟩ text context
  have hembedded : rules.copying.All fun rule => rule.options.renderEmbedded = true :=
    all_copying rfl
  have hknown : rules.copying.KnowsAll (spelled rules.copying.knows text) :=
    fun _ _ _ hmem => known_of_opening_mem hmem
  obtain ⟨out, hout, -⟩ := @Formats.filter_eq _ _ _ _ _ _ _ hformats hembedded
    (all_copying (copies_copying rfl)) hknown (fun _ => true) fun _ => all_copying ⟨rfl, rfl⟩
  have hperm := hformats.headings_perm hembedded hknown hout
  rw [knows_copying] at hperm
  rw [Rules.Untagged, openings_eq_nil_iff]
  intro name attributes raw hmem
  have hheading : (name, attributes) ∈ Token.openings (spelled rules.knows text) :=
    List.mem_flatMap.mpr ⟨_, hmem, List.mem_singleton_self _⟩
  obtain ⟨call, hcall, heq⟩ := List.mem_map.mp (hperm.mem_iff.mpr hheading)
  have hname : call.tag = name := congrArg Prod.fst heq
  have hunknown := h call hcall
  rw [hname, known_of_opening_mem hmem] at hunknown
  cases hunknown

/-! ## 2. Texts that the first pass does not break -/

/-- A tag that the rules know stands at the start of the text. -/
def Rules.TagAhead (rules : Rules) (text : Text) : Prop :=
  ∃ raw behind tag, text = raw ++ behind ∧ IsSpan raw ∧ Tag.ofSpan? raw = some tag ∧
    rules.knows tag.name = true

/-- No bracket is left open right in front of a tag that the rules know, and if a span of several
lines quotes a bracket, no tag is closed by newlines. -/
inductive Unbroken (rules : Rules) : Text → Prop
  | nil : Unbroken rules []
  | char {c rest} (hchar : c ≠ '[') (hrest : Unbroken rules rest) : Unbroken rules (c :: rest)
  | span {behind}
      (hopen : (Bracket.scan .plain behind).closed = false →
        ¬rules.TagAhead (Bracket.scan .plain behind).rest)
      (hlines : '\n' ∈ (Bracket.scan .plain behind).inner →
        '[' ∈ (Bracket.scan .plain behind).inner →
          rules.All fun rule => rule.options.newlineCloses = false)
      (hrest : Unbroken rules (Bracket.scan .plain behind).rest) : Unbroken rules ('[' :: behind)

namespace Unbroken

variable {rules : Rules} {name : Text} {rule : Rule}

theorem append_of_plain {start text : Text} (hstart : '[' ∉ start) (h : Unbroken rules text) :
    Unbroken rules (start ++ text) := by
  induction start with
  | nil => exact h
  | cons c start ih =>
    rw [List.mem_cons, not_or] at hstart
    exact .char (Ne.symm hstart.1) (ih hstart.2)

/-- The tokens are those of a text of at most this length, and nothing is broken there. -/
def Reads (rules : Rules) (length : Nat) (tokens : List Token) : Prop :=
  ∃ text, Unbroken rules text ∧ text.length ≤ length ∧ tokens = spelled rules.knows text

/-- Behind the end of a tag a text is read on, and nothing is broken there. -/
theorem reads_behind {text : Text} (h : Unbroken rules text)
    (hrule : Dict.get? name rules = some rule) {length : Nat} (hle : text.length ≤ length)
    (depth : Nat) :
    Reads rules length ((Closing.find name rule.options depth (spelled rules.knows text)).behind
      (spelled rules.knows text)) := by
  induction h generalizing depth with
  | nil => exact ⟨[], .nil, Nat.zero_le _, by rw [spelled_nil]; rfl⟩
  | @char c rest hc hrest ih =>
    have hle := Nat.le_of_succ_le hle
    rw [spelled_cons rules.knows hc]
    refine @Closing.behind_plain _ _ (Reads rules length) [c] _ (fun _ start tail hsplit => ?_)
      (ih hle) depth
    have htail : tail = [] := by
      cases start with
      | nil => exact (List.cons.inj hsplit).2.symm
      | cons d start => exact absurd (List.cons.inj hsplit).2 (by simp)
    rw [htail]
    exact ⟨rest, hrest, hle, rfl⟩
  | @span behind hopen hlines hrest ih =>
    have hlength := Nat.le_trans (Bracket.scan_rest_length_le .plain behind) (Nat.le_of_succ_le hle)
    have hrestReads : Reads rules length (spelled rules.knows (Bracket.scan .plain behind).rest) :=
      ⟨_, hrest, hlength, rfl⟩
    rcases spelled_bracket_cases rules.knows behind with ⟨tag, -, -, -, htag⟩ | ⟨-, hplain⟩
    · have hhere : Reads rules length (spelled rules.knows ('[' :: behind)) :=
        ⟨_, .span hopen hlines hrest, hle, rfl⟩
      rw [htag] at hhere ⊢
      exact Closing.behind_tag hhere hrestReads (ih hlength) depth
    · rw [hplain]
      refine Closing.behind_plain (fun hon start tail hsplit => ?_) (ih hlength) depth
      cases start with
      | nil => exact absurd (List.cons.inj hsplit).1 (by decide)
      | cons c start =>
        have hinner : (Bracket.scan .plain behind).inner = start ++ '\n' :: tail :=
          (List.cons.inj hsplit).2
        -- the part of the span behind the newline quotes no bracket
        have htail : '[' ∉ tail := by
          intro hmem
          have hoff := hlines (by rw [hinner]; simp) (by rw [hinner]; simp [hmem]) name rule hrule
          exact Bool.false_ne_true (hoff.symm.trans hon)
        refine ⟨tail ++ (Bracket.scan .plain behind).rest, append_of_plain htail hrest, ?_,
          (spelled_append_of_plain rules.knows htail _).symm⟩
        have hjoin := congrArg List.length (Bracket.scan_append .plain behind)
        rw [hinner] at hjoin
        simp only [List.length_append, List.length_cons] at hjoin hle ⊢
        omega

theorem Reads.dropNewline {length : Nat} {tokens : List Token} (h : Reads rules length tokens) :
    Reads rules length (dropNewline tokens) := by
  obtain ⟨text, htext, hle, rfl⟩ := h
  have hstays {token : Token} {rest : List Token} (hfirst : spelled rules.knows text = token :: rest)
      (hne : token ≠ .newline) : Markup.dropNewline (spelled rules.knows text) =
        spelled rules.knows text := by
    rw [hfirst]
    cases token with
    | newline => exact absurd rfl hne
    | data text => rfl
    | opening name attributes raw => rfl
    | closing name raw => rfl
  cases htext with
  | nil => exact ⟨[], .nil, hle, by rw [spelled_nil]; rfl⟩
  | @char c rest hc hrest =>
    by_cases hnewline : c = '\n'
    · refine ⟨rest, hrest, Nat.le_of_succ_le hle, ?_⟩
      rw [spelled_cons rules.knows hc, hnewline]
      rfl
    · refine ⟨c :: rest, .char hc hrest, hle, hstays (spelled_cons rules.knows hc rest) ?_⟩
      rw [Token.ofChar, if_neg hnewline]
      exact Token.noConfusion
  | @span behind hopen hlines hrest =>
    refine ⟨'[' :: behind, .span hopen hlines hrest, hle, ?_⟩
    rcases spelled_bracket_cases rules.knows behind with ⟨tag, -, -, -, htag⟩ | ⟨-, hplain⟩
    · exact hstays htag (Tag.token_ne_newline _ tag)
    · exact hstays hplain Token.noConfusion

/-- What follows a tag is read on as a text, and nothing is broken there. -/
theorem reads_following {text : Text} (h : Unbroken rules text)
    (hrule : Dict.get? name rules = some rule) :
    Reads rules text.length (rule.options.following name (spelled rules.knows text)) := by
  have hbehind := reads_behind h hrule (Nat.le_refl _) 0
  rw [TagOptions.following, tokensBehind]
  split
  · exact ⟨text, h, Nat.le_refl _, rfl⟩
  · split
    · exact hbehind.dropNewline
    · exact hbehind

end Unbroken

/-! ## 3. What the first pass leaves -/

section Leaving

variable {rules : Rules}

theorem openings_plain (text : Text) : Token.openings (text.map Token.ofChar) = [] := by
  exact openings_eq_nil_iff.mpr fun name attributes raw =>
    Tag.token_notMem_plain raw (.opening name attributes) text

theorem Rules.untagged_nil : rules.Untagged [] := by
  rw [Rules.Untagged, spelled_nil]
  rfl

theorem Rules.Untagged.append_of_plain {start text : Text} (hstart : '[' ∉ start)
    (h : rules.Untagged text) : rules.Untagged (start ++ text) := by
  rw [Rules.Untagged, spelled_append_of_plain rules.knows hstart, Token.openings_append,
    openings_plain, List.nil_append]
  exact h

/-- A span that is no tag, in front of a text: a closed one stands for itself, an open one is
broken off by the bracket that the text begins with. -/
theorem Rules.Untagged.append_span {behind out : Text} (h : rules.Untagged out)
    (hplain : Token.ofSpan rules.knows ('[' :: (Bracket.scan .plain behind).inner)
      (Bracket.scan .plain behind).closed =
        Token.ofText ('[' :: (Bracket.scan .plain behind).inner))
    (hopen : (Bracket.scan .plain behind).closed = false →
      ((Bracket.scan .plain behind).rest = [] → out = []) ∧
        ((Bracket.scan .plain behind).rest ≠ [] → ∃ tail, out = '[' :: tail)) :
    rules.Untagged ('[' :: (Bracket.scan .plain behind).inner ++ out) := by
  cases hclosed : (Bracket.scan .plain behind).closed with
  | true =>
    rw [hclosed] at hplain
    rw [Rules.Untagged, (isSpan_of_closed hclosed).spelled_append, hplain, Token.spell_ofText,
      Token.openings_append, openings_plain, List.nil_append]
    exact h
  | false =>
    have hscan : Bracket.scan .plain ((Bracket.scan .plain behind).inner ++ out) =
        ⟨(Bracket.scan .plain behind).inner, out, false⟩ := by
      rcases Bracket.scan_of_not_closed hclosed with hend | ⟨rest, hrest, hbreak⟩
      · rw [(hopen hclosed).1 hend]
        have hwhole := Bracket.scan_append .plain behind
        rw [hend] at hwhole
        rw [hwhole, ← hend, ← hclosed]
      · obtain ⟨tail, rfl⟩ := (hopen hclosed).2 (by rw [hrest]; exact List.cons_ne_nil _ _)
        exact hbreak tail
    rw [hclosed] at hplain
    rw [Rules.Untagged, List.cons_append, spelled_bracket, hscan, hplain, Token.spell_ofText,
      Token.openings_append, openings_plain, List.nil_append]
    exact h

theorem tagAhead_of_closed {behind : Text} {tag : Tag}
    (hclosed : (Bracket.scan .plain behind).closed = true)
    (htag : Tag.ofSpan? ('[' :: (Bracket.scan .plain behind).inner) = some tag)
    (hknown : rules.knows tag.name = true) : rules.TagAhead ('[' :: behind) := by
  refine ⟨_, (Bracket.scan .plain behind).rest, tag, ?_, isSpan_of_closed hclosed, htag, hknown⟩
  rw [List.cons_append, Bracket.scan_append]

/-- What a pass leaves of a text: no tag that it has a rule for, nothing of nothing, and a bracket
at the start where a bracket stands that is no such tag. -/
structure Leaves (rules : Rules) (text out : Text) : Prop where
  untagged : rules.Untagged out
  nil : text = [] → out = []
  bracket : ∀ behind, text = '[' :: behind → ¬rules.TagAhead text → ∃ tail, out = '[' :: tail

theorem leaves_char {c : Char} {rest out : Text} (hc : c ≠ '[') (h : Leaves rules rest out) :
    Leaves rules (c :: rest) ([c] ++ out) where
  untagged := h.untagged.append_of_plain fun hmem => hc (List.mem_singleton.mp hmem).symm
  nil h := absurd h (List.cons_ne_nil c rest)
  bracket _ h := absurd (List.cons.inj h).1 hc

/-- Where a tag was, there is only the reply of its formatter. -/
theorem leaves_tag {behind rest reply out : Text} (hahead : rules.TagAhead ('[' :: behind))
    (hreply : '[' ∉ reply) (h : Leaves rules rest out) :
    Leaves rules ('[' :: behind) (reply ++ out) where
  untagged := h.untagged.append_of_plain hreply
  nil h := absurd h (List.cons_ne_nil _ behind)
  bracket _ _ hno := absurd hahead hno

theorem leaves_span {behind out : Text}
    (hplain : Token.ofSpan rules.knows ('[' :: (Bracket.scan .plain behind).inner)
      (Bracket.scan .plain behind).closed =
        Token.ofText ('[' :: (Bracket.scan .plain behind).inner))
    (hopen : (Bracket.scan .plain behind).closed = false →
      ¬rules.TagAhead (Bracket.scan .plain behind).rest)
    (h : Leaves rules (Bracket.scan .plain behind).rest out) :
    Leaves rules ('[' :: behind) ('[' :: (Bracket.scan .plain behind).inner ++ out) where
  untagged := by
    refine h.untagged.append_span hplain fun hclosed => ⟨h.nil, fun hne => ?_⟩
    rcases Bracket.scan_of_not_closed hclosed with hend | ⟨rest, hrest, -⟩
    · exact absurd hend hne
    · exact h.bracket rest hrest (hopen hclosed)
  nil h := absurd h (List.cons_ne_nil _ behind)
  bracket _ _ _ := ⟨_, rfl⟩

/-- **A run over a text that it does not break leaves no tag that it has a rule for**, if no reply
holds an opening bracket. -/
theorem leaves_of_unbroken {context : Context} {parent : Option ParentTag} {text : Text}
    (h : Unbroken rules text) {made calls : List Call} {out : Text}
    (hrun : Formats rules context parent made (spelled rules.knows text) (.ok out) calls)
    (hreplies : ∀ reply, .ok reply ∈ rules.replies made calls → '[' ∉ reply) :
    Leaves rules text out := by
  -- by the length of the text, since a tag goes on behind its end and not at its rest
  induction hlength : text.length using Nat.strongRecOn generalizing text made calls out with
  | ind n ih =>
    subst hlength
    cases h with
    | nil =>
      rw [spelled_nil] at hrun
      obtain rfl := Except.ok.inj hrun.nil_inv
      exact ⟨Rules.untagged_nil, fun _ => rfl, fun _ h => by cases h⟩
    | @char c rest hc hrest =>
      rw [spelled_cons rules.knows hc] at hrun
      obtain ⟨inner, hinner, hbehind⟩ := @Formats.plain_inv _ _ _ _ _ _ _ [c] hrun
      obtain ⟨left, rfl, rfl⟩ := exceptMap_eq_ok hinner.symm
      exact leaves_char hc (ih rest.length (Nat.lt_succ_self _) hrest hbehind hreplies rfl)
    | @span behind hopen hlines hrest =>
      have hlt : (Bracket.scan .plain behind).rest.length < ('[' :: behind).length :=
        Nat.lt_succ_of_le (Bracket.scan_rest_length_le .plain behind)
      rcases spelled_bracket_cases rules.knows behind with
        ⟨tag, hclosed, htag, hknown, htoken⟩ | ⟨htext, hplain⟩
      · have hahead := tagAhead_of_closed hclosed htag hknown
        rw [htoken] at hrun
        cases tag with
        | opening name attributes =>
          obtain ⟨rule, reply, left, earlier, later, hrule, hreply, rfl, hbehind, hsub⟩ :=
            hrun.opening_inv hknown
          obtain ⟨tail, htail, hle, htokens⟩ := hrest.reads_following hrule
          rw [htokens] at hbehind
          have hleaves := ih tail.length (Nat.lt_of_le_of_lt hle hlt) htail hbehind
            (fun reply hmem => hreplies reply (hsub hmem)) rfl
          exact leaves_tag hahead (hreplies reply hreply) hleaves
        | closing name =>
          obtain ⟨inner, hinner, hbehind⟩ := hrun.copied_inv id
          obtain ⟨left, rfl, rfl⟩ := exceptMap_eq_ok hinner.symm
          exact leaves_tag hahead List.not_mem_nil (ih _ hlt hrest hbehind hreplies rfl)
      · rw [hplain] at hrun
        obtain ⟨inner, hinner, hbehind⟩ := hrun.plain_inv
        obtain ⟨left, rfl, rfl⟩ := exceptMap_eq_ok hinner.symm
        exact leaves_span htext hopen (ih _ hlt hrest hbehind hreplies rfl)

end Leaving

/-! ## 4. Both passes -/

/-- **Which names the second pass meets.** After a first pass that succeeds, no second pass calls a
formatter for a name of the first exactly if the text between the passes opens no tag of such a
name. It opens none if the first pass breaks nothing in the text and no formatter of it writes an
opening bracket. -/
theorem format_precedence (complex : TagParser) (text : Text) (context : Context) (between : Text)
    (hok : (complex.format text context).result = .ok between) :
    ((∀ simple : TagParser,
        ∀ call ∈ (Passes.format ⟨some complex, some simple⟩ text context).simpleCalls,
          complex.rules.knows call.tag = false) ↔ complex.rules.Untagged between) ∧
    (Unbroken complex.rules text →
      (∀ reply, .ok reply ∈ complex.replies (complex.format text context).calls → '[' ∉ reply) →
      ∀ simple : TagParser,
        ∀ call ∈ (Passes.format ⟨some complex, some simple⟩ text context).simpleCalls,
          complex.rules.knows call.tag = false) := by
  have hsimple (simple : TagParser) :
      (Passes.format ⟨some complex, some simple⟩ text context).simpleCalls =
        (simple.format between context).calls := by
    simp only [Passes.format, Passes.formatPass, hok]
  simp only [hsimple]
  refine ⟨⟨fun h => untagged_of_copying (h _), fun h simple call => ?_⟩, ?_⟩
  · exact not_knows_of_untagged h simple
  · intro hunbroken hreplies simple call
    have hrun := format_formats complex text context
    rw [hok] at hrun
    exact not_knows_of_untagged (leaves_of_unbroken hunbroken hrun hreplies).untagged simple

/-- A rule for bold text. -/
def boldRules : Rules := [("b".toList, .copying {})]

/-- Rules for bold text and for italics. -/
def italicRules : Rules := [("b".toList, .copying {}), ("i".toList, .copying {})]

theorem unbroken_boldText : Unbroken boldRules "[b]x[/b][i]".toList := by
  have hopen {behind : Text} (h : (Bracket.scan .plain behind).closed = true) :
      (Bracket.scan .plain behind).closed = false →
        ¬boldRules.TagAhead (Bracket.scan .plain behind).rest :=
    fun hoff => absurd (h.symm.trans hoff) Bool.true_eq_false.mp
  have hlines {behind : Text} (h : '\n' ∉ (Bracket.scan .plain behind).inner) :
      '\n' ∈ (Bracket.scan .plain behind).inner → '[' ∈ (Bracket.scan .plain behind).inner →
        boldRules.All fun rule => rule.options.newlineCloses = false :=
    fun hmem => absurd hmem h
  have hitalic : Unbroken boldRules "[i]".toList :=
    .span (hopen (by decide)) (hlines (by decide)) .nil
  have hclosing : Unbroken boldRules "[/b][i]".toList :=
    .span (hopen (by decide)) (hlines (by decide)) hitalic
  exact .span (hopen (by decide)) (hlines (by decide)) (.char (by decide) hclosing)

theorem format_boldText :
    let formatted := Passes.format ⟨some ⟨boldRules, []⟩, some ⟨italicRules, []⟩⟩
      "[b]x[/b][i]".toList []
    formatted.simpleCalls.map Call.heading = [("i".toList, [])] ∧
      ∀ call ∈ formatted.simpleCalls, boldRules.knows call.tag = false := by
  have hok : (TagParser.format ⟨boldRules, []⟩ "[b]x[/b][i]".toList []).result =
      .ok "x[i]".toList := by
    decide +kernel
  have hreplies : TagParser.replies ⟨boldRules, []⟩
      (TagParser.format ⟨boldRules, []⟩ "[b]x[/b][i]".toList []).calls = [.ok "x".toList] := by
    decide +kernel
  obtain ⟨-, hunbroken⟩ := format_precedence ⟨boldRules, []⟩ _ [] _ hok
  refine ⟨by decide +kernel, hunbroken unbroken_boldText ?_ ⟨italicRules, []⟩⟩
  rw [hreplies]
  intro reply hreply
  obtain rfl := Except.ok.inj (List.mem_singleton.mp hreply)
  decide

/-- A closing tag that closes nothing is dropped behind an open bracket: the first pass calls no
formatter, and the second one finds a tag that the text does not hold. -/
theorem format_glued :
    let formatted := Passes.format ⟨some ⟨boldRules, []⟩, some ⟨boldRules, []⟩⟩
      "[[/b]b]x".toList []
    formatted.complexCalls.map Call.heading = [] ∧
      formatted.simpleCalls.map Call.heading = [("b".toList, [])] := by
  constructor <;> decide +kernel

end Dispatch.Markup
