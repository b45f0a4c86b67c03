import Dispatch.Markup.Closing
import Dispatch.Proofs.Markup.Spelling

/-!
# What a tag takes

A tag cuts the tokens behind it into its body, the token that ends it, and the rest. Main
statements:

* tokens in which the tags of the name are balanced are passed over (`Passes`, `Passes.nest`), so
  the closing tag behind them ends the tag (`bodyTokens_balanced`, `tokensBehind_balanced`);
* nothing falls between body and rest but the closing tag and newlines (`exists_taken`);
* spelling the text out does not move the cut (`bodyTokens_spell`, `tokensBehind_spell`).
-/

namespace Dispatch.Markup

namespace Closing

variable {name : Text} {options : TagOptions}

/-! ## 1. Tokens that are passed over -/

/-- The same end, some tokens later. -/
def laterBy (count : Nat) (closing : Closing) : Closing :=
  { closing with length := closing.length + count }

theorem later_laterBy (closing : Closing) (count : Nat) :
    (closing.laterBy count).later = closing.laterBy (count + 1) := rfl

theorem laterBy_laterBy (closing : Closing) (first second : Nat) :
    (closing.laterBy first).laterBy second = closing.laterBy (second + first) := by
  simp only [laterBy, Nat.add_assoc, Nat.add_comm second]

theorem body_laterBy (closing : Closing) (before tokens : List Token) :
    (closing.laterBy before.length).body (before ++ tokens) = before ++ closing.body tokens := by
  rw [body, laterBy, Nat.add_comm, List.take_length_add_append]
  rfl

theorem behind_laterBy (closing : Closing) (before tokens : List Token) :
    (closing.laterBy before.length).behind (before ++ tokens) = closing.behind tokens := by
  have hcount : (if closing.consumed then closing.length + before.length + 1
      else closing.length + before.length) =
        before.length + if closing.consumed then closing.length + 1 else closing.length := by
    split <;> omega
  rw [behind, laterBy, hcount, List.drop_length_add_append]
  rfl

theorem body_later (closing : Closing) (token : Token) (tokens : List Token) :
    closing.later.body (token :: tokens) = token :: closing.body tokens := rfl

theorem behind_later (closing : Closing) (token : Token) (tokens : List Token) :
    closing.later.behind (token :: tokens) = closing.behind tokens :=
  behind_laterBy closing [token] tokens

/-- Tokens that do not end a tag, however many tags of its name are open before them, and leave as
many open as there were. -/
def Passes (name : Text) (options : TagOptions) (tokens : List Token) : Prop :=
  ∀ depth behind, find name options depth (tokens ++ behind) =
    (find name options depth behind).laterBy tokens.length

theorem passes_nil : Passes name options [] := fun _ _ => rfl

theorem Passes.append {first second : List Token} (hfirst : Passes name options first)
    (hsecond : Passes name options second) : Passes name options (first ++ second) := by
  intro depth behind
  rw [List.append_assoc, hfirst, hsecond, laterBy_laterBy, List.length_append, Nat.add_comm]

theorem Passes.behind {before : List Token} (h : Passes name options before) (depth : Nat)
    (tokens : List Token) :
    (find name options depth (before ++ tokens)).behind (before ++ tokens) =
      (find name options depth tokens).behind tokens := by
  rw [h, behind_laterBy]

/-- A token that is no tag and does not end a tag with these options. -/
def Inert (options : TagOptions) : Token → Prop
  | .data _ => True
  | .newline => options.newlineCloses = false
  | _ => False

theorem passes_inert {token : Token} (h : Inert options token) : Passes name options [token] := by
  intro depth behind
  cases token with
  | data text => rfl
  | newline =>
    have hoff : options.newlineCloses = false := h
    rw [List.singleton_append, find, hoff, if_neg Bool.false_ne_true]
    rfl
  | opening other attributes raw => exact absurd h id
  | closing other raw => exact absurd h id

theorem passes_of_inert {tokens : List Token} (h : ∀ token ∈ tokens, Inert options token) :
    Passes name options tokens := by
  induction tokens with
  | nil => exact passes_nil
  | cons token tokens ih =>
    have hfirst : Passes name options [token] := passes_inert (h token List.mem_cons_self)
    exact hfirst.append (ih fun other hother => h other (List.mem_cons_of_mem _ hother))

theorem passes_plain {text : Text} (h : options.newlineCloses = true → '\n' ∉ text) :
    Passes name options (text.map Token.ofChar) := by
  refine passes_of_inert fun token htoken => ?_
  obtain ⟨c, hc, rfl⟩ := List.mem_map.mp htoken
  by_cases hnewline : c = '\n'
  · subst hnewline
    exact Bool.eq_false_iff.mpr fun hon => h hon hc
  · simp only [Token.ofChar, hnewline, ↓reduceIte]
    exact trivial

theorem passes_opening {other : Text} (h : other ≠ name) (attributes : Attributes) (raw : Text) :
    Passes name options [.opening other attributes raw] := by
  intro depth behind
  rw [List.singleton_append, find, if_neg h]
  rfl

theorem passes_closing {other : Text} (h : other ≠ name) (raw : Text) :
    Passes name options [.closing other raw] := by
  intro depth behind
  cases depth with
  | zero => rw [List.singleton_append, find, if_neg h]; rfl
  | succ depth => rw [List.singleton_append, find, if_neg h]; rfl

/-- A tag of the same name inside takes the closing tag that belongs to it. -/
theorem Passes.nest {body : List Token} (h : Passes name options body)
    (hsame : options.sameTagCloses = false) (hembedded : options.renderEmbedded = true)
    (attributes : Attributes) (raw closingRaw : Text) :
    Passes name options ([.opening name attributes raw] ++ body ++ [.closing name closingRaw]) := by
  intro depth behind
  have hclosing : find name options (depth + 1) (.closing name closingRaw :: behind) =
      (find name options depth behind).later := by
    rw [find, if_pos rfl]
  rw [List.append_assoc, List.append_assoc, List.singleton_append, find, if_pos rfl,
    hsame, if_neg Bool.false_ne_true, hembedded, if_pos rfl, List.singleton_append, h, hclosing,
    later_laterBy]
  simp only [laterBy, later, List.length_append, List.length_cons, List.length_nil]
  congr 1
  omega

/-- Behind a tag that stands in front of some tokens, either the search has ended there or it goes
on in the tokens. -/
theorem behind_tag {p : List Token → Prop} {tag : Tag} {raw : Text} {tokens : List Token}
    (here : p (tag.token raw :: tokens)) (next : p tokens)
    (later : ∀ depth, p ((find name options depth tokens).behind tokens)) (depth : Nat) :
    p ((find name options depth (tag.token raw :: tokens)).behind (tag.token raw :: tokens)) := by
  cases tag with
  | opening other attributes =>
    rw [Tag.token, find]
    split
    · split
      · exact here
      · rw [behind_later]
        exact later _
    · rw [behind_later]
      exact later depth
  | closing other =>
    cases depth with
    | zero =>
      rw [Tag.token, find]
      split
      · exact next
      · rw [behind_later]
        exact later 0
    | succ depth =>
      rw [Tag.token, find]
      split
      · rw [behind_later]
        exact later depth
      · rw [behind_later]
        exact later (depth + 1)

/-- Plain text in front of some tokens ends the search at a newline or lets it go on. -/
theorem behind_plain {p : List Token → Prop} {text : Text} {tokens : List Token}
    (hcut : options.newlineCloses = true → ∀ start rest, text = start ++ '\n' :: rest →
      p (rest.map Token.ofChar ++ tokens))
    (later : ∀ depth, p ((find name options depth tokens).behind tokens)) (depth : Nat) :
    p ((find name options depth (text.map Token.ofChar ++ tokens)).behind
      (text.map Token.ofChar ++ tokens)) := by
  by_cases hends : options.newlineCloses = true ∧ '\n' ∈ text
  · obtain ⟨start, rest, rfl, hstart⟩ := List.eq_append_cons_of_mem hends.2
    have hpasses : Passes name options (start.map Token.ofChar) := passes_plain fun _ => hstart
    have hfirst : find name options depth (.newline :: (rest.map Token.ofChar ++ tokens)) =
        ⟨0, true⟩ := by rw [find, if_pos hends.1]
    have hnewline : Token.ofChar '\n' = .newline := rfl
    rw [List.map_append, List.map_cons, hnewline, List.append_assoc, List.cons_append,
      hpasses.behind, hfirst]
    exact hcut hends.1 start rest rfl
  · have hpasses : Passes name options (text.map Token.ofChar) :=
      passes_plain fun hon hmem => hends ⟨hon, hmem⟩
    rw [hpasses.behind]
    exact later depth

/-! ## 2. Body, end and rest -/

/-- A token that ends a tag and belongs to it. -/
def Ends (name : Text) (options : TagOptions) : Token → Prop
  | .newline => options.newlineCloses = true
  | .closing other _ => other = name
  | _ => False

/-- The tokens are the body, then at most the token that ends the tag, then the rest. -/
def Cuts (name : Text) (options : TagOptions) (closing : Closing) (tokens : List Token) : Prop :=
  ∃ taken, tokens = closing.body tokens ++ taken ++ closing.behind tokens ∧
    ∀ token ∈ taken, Ends name options token

theorem cuts_nothing (tokens : List Token) : Cuts name options ⟨0, false⟩ tokens :=
  ⟨[], rfl, fun _ h => absurd h List.not_mem_nil⟩

theorem cuts_first (token : Token) (rest : List Token) (h : Ends name options token) :
    Cuts name options ⟨0, true⟩ (token :: rest) :=
  ⟨[token], rfl, fun other hother => by rwa [List.mem_singleton.mp hother]⟩

theorem Cuts.later {closing : Closing} {rest : List Token} (h : Cuts name options closing rest)
    (token : Token) : Cuts name options closing.later (token :: rest) := by
  obtain ⟨taken, hrest, htaken⟩ := h
  refine ⟨taken, ?_, htaken⟩
  rw [body_later, behind_later]
  exact congrArg (token :: ·) hrest

theorem cuts_find (name : Text) (options : TagOptions) (depth : Nat) (tokens : List Token) :
    Cuts name options (find name options depth tokens) tokens := by
  fun_induction find name options depth tokens with
  | case1 => exact ⟨[], rfl, fun _ h => absurd h List.not_mem_nil⟩
  | case2 _ _ _ ih => exact ih.later _
  | case3 _ rest hon => exact cuts_first .newline rest hon
  | case4 _ _ _ ih => exact ih.later _
  | case5 => exact cuts_nothing _
  | case6 _ _ _ _ _ ih => exact ih.later _
  | case7 _ _ _ _ _ _ ih => exact ih.later _
  | case8 raw rest => exact cuts_first (.closing name raw) rest rfl
  | case9 _ _ _ ih => exact ih.later _
  | case10 _ _ _ _ _ ih => exact ih.later _

/-! ## 3. The cut and the spelling -/

theorem passes_letters (text : Text) : Passes name options (Token.data text).letters := by
  refine passes_of_inert fun token htoken => ?_
  obtain ⟨c, -, rfl⟩ := List.mem_map.mp htoken
  exact trivial

/-- An end among tokens and an end among the same tokens spelled out that cut at one place. -/
def SameCut (closing spelt : Closing) (tokens : List Token) : Prop :=
  spelt.body (Token.spell tokens) = Token.spell (closing.body tokens) ∧
    spelt.behind (Token.spell tokens) = Token.spell (closing.behind tokens)

theorem SameCut.later {closing spelt : Closing} {tokens : List Token}
    (h : SameCut closing spelt tokens) (token : Token) :
    SameCut closing.later (spelt.laterBy token.letters.length) (token :: tokens) := by
  unfold SameCut
  rw [Token.spell_cons, body_laterBy, behind_laterBy, body_later, behind_later, Token.spell_cons,
    h.1, h.2]
  exact ⟨rfl, rfl⟩

theorem sameCut_first {token : Token} (h : token.letters = [token]) (consumed : Bool)
    (rest : List Token) : SameCut ⟨0, consumed⟩ ⟨0, consumed⟩ (token :: rest) := by
  unfold SameCut
  rw [Token.spell_cons, h]
  cases consumed with
  | false => exact ⟨rfl, by simp [behind, h]⟩
  | true => exact ⟨rfl, rfl⟩

/-- **Spelling the text out does not move the end of a tag.** -/
theorem sameCut_find (name : Text) (options : TagOptions) (depth : Nat) (tokens : List Token) :
    SameCut (find name options depth tokens) (find name options depth (Token.spell tokens))
      tokens := by
  induction tokens generalizing depth with
  | nil => exact ⟨rfl, rfl⟩
  | cons token rest ih =>
    cases token with
    | data text =>
      rw [find, Token.spell_cons, passes_letters]
      exact (ih depth).later _
    | newline =>
      simp only [find, Token.spell_cons, Token.letters, List.singleton_append]
      split
      · exact sameCut_first rfl true rest
      · exact (ih depth).later .newline
    | opening other attributes raw =>
      simp only [find, Token.spell_cons, Token.letters, List.singleton_append]
      split
      · split
        · exact sameCut_first rfl false rest
        · exact (ih _).later (.opening other attributes raw)
      · exact (ih depth).later (.opening other attributes raw)
    | closing other raw =>
      simp only [find, Token.spell_cons, Token.letters, List.singleton_append]
      split
      · cases depth with
        | zero => exact sameCut_first rfl true rest
        | succ depth => exact (ih depth).later (.closing other raw)
      · exact (ih depth).later (.closing other raw)

end Closing

theorem bodyTokens_spell (name : Text) (options : TagOptions) (tokens : List Token) :
    bodyTokens name options (Token.spell tokens) = Token.spell (bodyTokens name options tokens) :=
  (Closing.sameCut_find name options 0 tokens).1

theorem dropNewline_spell {tokens : List Token} (h : .data [] ∉ tokens) :
    dropNewline (Token.spell tokens) = Token.spell (dropNewline tokens) := by
  cases tokens with
  | nil => rfl
  | cons token rest =>
    cases token with
    | data text =>
      cases text with
      | nil => exact absurd List.mem_cons_self h
      | cons c text => rfl
    | newline => rfl
    | opening name attributes raw => rfl
    | closing name raw => rfl

theorem behind_subset (closing : Closing) (tokens : List Token) :
    closing.behind tokens ⊆ tokens :=
  List.drop_subset _ _

theorem tokensBehind_spell (name : Text) (options : TagOptions) {tokens : List Token}
    (h : .data [] ∉ tokens) :
    tokensBehind name options (Token.spell tokens) =
      Token.spell (tokensBehind name options tokens) := by
  have hbehind := (Closing.sameCut_find name options 0 tokens).2
  simp only [tokensBehind, hbehind]
  split
  · exact dropNewline_spell fun hmem => h (behind_subset _ _ hmem)
  · rfl

/-! ## 4. Body and rest of a tag -/

section Balanced

variable {name : Text} {options : TagOptions} {body : List Token}

/-- The closing tag behind tokens that pass ends the tag. -/
theorem find_closing_tag (h : Closing.Passes name options body) (raw : Text) (rest : List Token) :
    Closing.find name options 0 (body ++ .closing name raw :: rest) =
      (⟨0, true⟩ : Closing).laterBy body.length := by
  rw [h, Closing.find, if_pos rfl]

theorem bodyTokens_balanced (h : Closing.Passes name options body) (raw : Text)
    (rest : List Token) : bodyTokens name options (body ++ .closing name raw :: rest) = body := by
  rw [bodyTokens, find_closing_tag h, Closing.body_laterBy]
  exact List.append_nil body

theorem tokensBehind_balanced (h : Closing.Passes name options body) (raw : Text)
    (rest : List Token) :
    tokensBehind name options (body ++ .closing name raw :: rest) =
      if options.swallowTrailingNewline then dropNewline rest else rest := by
  rw [tokensBehind, find_closing_tag h, Closing.behind_laterBy]
  rfl

end Balanced

theorem bodyTokens_subset (name : Text) (options : TagOptions) (tokens : List Token) :
    bodyTokens name options tokens ⊆ tokens :=
  List.take_subset _ _

theorem dropNewline_cut (tokens : List Token) :
    ∃ taken, tokens = taken ++ dropNewline tokens ∧ ∀ token ∈ taken, token = .newline := by
  unfold dropNewline
  split
  · next rest => exact ⟨[.newline], rfl, fun _ h => List.mem_singleton.mp h⟩
  · exact ⟨[], rfl, fun _ h => absurd h List.not_mem_nil⟩

/-- **What a tag takes besides its body** is its closing tag, the newline that closes it, and the
newline that it swallows. -/
theorem exists_taken (name : Text) (options : TagOptions) (tokens : List Token) :
    ∃ taken, tokens = bodyTokens name options tokens ++ taken ++ tokensBehind name options tokens ∧
      ∀ token ∈ taken, (∃ raw, token = .closing name raw) ∨ token = .newline ∧
        (options.newlineCloses = true ∨ options.swallowTrailingNewline = true) := by
  obtain ⟨ending, hcut, hending⟩ := Closing.cuts_find name options 0 tokens
  have hends : ∀ token ∈ ending, (∃ raw, token = .closing name raw) ∨ token = .newline ∧
      (options.newlineCloses = true ∨ options.swallowTrailingNewline = true) := by
    intro token htoken
    have hend := hending token htoken
    cases token with
    | data text => exact absurd hend id
    | newline => exact Or.inr ⟨rfl, Or.inl hend⟩
    | opening other attributes raw => exact absurd hend id
    | closing other raw => exact Or.inl ⟨raw, by rw [show other = name from hend]⟩
  by_cases hswallow : options.swallowTrailingNewline = true
  · obtain ⟨swallowed, hdrop, hnewline⟩ :=
      dropNewline_cut ((Closing.find name options 0 tokens).behind tokens)
    refine ⟨ending ++ swallowed, ?_, fun token htoken => ?_⟩
    · simp only [tokensBehind, hswallow, ↓reduceIte, List.append_assoc, ← hdrop]
      rw [List.append_assoc] at hcut
      exact hcut
    · rcases List.mem_append.mp htoken with htoken | htoken
      · exact hends token htoken
      · exact Or.inr ⟨hnewline token htoken, Or.inr hswallow⟩
  · refine ⟨ending, ?_, hends⟩
    simp only [tokensBehind, hswallow]
    exact hcut

theorem tokensBehind_subset (name : Text) (options : TagOptions) (tokens : List Token) :
    tokensBehind name options tokens ⊆ tokens := by
  obtain ⟨taken, hcut, -⟩ := exists_taken name options tokens
  intro token htoken
  rw [hcut]
  exact List.mem_append_right _ htoken

end Dispatch.Markup
