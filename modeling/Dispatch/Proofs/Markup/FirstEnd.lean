import Dispatch.Markup.Closing

/-!
# The first end of a tag

The search for the end of a tag counts how many tags of its name are open. Said by places in the
tokens (`EndsAt`), it finds the first one at which a newline or an opening tag ends the tag, or a
closing tag that no opening tag since the start takes (`findClosing_isFirstEnd`). The number of open
tags is the number of opening tags less that of closing tags so far, which is what the induction
keeps (`ends_succ`).
-/

namespace Dispatch.Markup

namespace Token

/-- Whether the token is an opening tag of the name. -/
def opens (name : Text) : Token → Bool
  | .opening other _ _ => other = name
  | _ => false

/-- Whether the token is a closing tag of the name. -/
def closes (name : Text) : Token → Bool
  | .closing other _ => other = name
  | _ => false

end Token

/-! ## 1. Ends by their places -/

/-- Whether a token ends the body of a tag, in which a closing tag of the name is `unmatched` or
not. -/
inductive EndsBy (name : Text) (options : TagOptions) (unmatched : Prop) : Token → Prop
  | newline (ends : options.newlineCloses = true) : EndsBy name options unmatched .newline
  | sameTag {attributes : Attributes} {raw : Text} (ends : options.sameTagCloses = true) :
      EndsBy name options unmatched (.opening name attributes raw)
  | closing {raw : Text} (ends : unmatched) : EndsBy name options unmatched (.closing name raw)

theorem EndsBy.of_imp {name : Text} {options : TagOptions} {unmatched other : Prop} {token : Token}
    (h : EndsBy name options unmatched token)
    (himp : token.closes name = true → unmatched → other) : EndsBy name options other token := by
  cases h with
  | newline ends => exact .newline ends
  | sameTag ends => exact .sameTag ends
  | closing ends => exact .closing (himp (decide_eq_true rfl) ends)

/-- The tokens from one place to another, with both. -/
def between (start place : Nat) (tokens : List Token) : List Token :=
  (tokens.take (place + 1)).drop start

/-- The closing tags of the name outnumber its opening tags, if these are looked at. -/
def Unmatched (name : Text) (options : TagOptions) (tokens : List Token) : Prop :=
  options.renderEmbedded = true →
    tokens.countP (Token.opens name) < tokens.countP (Token.closes name)

/-- The token at a place ends the body of a tag, which begins at `start`. -/
def EndsAt (name : Text) (options : TagOptions) (tokens : List Token) (start place : Nat) : Prop :=
  ∃ token, tokens[place]? = some token ∧
    EndsBy name options (Unmatched name options (between start place tokens)) token

/-- Where the body ends that begins at a place, and whether the token there belongs to the tag. -/
def findClosing (name : Text) (options : TagOptions) (tokens : List Token) (start : Nat) :
    Nat × Bool :=
  let closing := Closing.find name options 0 (tokens.drop start)
  (start + closing.length, closing.consumed)

/-- What is found is the first place from `start` on at which the body ends, or else the end of the
tokens. The token there belongs to the tag unless it is an opening tag. -/
structure IsFirstEnd (name : Text) (options : TagOptions) (tokens : List Token) (start : Nat)
    (found : Nat × Bool) : Prop where
  start_le : start ≤ found.1
  le_length : found.1 ≤ tokens.length
  first : ∀ place, start ≤ place → place < found.1 → ¬EndsAt name options tokens start place
  ends : found.1 < tokens.length → EndsAt name options tokens start found.1
  not_consumed : found.2 = false ↔
    ∃ attributes raw, tokens[found.1]? = some (.opening name attributes raw) ∧
      options.sameTagCloses = true

/-! ## 2. Counting open tags -/

section Counting

variable {name : Text} {options : TagOptions} {depth depth' : Nat} {token : Token}
variable {rest : List Token}

/-- How many tags of the name the tokens open, as far as the search counts them. -/
def opened (name : Text) (options : TagOptions) (tokens : List Token) : Nat :=
  if options.renderEmbedded then tokens.countP (Token.opens name) else 0

/-- How many tags of the name the tokens close. -/
def closed (name : Text) (tokens : List Token) : Nat := tokens.countP (Token.closes name)

/-- The tokens close more tags of the name than they open and than were open before. -/
def Outnumbered (name : Text) (options : TagOptions) (depth : Nat) (tokens : List Token) : Prop :=
  depth + opened name options tokens < closed name tokens

theorem opened_cons (token : Token) (rest : List Token) :
    opened name options (token :: rest) =
      opened name options [token] + opened name options rest := by
  unfold opened
  split
  · rw [← List.singleton_append, List.countP_append]
  · rfl

theorem closed_cons (token : Token) (rest : List Token) :
    closed name (token :: rest) = closed name [token] + closed name rest := by
  rw [closed, ← List.singleton_append, List.countP_append]
  rfl

theorem opened_singleton (token : Token) :
    opened name options [token] = if options.renderEmbedded && token.opens name then 1 else 0 := by
  rw [opened, List.countP_singleton]
  cases options.renderEmbedded <;> rfl

theorem closed_singleton (token : Token) :
    closed name [token] = if token.closes name then 1 else 0 := List.countP_singleton

/-- The token at a place ends the body, of which `depth` tags of the name are open in front of the
tokens. -/
def Ends (name : Text) (options : TagOptions) (depth : Nat) (tokens : List Token) (place : Nat) :
    Prop :=
  ∃ token, tokens[place]? = some token ∧
    EndsBy name options (Outnumbered name options depth (tokens.take (place + 1))) token

/-- **A token in front changes the number of open tags and nothing else.** -/
theorem ends_succ (h : depth + opened name options [token] = depth' + closed name [token])
    (place : Nat) :
    Ends name options depth (token :: rest) (place + 1) ↔ Ends name options depth' rest place := by
  have hcount : Outnumbered name options depth ((token :: rest).take (place + 1 + 1)) ↔
      Outnumbered name options depth' (rest.take (place + 1)) := by
    rw [Outnumbered, Outnumbered, List.take_succ_cons, opened_cons, closed_cons]
    omega
  rw [Ends, Ends, List.getElem?_cons_succ, hcount]

theorem ends_zero :
    Ends name options depth (token :: rest) 0 ↔
      EndsBy name options (Outnumbered name options depth [token]) token := by
  simp [Ends]

/-- What the search finds from the start of some tokens on, inside `depth` open tags. -/
structure IsFirst (name : Text) (options : TagOptions) (depth : Nat) (tokens : List Token)
    (closing : Closing) : Prop where
  first : ∀ place, place < closing.length → ¬Ends name options depth tokens place
  ends : closing.length < tokens.length → Ends name options depth tokens closing.length
  not_consumed : closing.consumed = false ↔
    ∃ attributes raw, tokens[closing.length]? = some (.opening name attributes raw) ∧
      options.sameTagCloses = true

/-- A token that does not end the body puts the end one place further. -/
theorem IsFirst.later {closing : Closing} (h : IsFirst name options depth' rest closing)
    (hcount : depth + opened name options [token] = depth' + closed name [token])
    (hends : ¬EndsBy name options (Outnumbered name options depth [token]) token) :
    IsFirst name options depth (token :: rest) closing.later := by
  constructor
  · intro place hplace
    cases place with
    | zero => exact fun hzero => hends (ends_zero.mp hzero)
    | succ place =>
      rw [ends_succ hcount]
      exact h.first place (Nat.lt_of_succ_lt_succ hplace)
  · intro hlength
    exact (ends_succ hcount _).mpr (h.ends (Nat.lt_of_succ_lt_succ hlength))
  · exact h.not_consumed

theorem IsFirst.skip {closing : Closing} (h : IsFirst name options depth rest closing)
    (hopens : token.opens name = false) (hcloses : token.closes name = false)
    (hends : ¬EndsBy name options (Outnumbered name options depth [token]) token) :
    IsFirst name options depth (token :: rest) closing.later := by
  refine h.later ?_ hends
  rw [opened_singleton, closed_singleton, hopens, hcloses, Bool.and_false]

/-- A token that ends the body is its end. -/
theorem IsFirst.here {consumed : Bool}
    (hends : EndsBy name options (Outnumbered name options depth [token]) token)
    (hconsumed : consumed = false ↔ token.opens name = true) :
    IsFirst name options depth (token :: rest) ⟨0, consumed⟩ := by
  refine ⟨fun place hplace => absurd hplace (Nat.not_lt_zero place),
    fun _ => ends_zero.mpr hends, hconsumed.trans ?_⟩
  cases hends with
  | newline => simp [Token.opens]
  | sameTag hsame => simp [Token.opens, hsame]
  | closing => simp [Token.opens]

end Counting

/-- **The search finds the first end**, however many tags of the name are open. -/
theorem find_isFirst (name : Text) (options : TagOptions) (depth : Nat) (tokens : List Token) :
    IsFirst name options depth tokens (Closing.find name options depth tokens) := by
  fun_induction Closing.find name options depth tokens with
  | case1 depth =>
    exact ⟨fun place hplace => absurd hplace (Nat.not_lt_zero place),
      fun hlength => absurd hlength (Nat.not_lt_zero 0), by simp⟩
  | case2 depth text rest ih =>
    refine ih.skip rfl rfl fun hends => ?_
    cases hends
  | case3 depth rest hcloses => exact .here (.newline hcloses) (by simp [Token.opens])
  | case4 depth rest hcloses ih =>
    refine ih.skip rfl rfl fun hends => ?_
    cases hends with
    | newline hends => exact hcloses hends
  | case5 depth attributes raw rest hsame => exact .here (.sameTag hsame) (by simp [Token.opens])
  | case6 depth attributes raw rest hsame ih =>
    refine ih.later ?_ fun hends => ?_
    · rw [opened_singleton, closed_singleton]
      cases options.renderEmbedded <;> simp [Token.opens, Token.closes]
    · cases hends with
      | sameTag hends => exact hsame hends
  | case7 depth other attributes raw rest hname ih =>
    refine ih.skip (decide_eq_false hname) rfl fun hends => ?_
    cases hends with
    | sameTag => exact hname rfl
  | case8 raw rest =>
    refine .here (.closing ?_) (by simp [Token.opens])
    rw [Outnumbered, opened_singleton, closed_singleton]
    simp [Token.opens, Token.closes]
  | case9 raw rest depth ih =>
    -- The tag that is closed here was open, so one less is open behind it.
    have hsingle : depth + 1 + opened name options [.closing name raw] =
        depth + closed name [.closing name raw] := by
      rw [opened_singleton, closed_singleton]
      simp [Token.opens, Token.closes]
    refine ih.later hsingle fun hends => ?_
    cases hends with
    | closing hends =>
      rw [Outnumbered, hsingle] at hends
      omega
  | case10 depth other raw rest hname ih =>
    refine ih.skip rfl (decide_eq_false hname) fun hends => ?_
    cases hends with
    | closing => exact hname rfl

/-! ## 3. The first end by its place -/

section Places

variable {name : Text} {options : TagOptions} {tokens : List Token} {start : Nat}

theorem between_add (place : Nat) :
    between start (start + place) tokens = (tokens.drop start).take (place + 1) := by
  rw [between, List.drop_take, Nat.add_assoc, Nat.add_sub_cancel_left]

/-- Whether a closing tag is unmatched is told by the number of open tags. -/
theorem unmatched_iff {segment : List Token} (h : 0 < closed name segment) :
    Unmatched name options segment ↔ Outnumbered name options 0 segment := by
  rw [Outnumbered, Nat.zero_add]
  unfold Unmatched opened
  split
  · next hembedded => exact ⟨fun hless => hless hembedded, fun hless _ => hless⟩
  · next hembedded => exact ⟨fun _ => h, fun _ hembedded' => absurd hembedded' hembedded⟩

theorem endsAt_add_iff (place : Nat) :
    EndsAt name options tokens start (start + place) ↔
      Ends name options 0 (tokens.drop start) place := by
  rw [EndsAt, Ends, ← List.getElem?_drop, between_add]
  refine exists_congr fun token => and_congr_right fun htoken => ?_
  -- The token itself is among those that are counted.
  have hlast : ((tokens.drop start).take (place + 1))[place]? = some token :=
    (List.getElem?_take_of_lt (Nat.lt_succ_self place)).trans htoken
  have hiff (hcloses : token.closes name = true) :
      Unmatched name options ((tokens.drop start).take (place + 1)) ↔
        Outnumbered name options 0 ((tokens.drop start).take (place + 1)) :=
    unmatched_iff (List.countP_pos_iff.mpr ⟨token, List.mem_of_getElem? hlast, hcloses⟩)
  exact ⟨fun h => h.of_imp fun hcloses => (hiff hcloses).mp,
    fun h => h.of_imp fun hcloses => (hiff hcloses).mpr⟩

/-- **The end that is found is the first one.** -/
theorem findClosing_isFirstEnd (hstart : start ≤ tokens.length) :
    IsFirstEnd name options tokens start (findClosing name options tokens start) := by
  have hfirst := find_isFirst name options 0 (tokens.drop start)
  have hlength := Closing.find_length_le name options 0 (tokens.drop start)
  rw [List.length_drop] at hlength
  rw [findClosing]
  constructor
  · exact Nat.le_add_right _ _
  · omega
  · intro place hle hlt
    obtain ⟨offset, rfl⟩ := Nat.exists_eq_add_of_le hle
    rw [endsAt_add_iff]
    exact hfirst.first offset (Nat.lt_of_add_lt_add_left hlt)
  · intro hlt
    refine (endsAt_add_iff _).mpr (hfirst.ends ?_)
    rw [List.length_drop]
    omega
  · rw [← List.getElem?_drop]
    exact hfirst.not_consumed

end Places

end Dispatch.Markup
