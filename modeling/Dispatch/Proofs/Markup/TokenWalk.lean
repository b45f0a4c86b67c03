import Dispatch.Proofs.Markup.FirstEnd
import Dispatch.Proofs.Markup.Formatting

/-!
# Formatting as a walk over places

The tokens of a text stand in a row, and formatting may be read as a loop over their places: it cuts
the body of a tag out as a slice, may step one place back, may step one further over a newline, and
goes on behind. The walk has no result where it reads a place that is not there, cuts a slice that
is not there or steps back from the first place. It never comes to that, because every tag with a
body lies within the row (`exists_extent`). This is also why it ends: each step goes on at a later
place or into a shorter row. So the walk is what `formatTokens` says (`walk_eq`).
-/

namespace Dispatch.Markup

/-! ## 1. Formatting that may have no result -/

/-- Formatting that has no result where it looks for something that is not there. -/
abbrev Checked := ExceptT FormatError (StateT (List Call) Option)

namespace Checked

variable {α β : Type}

/-- A value, if there is one. -/
def ofOption (value : Option α) : Checked α := ExceptT.lift (StateT.lift value)

/-- Formatting that comes to a result. -/
def ofFormatting (formatting : Formatting α) : Checked α :=
  ExceptT.mk fun made => some (formatting.run.run made)

@[simp] theorem ofOption_some (value : α) : ofOption (some value) = pure value := rfl

@[simp] theorem ofFormatting_pure (value : α) : ofFormatting (pure value) = pure value := rfl

theorem run_ofFormatting (formatting : Formatting α) (made : List Call) :
    (ofFormatting formatting).run.run made = some (formatting.run.run made) := rfl

@[simp] theorem ofFormatting_bind (formatting : Formatting α) (next : α → Formatting β) :
    ofFormatting (formatting >>= next) =
      ofFormatting formatting >>= fun value => ofFormatting (next value) := by
  refine ExceptT.ext (StateT.ext fun made => ?_)
  rw [ExceptT.run_bind, StateT.run_bind, run_ofFormatting, run_ofFormatting, ExceptT.run_bind,
    StateT.run_bind, Option.bind_eq_bind, Option.bind_some]
  rcases formatting.run.run made with ⟨value | failure, later⟩
  · rfl
  · rfl

@[simp] theorem ofFormatting_map (f : α → β) (formatting : Formatting α) :
    ofFormatting (f <$> formatting) = f <$> ofFormatting formatting := by
  rw [map_eq_pure_bind, map_eq_pure_bind, ofFormatting_bind]
  rfl

/-- What is written in front of formatted text goes in front of what it begins with. -/
theorem ofFormatting_append (output text : Text) (formatting : Formatting Text) :
    (output ++ ·) <$> ofFormatting ((text ++ ·) <$> formatting) =
      (output ++ text ++ ·) <$> ofFormatting formatting := by
  rw [ofFormatting_map, Functor.map_map]
  simp only [List.append_assoc]

end Checked

/-! ## 2. One tag -/

/-- The elements of a row from one place up to another, if these are places of the row in this
order. -/
def slice? {α : Type} (row : List α) (first last : Nat) : Option (List α) :=
  if first ≤ last ∧ last ≤ row.length then some ((row.take last).drop first) else none

/-- The place before a place, if it has one. -/
def before? : Nat → Option Nat
  | 0 => none
  | place + 1 => some place

/-- What a tag with a body takes of the row. -/
structure Extent where
  body : List Token
  /-- The last place that the tag itself takes. -/
  own : Nat
  /-- The last place that is done with, a swallowed newline included. -/
  last : Nat

/-- The last place of a tag whose body ends as found. A token there that does not belong to the tag
is left, by a step back. -/
def lastOwn? : Nat × Bool → Option Nat
  | (stop, true) => some stop
  | (stop, false) => before? stop

/-- The last place that is done with behind a tag: one further where it swallows a newline. -/
def lastDone (options : TagOptions) (tokens : List Token) (own : Nat) : Nat :=
  if options.swallowTrailingNewline = true ∧ tokens[own + 1]? = some .newline then own + 1 else own

/-- What a tag with a body takes, if its opening tag is at this place. -/
def extent? (name : Text) (options : TagOptions) (tokens : List Token) (place : Nat) :
    Option Extent := do
  let found := findClosing name options tokens (place + 1)
  let body ← slice? tokens (place + 1) found.1
  let own ← lastOwn? found
  return ⟨body, own, lastDone options tokens own⟩

/-- The extent lies behind the opening tag at a place, in a row that has this place. -/
structure Extent.Within (name : Text) (options : TagOptions) (tokens : List Token) (place : Nat)
    (extent : Extent) : Prop where
  place_le_own : place ≤ extent.own
  own_le_last : extent.own ≤ extent.last
  length_body : extent.body.length < tokens.length
  body_eq : extent.body = bodyTokens name options (tokens.drop (place + 1))
  behind_eq : tokens.drop (extent.last + 1) = tokensBehind name options (tokens.drop (place + 1))

theorem dropNewline_eq (tokens : List Token) :
    dropNewline tokens = if tokens[0]? = some .newline then tokens.drop 1 else tokens := by
  rcases tokens with _ | ⟨token, rest⟩
  · rfl
  · cases token <;> rfl

theorem le_lastDone (options : TagOptions) (tokens : List Token) (own : Nat) :
    own ≤ lastDone options tokens own := by
  rw [lastDone]
  split <;> omega

theorem drop_lastDone (options : TagOptions) (tokens : List Token) (own : Nat) :
    tokens.drop (lastDone options tokens own + 1) =
      if options.swallowTrailingNewline then dropNewline (tokens.drop (own + 1))
      else tokens.drop (own + 1) := by
  rw [lastDone, dropNewline_eq, List.getElem?_drop, List.drop_drop, Nat.add_zero]
  by_cases hswallow : options.swallowTrailingNewline = true
  · rw [if_pos hswallow]
    by_cases hnewline : tokens[own + 1]? = some .newline
    · rw [if_pos ⟨hswallow, hnewline⟩, if_pos hnewline]
    · rw [if_neg fun h => hnewline h.2, if_neg hnewline]
  · rw [if_neg fun h => hswallow h.1, if_neg hswallow]

section Within

variable (name : Text) (options : TagOptions) {tokens : List Token} {place : Nat}

/-- The body can be cut out. -/
theorem slice?_body (hplace : place < tokens.length) :
    slice? tokens (place + 1) (findClosing name options tokens (place + 1)).1 =
      some (bodyTokens name options (tokens.drop (place + 1))) := by
  have hlength := Closing.find_length_le name options 0 (tokens.drop (place + 1))
  rw [List.length_drop] at hlength
  rw [findClosing, slice?, if_pos ⟨Nat.le_add_right _ _, by omega⟩, bodyTokens, Closing.body,
    List.drop_take, Nat.add_sub_cancel_left]

/-- The step back does not come to a place in front of the opening tag. -/
theorem exists_lastOwn (tokens : List Token) (place : Nat) :
    ∃ own, lastOwn? (findClosing name options tokens (place + 1)) = some own ∧ place ≤ own ∧
      tokens.drop (own + 1) = (Closing.find name options 0 (tokens.drop (place + 1))).behind
        (tokens.drop (place + 1)) := by
  rw [findClosing, Closing.behind, List.drop_drop, Nat.add_right_comm]
  -- A token that does not belong to the tag is the first one behind it.
  cases (Closing.find name options 0 (tokens.drop (place + 1))).consumed with
  | true =>
    refine ⟨_, rfl, by omega, ?_⟩
    rw [if_pos rfl]
    congr 1
    omega
  | false =>
    refine ⟨_, rfl, Nat.le_add_right _ _, ?_⟩
    rw [if_neg Bool.false_ne_true]
    congr 1
    omega

/-- **Every tag with a body lies within the row.** -/
theorem exists_extent (hplace : place < tokens.length) :
    ∃ extent, extent? name options tokens place = some extent ∧
      extent.Within name options tokens place := by
  have hbody := slice?_body name options hplace
  obtain ⟨own, hown, hle, hbehind⟩ := exists_lastOwn name options tokens place
  refine ⟨⟨bodyTokens name options (tokens.drop (place + 1)), own, lastDone options tokens own⟩,
    ?_, ?_⟩
  · rw [extent?, hbody, hown]
    rfl
  · constructor
    · exact hle
    · exact le_lastDone options tokens own
    · have hlength := bodyTokens_length_le name options (tokens.drop (place + 1))
      rw [List.length_drop] at hlength
      show (bodyTokens name options (tokens.drop (place + 1))).length < tokens.length
      omega
    · rfl
    · rw [drop_lastDone, hbehind, tokensBehind]

theorem Extent.Within.place_lt_next {name : Text} {options : TagOptions} {extent : Extent}
    (h : extent.Within name options tokens place) : place < extent.last + 1 :=
  Nat.lt_succ_of_le (Nat.le_trans h.place_le_own h.own_le_last)

theorem within_of_extent? {name : Text} {options : TagOptions} (hplace : place < tokens.length)
    {extent : Extent} (h : extent? name options tokens place = some extent) :
    extent.Within name options tokens place := by
  obtain ⟨found, hfound, hwithin⟩ := exists_extent name options hplace
  rw [hfound] at h
  rwa [← Option.some.inj h]

end Within

/-! ## 3. The walk -/

/-- Formats the tokens from a place on, behind what has been written. -/
def walk (rules : Rules) (context : Context) (parent : Option ParentTag) (tokens : List Token)
    (place : Nat) (output : Text) : Checked Text :=
  if hplace : place < tokens.length then do
    match ← Checked.ofOption tokens[place]? with
    | .data text => walk rules context parent tokens (place + 1) (output ++ text)
    | .newline => walk rules context parent tokens (place + 1) (output ++ ['\n'])
    | .closing _ _ => walk rules context parent tokens (place + 1) output
    | .opening name attributes raw =>
      match Dict.get? name rules with
      | none => walk rules context parent tokens (place + 1) (output ++ raw)
      | some rule =>
        if rule.options.standalone then do
          let text ← Checked.ofFormatting
            (invoke rule.formatter ⟨name, [], attributes, parent, context⟩)
          walk rules context parent tokens (place + 1) (output ++ text)
        else
          match hextent : extent? name rule.options tokens place with
          | none => Checked.ofOption none
          | some extent => do
            have := (within_of_extent? hplace hextent).length_body
            have := (within_of_extent? hplace hextent).place_lt_next
            let inner ←
              if rule.options.renderEmbedded then
                walk rules context (some ⟨name, rule.options⟩) extent.body 0 []
              else pure (Token.rawText extent.body)
            let value := if rule.options.strip then Text.trim inner else inner
            let text ← Checked.ofFormatting
              (invoke rule.formatter ⟨name, value, attributes, parent, context⟩)
            walk rules context parent tokens (extent.last + 1) (output ++ text)
  else return output
termination_by (tokens.length, tokens.length - place)

section Walk

variable {rules : Rules} {context : Context} {parent : Option ParentTag} {tokens : List Token}
variable {place : Nat}

theorem walk_end (hplace : tokens.length ≤ place) (output : Text) :
    walk rules context parent tokens place output = pure output := by
  rw [walk, dif_neg (Nat.not_lt.mpr hplace)]

theorem walk_data {text : Text} (htoken : tokens[place]? = some (.data text)) (output : Text) :
    walk rules context parent tokens place output =
      walk rules context parent tokens (place + 1) (output ++ text) := by
  have hplace := (List.getElem?_eq_some_iff.mp htoken).1
  rw [walk, dif_pos hplace, htoken, Checked.ofOption_some, pure_bind]

theorem walk_newline (htoken : tokens[place]? = some .newline) (output : Text) :
    walk rules context parent tokens place output =
      walk rules context parent tokens (place + 1) (output ++ ['\n']) := by
  have hplace := (List.getElem?_eq_some_iff.mp htoken).1
  rw [walk, dif_pos hplace, htoken, Checked.ofOption_some, pure_bind]

theorem walk_closing {name raw : Text} (htoken : tokens[place]? = some (.closing name raw))
    (output : Text) :
    walk rules context parent tokens place output =
      walk rules context parent tokens (place + 1) output := by
  have hplace := (List.getElem?_eq_some_iff.mp htoken).1
  rw [walk, dif_pos hplace, htoken, Checked.ofOption_some, pure_bind]

section Opening

variable {name raw : Text} {attributes : Attributes} {rule : Rule}
variable (htoken : tokens[place]? = some (.opening name attributes raw))

include htoken

theorem walk_unruled (hrule : Dict.get? name rules = none) (output : Text) :
    walk rules context parent tokens place output =
      walk rules context parent tokens (place + 1) (output ++ raw) := by
  have hplace := (List.getElem?_eq_some_iff.mp htoken).1
  rw [walk, dif_pos hplace, htoken, Checked.ofOption_some, pure_bind]
  simp only [hrule]

theorem walk_standalone (hrule : Dict.get? name rules = some rule)
    (halone : rule.options.standalone = true) (output : Text) :
    walk rules context parent tokens place output = (do
      let text ← Checked.ofFormatting
        (invoke rule.formatter ⟨name, [], attributes, parent, context⟩)
      walk rules context parent tokens (place + 1) (output ++ text)) := by
  have hplace := (List.getElem?_eq_some_iff.mp htoken).1
  rw [walk, dif_pos hplace, htoken, Checked.ofOption_some, pure_bind]
  simp only [hrule, halone, ↓reduceIte]

theorem walk_element (hrule : Dict.get? name rules = some rule)
    (hbody : rule.options.standalone = false) {extent : Extent}
    (hextent : extent? name rule.options tokens place = some extent) (output : Text) :
    walk rules context parent tokens place output = (do
      let inner ←
        if rule.options.renderEmbedded then
          walk rules context (some ⟨name, rule.options⟩) extent.body 0 []
        else pure (Token.rawText extent.body)
      let value := if rule.options.strip then Text.trim inner else inner
      let text ← Checked.ofFormatting
        (invoke rule.formatter ⟨name, value, attributes, parent, context⟩)
      walk rules context parent tokens (extent.last + 1) (output ++ text)) := by
  have hplace := (List.getElem?_eq_some_iff.mp htoken).1
  rw [walk, dif_pos hplace, htoken, Checked.ofOption_some, pure_bind]
  simp only [hrule, hbody, Bool.false_eq_true, ↓reduceIte]
  split
  · next hnone =>
    rw [hextent] at hnone
    cases hnone
  · next found hfound =>
    rw [hextent] at hfound
    rw [Option.some.inj hfound]

end Opening

end Walk

/-- **The walk has a result**, which is that of the tokens from its place on. -/
theorem walk_eq (rules : Rules) (context : Context) (parent : Option ParentTag)
    (tokens : List Token) (place : Nat) (output : Text) :
    walk rules context parent tokens place output =
      (output ++ ·) <$>
        Checked.ofFormatting (formatTokens rules context parent (tokens.drop place)) := by
  by_cases hplace : place < tokens.length
  · have htoken := List.getElem?_eq_getElem hplace
    rw [List.drop_eq_getElem_cons hplace]
    generalize tokens[place] = token at htoken ⊢
    cases token with
    | data text =>
      rw [formatTokens_data, Checked.ofFormatting_append, walk_data htoken]
      exact walk_eq rules context parent tokens (place + 1) (output ++ text)
    | newline =>
      rw [formatTokens_newline, Checked.ofFormatting_append, walk_newline htoken]
      exact walk_eq rules context parent tokens (place + 1) (output ++ ['\n'])
    | closing other raw =>
      rw [formatTokens_closing, walk_closing htoken]
      exact walk_eq rules context parent tokens (place + 1) output
    | opening name attributes raw =>
      cases hrule : Dict.get? name rules with
      | none =>
        rw [formatTokens_unruled _ _ _ hrule, Checked.ofFormatting_append,
          walk_unruled htoken hrule]
        exact walk_eq rules context parent tokens (place + 1) (output ++ raw)
      | some rule =>
        have hbehind (text : Text) (next : Nat) (hnext : place < next) :
            walk rules context parent tokens next (output ++ text) =
              (output ++ ·) <$> Checked.ofFormatting (do
                let behind ← formatTokens rules context parent (tokens.drop next)
                return text ++ behind) := by
          rw [← map_eq_pure_bind, Checked.ofFormatting_append]
          exact walk_eq rules context parent tokens next (output ++ text)
        cases halone : rule.options.standalone with
        | true =>
          rw [formatTokens_standalone _ _ _ hrule halone, Checked.ofFormatting_bind, map_bind,
            walk_standalone htoken hrule halone]
          exact bind_congr fun text => hbehind text (place + 1) (Nat.lt_succ_self place)
        | false =>
          obtain ⟨extent, hextent, hwithin⟩ := exists_extent name rule.options hplace
          have hnext : place < extent.last + 1 := hwithin.place_lt_next
          have hshorter : extent.body.length < tokens.length := hwithin.length_body
          have hbody := walk_eq rules context (some ⟨name, rule.options⟩) extent.body 0 []
          simp only [List.drop_zero, List.nil_append, id_map'] at hbody
          rw [formatTokens_element _ _ _ hrule halone, walk_element htoken hrule halone hextent,
            ← hwithin.body_eq, ← hwithin.behind_eq, hbody]
          cases rule.options.renderEmbedded with
          | true =>
            simp only [↓reduceIte]
            rw [Checked.ofFormatting_bind, map_bind]
            refine bind_congr fun inner => ?_
            rw [Checked.ofFormatting_bind, map_bind]
            exact bind_congr fun text => hbehind text (extent.last + 1) hnext
          | false =>
            simp only [Bool.false_eq_true, ↓reduceIte, pure_bind]
            rw [Checked.ofFormatting_bind, map_bind]
            exact bind_congr fun text => hbehind text (extent.last + 1) hnext
  · rw [walk_end (Nat.not_lt.mp hplace), List.drop_eq_nil_of_le (Nat.not_lt.mp hplace),
      formatTokens_nil, Checked.ofFormatting_pure, map_pure, List.append_nil]
termination_by (tokens.length, tokens.length - place)

/-! ## 4. Parsers -/

/-- What a parser makes of a text by walking over its tokens, if that has a result. -/
def TagParser.walkText (parser : TagParser) (text : Text) (context : Context) : Option Formatted :=
  if parser.rules.isEmpty then some ⟨.ok text, []⟩
  else do
    let (result, made) ←
      (walk parser.rules context none (parser.tokens text) 0 []).run.run parser.history
    return ⟨result, made.drop parser.history.length⟩

theorem walk_tokens (rules : Rules) (context : Context) (parent : Option ParentTag)
    (tokens : List Token) :
    walk rules context parent tokens 0 [] =
      Checked.ofFormatting (formatTokens rules context parent tokens) := by
  rw [walk_eq, List.drop_zero]
  simp only [List.nil_append, id_map']

theorem TagParser.walkText_eq (parser : TagParser) (text : Text) (context : Context) :
    parser.walkText text context = some (parser.format text context) := by
  rw [walkText, format]
  split
  · rfl
  · rw [walk_tokens, Checked.run_ofFormatting]
    rfl

/-- **Formatting stays within the tokens.** The end of a tag is the first one, wherever the search
starts; every tag with a body lies within the row, from its opening tag on, with a body that is
shorter than the row; and the walk, which would have no result if it read what is not there or
stepped back too far, has the result that formatting has. -/
theorem format_in_bounds :
    (∀ name options tokens start, start ≤ tokens.length →
      IsFirstEnd name options tokens start (findClosing name options tokens start)) ∧
    (∀ name options tokens place, place < tokens.length →
      ∃ extent, extent? name options tokens place = some extent ∧
        extent.Within name options tokens place) ∧
    (∀ rules context parent tokens, walk rules context parent tokens 0 [] =
      Checked.ofFormatting (formatTokens rules context parent tokens)) ∧
    ∀ parser text context,
      TagParser.walkText parser text context = some (parser.format text context) :=
  ⟨fun _ _ _ _ => findClosing_isFirstEnd, fun name options _ _ => exists_extent name options,
    walk_tokens, TagParser.walkText_eq⟩

theorem format_in_bounds_items :
    let name := "item".toList
    let options : TagOptions := { sameTagCloses := true }
    let tokens : List Token :=
      [.opening name [] "[item]".toList, .data "a".toList, .opening name [] "[item]".toList]
    (1 ≤ tokens.length ∧ IsFirstEnd name options tokens 1 (2, false)) ∧
      0 < tokens.length ∧ ∃ extent, extent? name options tokens 0 = some extent ∧
        extent.Within name options tokens 0 ∧ extent.own = 1 := by
  intro name options tokens
  have hstart : 1 ≤ tokens.length := by decide
  have hplace : 0 < tokens.length := by decide
  have hfound : findClosing name options tokens 1 = (2, false) := by decide
  have hfirst := format_in_bounds.1 name options tokens 1 hstart
  rw [hfound] at hfirst
  obtain ⟨extent, hextent, hwithin⟩ := format_in_bounds.2.1 name options tokens 0 hplace
  refine ⟨⟨hstart, hfirst⟩, hplace, extent, hextent, hwithin, ?_⟩
  have hsome : extent? name options tokens 0 = some ⟨[.data "a".toList], 1, 1⟩ := by rfl
  rw [← Option.some.inj (hsome.symm.trans hextent)]

end Dispatch.Markup
