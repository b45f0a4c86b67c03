import Dispatch.Markup.Options
import Dispatch.Markup.Token

/-!
# Where a tag ends

The body of a tag runs up to the first token that ends it: a closing tag of the same name that no
opening tag inside the body takes, a newline if newlines close the tag, an opening tag of the same
name if such a tag closes it. The last of these starts the next content; the others belong to the
tag. Without such a token the body runs to the end.
-/

namespace Dispatch.Markup

/-- The end of a body: how many tokens the body has, and whether the token behind them belongs to
the tag. -/
structure Closing where
  length : Nat
  consumed : Bool
  deriving DecidableEq, Repr

namespace Closing

/-- The same end, one token later. -/
def later (closing : Closing) : Closing := { closing with length := closing.length + 1 }

/-- The end of the body of a tag, inside which `depth` tags of the same name are open. -/
def find (name : Text) (options : TagOptions) (depth : Nat) : List Token → Closing
  | [] => ⟨0, true⟩
  | .data _ :: rest => (find name options depth rest).later
  | .newline :: rest =>
    if options.newlineCloses then ⟨0, true⟩ else (find name options depth rest).later
  | .opening other _ _ :: rest =>
    if other = name then
      if options.sameTagCloses then ⟨0, false⟩
      else (find name options (if options.renderEmbedded then depth + 1 else depth) rest).later
    else (find name options depth rest).later
  | .closing other _ :: rest =>
    if other = name then
      match depth with
      | 0 => ⟨0, true⟩
      | depth + 1 => (find name options depth rest).later
    else (find name options depth rest).later

/-- The body never runs past the end of the tokens. -/
theorem find_length_le (name : Text) (options : TagOptions) (depth : Nat) (tokens : List Token) :
    (find name options depth tokens).length ≤ tokens.length := by
  fun_induction find name options depth tokens <;> simp_all [later]

/-- The tokens of the body. -/
def body (closing : Closing) (tokens : List Token) : List Token := tokens.take closing.length

/-- The tokens behind the tag. -/
def behind (closing : Closing) (tokens : List Token) : List Token :=
  tokens.drop (if closing.consumed then closing.length + 1 else closing.length)

end Closing

/-- The tokens without one newline at their start. -/
def dropNewline : List Token → List Token
  | .newline :: rest => rest
  | tokens => tokens

/-- The body of a tag, given the tokens behind its opening tag. -/
def bodyTokens (name : Text) (options : TagOptions) (tokens : List Token) : List Token :=
  (Closing.find name options 0 tokens).body tokens

/-- What follows a tag, given the tokens behind its opening tag: a tag that swallows a newline
takes the one right behind it. -/
def tokensBehind (name : Text) (options : TagOptions) (tokens : List Token) : List Token :=
  let behind := (Closing.find name options 0 tokens).behind tokens
  if options.swallowTrailingNewline then dropNewline behind else behind

theorem dropNewline_length_le (tokens : List Token) :
    (dropNewline tokens).length ≤ tokens.length := by
  unfold dropNewline
  split <;> simp

theorem bodyTokens_length_le (name : Text) (options : TagOptions) (tokens : List Token) :
    (bodyTokens name options tokens).length ≤ tokens.length := by
  simp only [bodyTokens, Closing.body, List.length_take]
  omega

theorem tokensBehind_length_le (name : Text) (options : TagOptions) (tokens : List Token) :
    (tokensBehind name options tokens).length ≤ tokens.length := by
  simp only [tokensBehind]
  have hdrop : ((Closing.find name options 0 tokens).behind tokens).length ≤ tokens.length := by
    simp only [Closing.behind, List.length_drop]
    omega
  split
  · exact Nat.le_trans (dropNewline_length_le _) hdrop
  · exact hdrop

end Dispatch.Markup
