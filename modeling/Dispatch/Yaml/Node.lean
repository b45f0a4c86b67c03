import Dispatch.Dict
import Dispatch.Yaml.Token

/-!
# Nodes of YAML

The tokens of a text form one document, and the document one node. A node with an anchor can be
meant again by an alias behind its end; an alias inside the node itself is refused, because the
node would be endless.
-/

namespace Dispatch.Yaml

/-- A node: its tag, if it has one, and its contents. -/
inductive Node where
  | scalar (tag : Option Text) (text : Text) (plain : Bool)
  | sequence (tag : Option Text) (items : List Node)
  | mapping (tag : Option Text) (entries : List (Node × Node))
  /-- Another node once more. -/
  | same (node : Node)
  deriving Inhabited, Repr

namespace Node

/-- A node of which nothing is written. -/
def empty : Node := .scalar none [] true

/-! ## 1. Documents under construction -/

/-- What is left of the tokens, and the nodes with an anchor; a node that is not complete is
missing. -/
structure Composition where
  tokens : List Token
  anchors : Dict Text (Option Node) := []

/-- Makes nodes of tokens, or refuses them. -/
abbrev Composer := StateT Composition Option

/-- The next token. -/
def next? : Composer (Option Token) := do return (← get).tokens.head?

/-- Drops a token. -/
def drop : Composer Unit := modify fun state => { state with tokens := state.tokens.tail }

/-- Drops a token that must come. -/
def expect (token : Token) : Composer Unit := do
  if (← next?) = some token then drop else failure

/-- Whether one of some tokens comes next. -/
def comes (tokens : List Token) : Composer Bool := do
  match ← next? with
  | some token => return tokens.contains token
  | none => return false

/-- Notes what an anchor means. -/
def setAnchor (anchor : Option Text) (node : Option Node) : Composer Unit :=
  match anchor with
  | some name => modify fun state => { state with anchors := Dict.insert name node state.anchors }
  | none => return

/-! ## 2. Tags -/

/-- What the handles of tags stand for. -/
abbrev Handles := Dict Text Text

/-- The handles that every document knows. -/
def defaultHandles : Handles := [(['!'], ['!']), (['!', '!'], "tag:yaml.org,2002:".toList)]

/-- The tag that a handle and a suffix write. -/
def tagOf? (handles : Handles) (handle suffix : Text) : Option Text :=
  if handle.isEmpty then some suffix else (Dict.get? handle handles).map (· ++ suffix)

/-- Takes a tag if one comes. -/
def tag? (handles : Handles) : Composer (Option Text) := do
  match ← next? with
  | some (.tag handle suffix) =>
    drop
    some <$> (tagOf? handles handle suffix : Option Text)
  | _ => return none

/-- Takes an anchor if one comes. -/
def anchor? : Composer (Option Text) := do
  match ← next? with
  | some (.anchor name) =>
    drop
    return some name
  | _ => return none

/-- Takes an anchor and a tag, in either order; both may be missing. -/
def properties (handles : Handles) : Composer (Option Text × Option Text) := do
  match ← anchor? with
  | some name => return (some name, ← tag? handles)
  | none =>
    match ← tag? handles with
    | none => return (none, none)
    | some tag => return (← anchor?, some tag)

/-! ## 3. Nodes -/

/-- What a node may be where it stands. -/
inductive Place where
  | block
  /-- The key or value of a block, where a sequence needs no indent of its own. -/
  | entry
  | flow
  deriving DecidableEq

/-- What ends an entry of a sequence without an indent of its own. -/
def entryEnds : List Token := [.blockEntry, .key, .value, .blockEnd]

mutual

/-- Takes a node, within so many steps. -/
def node (handles : Handles) (place : Place) : Nat → Composer Node
  | 0 => failure
  | steps + 1 => do
    match ← next? with
    | some (.alias name) =>
      drop
      match Dict.get? name (← get).anchors with
      | some (some node) => return .same node
      | _ => failure
    | _ =>
      let (anchor, tag) ← properties handles
      setAnchor anchor none
      let node ← content handles place tag anchor.isSome steps
      setAnchor anchor (some node)
      return node

/-- Takes what stands behind the tag of a node. -/
def content (handles : Handles) (place : Place) (tag : Option Text) (anchored : Bool) :
    Nat → Composer Node
  | 0 => failure
  | steps + 1 => do
    match ← next? with
    | some (.scalar text plain) =>
      drop
      return .scalar (if tag = some ['!'] then none else tag) text plain
    | some .flowSequence =>
      drop
      return .sequence tag (← flowItems handles true steps)
    | some .flowMapping =>
      drop
      return .mapping tag (← flowEntries handles true steps)
    | some .blockSequence =>
      if place = .flow then failure
      drop
      return .sequence tag (← blockItems handles steps)
    | some .blockMapping =>
      if place = .flow then failure
      drop
      return .mapping tag (← blockEntries handles steps)
    | token =>
      if place = .entry ∧ token = some .blockEntry then
        return .sequence tag (← bareItems handles steps)
      else if tag.isSome || anchored then return .scalar tag [] true
      else failure

/-- Takes a node unless one of some tokens comes, which leaves it empty. -/
def nodeUnless (handles : Handles) (place : Place) (ends : List Token) : Nat → Composer Node
  | 0 => failure
  | steps + 1 => do
    if ← comes ends then return empty else node handles place steps

/-- Takes the items of a sequence in a block, to its end. -/
def blockItems (handles : Handles) : Nat → Composer (List Node)
  | 0 => failure
  | steps + 1 => do
    if ← comes [.blockEnd] then
      drop
      return []
    else
      expect .blockEntry
      let item ← nodeUnless handles .block [.blockEntry, .blockEnd] steps
      return item :: (← blockItems handles steps)

/-- Takes the items of a sequence without an indent of its own. -/
def bareItems (handles : Handles) : Nat → Composer (List Node)
  | 0 => failure
  | steps + 1 => do
    if ← comes [.blockEntry] then
      drop
      let item ← nodeUnless handles .block entryEnds steps
      return item :: (← bareItems handles steps)
    else return []

/-- Takes the entries of a mapping in a block, to its end. -/
def blockEntries (handles : Handles) : Nat → Composer (List (Node × Node))
  | 0 => failure
  | steps + 1 => do
    let ends := [.key, .value, .blockEnd]
    if ← comes [.blockEnd] then
      drop
      return []
    else
      expect .key
      let key ← nodeUnless handles .entry ends steps
      let value ← if ← comes [.value] then do
          drop
          nodeUnless handles .entry ends steps
        else pure empty
      return (key, value) :: (← blockEntries handles steps)

/-- Takes the items of a sequence between brackets, to its end. A key among them is a mapping of
one entry. Where the mark of a key has no key behind it, the token behind the mark is lost. -/
def flowItems (handles : Handles) (first : Bool) : Nat → Composer (List Node)
  | 0 => failure
  | steps + 1 => do
    let ends := [.flowEntry, .flowSequenceEnd]
    if !first && !(← comes [.flowSequenceEnd]) then expect .flowEntry
    if ← comes [.flowSequenceEnd] then
      drop
      return []
    else if ← comes [.key] then
      drop
      let key ← if ← comes (.value :: ends) then do
          drop
          pure empty
        else node handles .flow steps
      let value ← if ← comes [.value] then do
          drop
          nodeUnless handles .flow ends steps
        else pure empty
      return .mapping none [(key, value)] :: (← flowItems handles false steps)
    else
      let item ← node handles .flow steps
      return item :: (← flowItems handles false steps)

/-- Takes the entries of a mapping between braces, to its end. An entry without the mark of a key
has no value. -/
def flowEntries (handles : Handles) (first : Bool) : Nat → Composer (List (Node × Node))
  | 0 => failure
  | steps + 1 => do
    let ends := [.flowEntry, .flowMappingEnd]
    if !first && !(← comes [.flowMappingEnd]) then expect .flowEntry
    if ← comes [.flowMappingEnd] then
      drop
      return []
    else if ← comes [.key] then
      drop
      let key ← nodeUnless handles .flow (.value :: ends) steps
      let value ← if ← comes [.value] then do
          drop
          nodeUnless handles .flow ends steps
        else pure empty
      return (key, value) :: (← flowEntries handles false steps)
    else
      let key ← node handles .flow steps
      return (key, empty) :: (← flowEntries handles false steps)

end

/-! ## 4. Documents -/

/-- The handles of a document whose directives come next: each handle is explained once, and the
version is told once. -/
def directives (versioned : Bool) (handles : Handles) : List Token → Option (Bool × Handles)
  | .versionDirective major minor :: rest =>
    if versioned ∨ major ≠ 1 ∨ (minor ≠ 1 ∧ minor ≠ 2) then none else directives true handles rest
  | .tagDirective handle expansion :: rest =>
    if Dict.contains handle handles then none
    else directives versioned (Dict.insert handle expansion handles) rest
  | _ => some (versioned, handles)

/-- Whether a token is a directive. -/
def isDirective : Token → Bool
  | .versionDirective _ _ => true
  | .tagDirective _ _ => true
  | _ => false

/-- The node of a document whose marks and directives, if it has any, are gone. -/
def root (handles : Handles) (marked : Bool) (tokens : List Token) : Option (Node × Composition) :=
  let isEmpty := match tokens with
    | [] => true
    | token :: _ => token = .documentStart || token = .documentEnd || isDirective token
  if marked && isEmpty then some (empty, { tokens := tokens })
  else (node handles .block (3 * tokens.length + 3)).run { tokens := tokens }

/-- The node of the only document; nothing if there is no document. -/
def ofTokens? : List Token → Option (Option Node)
  | [] => some none
  | tokens => do
    let (_, handles) ← directives false [] tokens
    let handles := Dict.override defaultHandles handles
    let (node, behind) ← match tokens.dropWhile isDirective with
      | .documentStart :: content => root handles true content
      | content => if content = tokens then root handles false tokens else none
    if (behind.tokens.dropWhile (· = .documentEnd)).isEmpty then return some node else none

end Node

end Dispatch.Yaml
