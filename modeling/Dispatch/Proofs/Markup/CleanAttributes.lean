import Mathlib.Logic.Relation
import Dispatch.Proofs.Dict
import Dispatch.Proofs.Markup.Respelling
import Dispatch.Proofs.Text.Case

/-!
# The attributes of a tag

A tag gets its attributes in one scan, at four places: at the space behind a value, at a closing
quote, in front of a further word and at the end. `TagScan.Turn` is what the scan does with one
character, or with a pair that a backslash starts, and what every turn keeps holds at the end
(`TagScan.exists_end`).

So each key is without spaces and equals signs and in lower case, and each value is trimmed
(`CleanEntry`, `TagScan.Clean.result`). A key may be empty though: a value without a key is left out
at a closing quote and at the end of the tag, but not at the space behind a value. An empty key has
no other origin (`TagScan.keyless_result_iff`).
-/

namespace Dispatch.Markup

/-! ## 1. Clean entries -/

/-- The text may be a word of a tag: it holds no space and no equals sign. -/
structure IsWord (word : Text) : Prop where
  noSpace : ' ' ∉ word
  noEquals : '=' ∉ word

theorem isWord_nil : IsWord [] := ⟨List.not_mem_nil, List.not_mem_nil⟩

theorem IsWord.concat {word : Text} (h : IsWord word) {c : Char} (hequals : c ≠ '=')
    (hspace : c ≠ ' ') : IsWord (word ++ [c]) := by
  constructor
  · rw [List.mem_append, List.mem_singleton]
    exact not_or_intro h.noSpace (Ne.symm hspace)
  · rw [List.mem_append, List.mem_singleton]
    exact not_or_intro h.noEquals (Ne.symm hequals)

/-- A key and its value, as a tag keeps them. The key may be empty. -/
structure CleanEntry (entry : Text × Text) : Prop where
  isWord : IsWord entry.1
  lowered : Text.lower entry.1 = entry.1
  trimmed : Text.trim entry.2 = entry.2

theorem IsWord.cleanEntry {key : Text} (h : IsWord key) (value : Text) :
    CleanEntry (Text.lower key, Text.trim value) := by
  -- Lowering neither makes nor removes a sign.
  have hsign {c : Char} (hc : Text.isSign c = true) : c ∈ Text.lower key ↔ c ∈ key :=
    Text.mem_iff_of_lower_eq (Text.lower_lower key) hc
  refine ⟨⟨?_, ?_⟩, Text.lower_lower key, Text.trim_trim value⟩
  · rw [hsign (by decide)]
    exact h.noSpace
  · rw [hsign (by decide)]
    exact h.noEquals

/-- The word that is read, or the key of the value that is read. -/
def AttributeState.key : AttributeState → Text
  | .word letters _ => letters
  | .bare key _ => key
  | .quoted key _ _ => key

namespace TagBody

/-- All attributes of the body are clean. -/
def Clean (body : TagBody) : Prop := ∀ entry ∈ body.attributes, CleanEntry entry

/-- The body has an attribute under the empty key. -/
def Keyless (body : TagBody) : Prop := [] ∈ Dict.keys body.attributes

variable {body : TagBody}

namespace Clean

theorem put (h : body.Clean) {key : Text} (hkey : IsWord key) (value : Text) :
    (body.put key value).Clean := by
  intro entry hentry
  rcases Dict.mem_of_mem_insert hentry with rfl | hentry
  · exact hkey.cleanEntry value
  · exact h entry hentry

theorem putKeyed (h : body.Clean) {key : Text} (hkey : IsWord key) (value : Text) :
    (body.putKeyed key value).Clean := by
  rw [TagBody.putKeyed]
  split
  · exact h
  · exact h.put hkey value

theorem endWord (h : body.Clean) {word : Text} (hword : IsWord word) :
    (body.endWord word).Clean := by
  rw [TagBody.endWord]
  split
  · exact h
  · split
    · exact h
    · exact h.put hword []

theorem finish (h : body.Clean) {state : AttributeState} (hkey : IsWord state.key) :
    (body.finish state).Clean := by
  cases state with
  | word word ended =>
    rw [TagBody.finish]
    split
    · exact h
    · exact TagBody.Clean.put h hkey []
  | bare key value => exact h.putKeyed hkey value
  | quoted key value quote => exact h.putKeyed hkey value

end Clean

theorem keyless_put (key value : Text) :
    (body.put key value).Keyless ↔ key = [] ∨ body.Keyless := by
  rw [Keyless, put, Dict.mem_keys_insert, eq_comm, Text.lower_eq_nil_iff]
  exact Iff.rfl

theorem keyless_put_of_key {key : Text} (hkey : ¬key.isEmpty = true) (value : Text) :
    (body.put key value).Keyless ↔ body.Keyless :=
  (keyless_put key value).trans (or_iff_right fun hnil => hkey (List.isEmpty_iff.mpr hnil))

theorem keyless_putKeyed (key value : Text) : (body.putKeyed key value).Keyless ↔ body.Keyless := by
  rw [putKeyed]
  split
  · exact Iff.rfl
  · next hkey => exact keyless_put_of_key hkey value

theorem keyless_endWord (word : Text) : (body.endWord word).Keyless ↔ body.Keyless := by
  rw [endWord]
  split
  · exact Iff.rfl
  · next hword =>
    split
    · exact Iff.rfl
    · exact keyless_put_of_key hword []

/-- At the end of a tag a value without a key is left out. -/
theorem keyless_finish (state : AttributeState) : (body.finish state).Keyless ↔ body.Keyless := by
  cases state with
  | word word ended =>
    rw [finish]
    split
    · exact Iff.rfl
    · next hword => exact keyless_put_of_key hword []
  | bare key value => exact keyless_putKeyed key value
  | quoted key value quote => exact keyless_putKeyed key value

end TagBody

/-! ## 2. One turn of the scan -/

/-- Where the scan of a tag stands: what it has read and the text in front of it. -/
structure TagScan where
  body : TagBody
  state : AttributeState
  text : Text

namespace TagScan

/-- The body at the end of the tag. -/
def result (scan : TagScan) : TagBody := TagBody.scan scan.body scan.state scan.text

/-- What the scan does with the next character, or the next two where a backslash is taken away. -/
inductive Turn : TagScan → TagScan → Prop
  | equals {body : TagBody} {word : Text} {ended : Bool} {rest : Text} :
      Turn ⟨body, .word word ended, '=' :: rest⟩ ⟨body.withName word, .bare word [], rest⟩
  | space {body : TagBody} {word : Text} {ended : Bool} {rest : Text} :
      Turn ⟨body, .word word ended, ' ' :: rest⟩ ⟨body, .word word true, rest⟩
  | nextWord {body : TagBody} {word : Text} {c : Char} {rest : Text} (equals : c ≠ '=')
      (space : c ≠ ' ') :
      Turn ⟨body, .word word true, c :: rest⟩ ⟨body.endWord word, .word [c] false, rest⟩
  | letter {body : TagBody} {word : Text} {c : Char} {rest : Text} (equals : c ≠ '=')
      (space : c ≠ ' ') :
      Turn ⟨body, .word word false, c :: rest⟩ ⟨body, .word (word ++ [c]) false, rest⟩
  | openQuote {body : TagBody} {key value : Text} {c : Char} {rest : Text} (quote : isQuote c) :
      Turn ⟨body, .bare key value, c :: rest⟩ ⟨body, .quoted key value c, rest⟩
  | endValue {body : TagBody} {key value rest : Text} (equals : '=' ∈ rest) :
      Turn ⟨body, .bare key value, ' ' :: rest⟩ ⟨body.put key value, .word [] false, rest⟩
  | valueChar {body : TagBody} {key value : Text} {c : Char} {rest : Text} (quote : ¬isQuote c)
      (goes : ¬(c = ' ' ∧ '=' ∈ rest)) :
      Turn ⟨body, .bare key value, c :: rest⟩ ⟨body, .bare key (value ++ [c]), rest⟩
  | escaped {body : TagBody} {key value : Text} {quote c : Char} {rest : Text}
      (escapes : c = '\\' ∨ isQuote c) :
      Turn ⟨body, .quoted key value quote, '\\' :: c :: rest⟩
        ⟨body, .quoted key (value ++ [c]) quote, rest⟩
  | backslash {body : TagBody} {key value : Text} {quote c : Char} {rest : Text}
      (plain : ¬(c = '\\' ∨ isQuote c)) :
      Turn ⟨body, .quoted key value quote, '\\' :: c :: rest⟩
        ⟨body, .quoted key (value ++ ['\\']) quote, c :: rest⟩
  | closeQuote {body : TagBody} {key value : Text} {quote : Char} {rest : Text}
      (slash : quote = '\\' → rest = []) :
      Turn ⟨body, .quoted key value quote, quote :: rest⟩
        ⟨body.putKeyed key value, .word [] false, rest⟩
  | quotedChar {body : TagBody} {key value : Text} {quote c : Char} {rest : Text}
      (slash : c = '\\' → rest = []) (other : c ≠ quote) :
      Turn ⟨body, .quoted key value quote, c :: rest⟩
        ⟨body, .quoted key (value ++ [c]) quote, rest⟩

/-- The scan comes from one place to the other. -/
abbrev Reaches : TagScan → TagScan → Prop := Relation.ReflTransGen Turn

variable {scan next : TagScan}

/-- A turn leaves what the scan will end with. -/
theorem Turn.result_eq (h : scan.Turn next) : scan.result = next.result := by
  have hspace : ' ' ≠ '=' := by decide
  -- The last two patterns of the scan overlap with that of a backslash in front of a character.
  have hnot {c : Char} {rest : Text} (hslash : c = '\\' → rest = []) (d : Char) (behind : Text)
      (hc : c = '\\') (hrest : rest = d :: behind) : False := by
    rw [hslash hc] at hrest
    cases hrest
  unfold result
  cases h with
  | equals => rw [TagBody.scan, if_pos rfl]
  | space => rw [TagBody.scan, if_neg hspace, if_pos rfl]
  | nextWord hequals hspace => rw [TagBody.scan, if_neg hequals, if_neg hspace, if_pos rfl]
  | letter hequals hspace =>
    rw [TagBody.scan, if_neg hequals, if_neg hspace, if_neg Bool.false_ne_true]
  | openQuote hquote => rw [TagBody.scan, if_pos hquote]
  | endValue hequals =>
    rw [TagBody.scan, if_neg (by decide), if_pos ⟨rfl, hequals⟩]
  | valueChar hquote hgoes => rw [TagBody.scan, if_neg hquote, if_neg hgoes]
  | escaped hescapes => rw [TagBody.scan, if_pos hescapes]
  | backslash hplain => rw [TagBody.scan, if_neg hplain]
  | closeQuote hslash =>
    rw [TagBody.scan, if_pos rfl]
    exact hnot hslash
  | quotedChar hslash hopen =>
    rw [TagBody.scan, if_neg hopen]
    exact hnot hslash

/-- While there is text the scan goes on. -/
theorem exists_turn (hne : scan.text ≠ []) : ∃ next, scan.Turn next := by
  obtain ⟨body, state, text⟩ := scan
  obtain ⟨c, rest, rfl⟩ := List.exists_cons_of_ne_nil hne
  cases state with
  | word word ended =>
    by_cases hequals : c = '='
    · subst hequals
      exact ⟨_, .equals⟩
    · by_cases hspace : c = ' '
      · subst hspace
        exact ⟨_, .space⟩
      · cases ended with
        | true => exact ⟨_, .nextWord hequals hspace⟩
        | false => exact ⟨_, .letter hequals hspace⟩
  | bare key value =>
    by_cases hquote : isQuote c
    · exact ⟨_, .openQuote hquote⟩
    · by_cases hends : c = ' ' ∧ '=' ∈ rest
      · obtain ⟨rfl, hequals⟩ := hends
        exact ⟨_, .endValue hequals⟩
      · exact ⟨_, .valueChar hquote hends⟩
  | quoted key value quote =>
    by_cases hpair : c = '\\' ∧ rest ≠ []
    · obtain ⟨rfl, hrest⟩ := hpair
      obtain ⟨d, rest, rfl⟩ := List.exists_cons_of_ne_nil hrest
      by_cases hescapes : d = '\\' ∨ isQuote d
      · exact ⟨_, .escaped hescapes⟩
      · exact ⟨_, .backslash hescapes⟩
    · have hslash : c = '\\' → rest = [] := fun hc => by
        by_contra hrest
        exact hpair ⟨hc, hrest⟩
      by_cases hopen : c = quote
      · subst hopen
        exact ⟨_, .closeQuote hslash⟩
      · exact ⟨_, .quotedChar hslash hopen⟩

theorem Turn.exists_text_eq (h : scan.Turn next) :
    ∃ c front, scan.text = c :: front ++ next.text := by
  cases h with
  | escaped => exact ⟨_, [_], rfl⟩
  | _ => exact ⟨_, [], rfl⟩

/-- **The scan comes to the end of the text.** -/
theorem exists_end (scan : TagScan) :
    ∃ body state, scan.Reaches ⟨body, state, []⟩ ∧ scan.result = body.finish state := by
  induction hlength : scan.text.length using Nat.strong_induction_on generalizing scan with
  | h length ih =>
    by_cases htext : scan.text = []
    · obtain ⟨body, state, text⟩ := scan
      obtain rfl : text = [] := htext
      exact ⟨body, state, .refl, by rw [result, TagBody.scan]⟩
    · obtain ⟨next, hturn⟩ := exists_turn htext
      obtain ⟨c, front, hsplit⟩ := hturn.exists_text_eq
      have hshorter : next.text.length < length := by
        rw [← hlength, hsplit, List.length_append, List.length_cons]
        omega
      obtain ⟨body, state, hreaches, hresult⟩ := ih _ hshorter next rfl
      exact ⟨body, state, .head hturn hreaches, hturn.result_eq.trans hresult⟩

theorem Reaches.result_eq (h : scan.Reaches next) : scan.result = next.result := by
  induction h with
  | refl => rfl
  | tail _ hturn ih => exact ih.trans hturn.result_eq

theorem Reaches.text_suffix (h : scan.Reaches next) : next.text <:+ scan.text := by
  induction h with
  | refl => exact List.suffix_rfl
  | tail _ hturn ih =>
    obtain ⟨c, front, hsplit⟩ := hturn.exists_text_eq
    exact List.IsSuffix.trans ⟨c :: front, hsplit.symm⟩ ih

/-! ## 3. What every turn keeps -/

/-- The attributes are clean, and what is read may become a key. -/
structure Clean (scan : TagScan) : Prop where
  body : scan.body.Clean
  key : IsWord scan.state.key

/-- **A turn keeps the attributes clean.** -/
theorem Turn.clean (h : scan.Turn next) (hclean : scan.Clean) : next.Clean := by
  obtain ⟨hbody, hkey⟩ := hclean
  cases h with
  | nextWord hequals hspace =>
    exact ⟨hbody.endWord hkey, isWord_nil.concat hequals hspace⟩
  | letter hequals hspace => exact ⟨hbody, hkey.concat hequals hspace⟩
  | endValue => exact ⟨hbody.put hkey _, isWord_nil⟩
  | closeQuote => exact ⟨hbody.putKeyed hkey _, isWord_nil⟩
  | _ => exact ⟨hbody, hkey⟩

theorem Clean.of_reaches (h : scan.Clean) (hreaches : scan.Reaches next) : next.Clean := by
  induction hreaches with
  | refl => exact h
  | tail _ hturn ih => exact hturn.clean ih

/-- **Clean attributes stay clean to the end of the tag.** -/
theorem Clean.result (h : scan.Clean) : scan.result.Clean := by
  obtain ⟨body, state, hreaches, hresult⟩ := scan.exists_end
  have hend : Clean ⟨body, state, []⟩ := h.of_reaches hreaches
  rw [hresult]
  exact hend.body.finish hend.key

/-- The scan stands at the space behind a value that has neither quotes nor a key, with an equals
sign further on: the value is kept. -/
inductive KeepsKeyless : TagScan → Prop
  | intro {body : TagBody} {value rest : Text} (equals : '=' ∈ rest) :
      KeepsKeyless ⟨body, .bare [] value, ' ' :: rest⟩

/-- **There is one turn that makes an empty key.** Every other one keeps whether there is one. -/
theorem Turn.keyless_iff (h : scan.Turn next) :
    (next.body.Keyless ↔ scan.body.Keyless) ∨ scan.KeepsKeyless ∧ next.body.Keyless := by
  cases h with
  | nextWord => exact Or.inl (TagBody.keyless_endWord _)
  | @endValue body key value rest hequals =>
    cases key with
    | nil => exact Or.inr ⟨.intro hequals, (TagBody.keyless_put [] value).mpr (Or.inl rfl)⟩
    | cons c key =>
      have hkey : ¬(c :: key).isEmpty = true := Bool.false_ne_true
      exact Or.inl (TagBody.keyless_put_of_key hkey value)
  | closeQuote => exact Or.inl (TagBody.keyless_putKeyed _ _)
  | _ => exact Or.inl Iff.rfl

/-- An empty key stays. -/
theorem Reaches.keyless (hreaches : scan.Reaches next) (h : scan.body.Keyless) :
    next.body.Keyless := by
  induction hreaches with
  | refl => exact h
  | tail _ hturn ih => exact hturn.keyless_iff.elim (fun hiff => hiff.mpr ih) And.right

/-- An empty key that was not there came from such a turn. -/
theorem Reaches.exists_keepsKeyless (hreaches : scan.Reaches next) (hbody : ¬scan.body.Keyless)
    (h : next.body.Keyless) : ∃ place, scan.Reaches place ∧ place.KeepsKeyless := by
  induction hreaches with
  | refl => exact absurd h hbody
  | tail hplace hturn ih =>
    rcases hturn.keyless_iff with hiff | ⟨hkeeps, -⟩
    · exact ih (hiff.mp h)
    · exact ⟨_, hplace, hkeeps⟩

/-- **A tag ends with an empty key exactly if the scan comes to such a value.** -/
theorem keyless_result_iff (hbody : ¬scan.body.Keyless) :
    scan.result.Keyless ↔ ∃ place, scan.Reaches place ∧ place.KeepsKeyless := by
  constructor
  · obtain ⟨body, state, hreaches, hresult⟩ := scan.exists_end
    rw [hresult, TagBody.keyless_finish]
    exact hreaches.exists_keepsKeyless hbody
  · rintro ⟨place, hreaches, hkeeps⟩
    obtain @⟨body, value, rest, hequals⟩ := hkeeps
    have hturn : Turn ⟨body, .bare [] value, ' ' :: rest⟩
        ⟨body.put [] value, .word [] false, rest⟩ := .endValue hequals
    obtain ⟨body, state, hbehind, hresult⟩ := exists_end ⟨body.put [] value, .word [] false, rest⟩
    rw [hreaches.result_eq, hturn.result_eq, hresult, TagBody.keyless_finish]
    exact hbehind.keyless ((TagBody.keyless_put [] value).mpr (Or.inl rfl))

/-- The scan at the start of a text between brackets. -/
def start (inner : Text) : TagScan := ⟨⟨none, []⟩, .word [] false, inner⟩

theorem clean_start (inner : Text) : (start inner).Clean :=
  ⟨fun _ hentry => absurd hentry List.not_mem_nil, isWord_nil⟩

end TagScan

/-! ## 4. Tags -/

/-- The attributes of an opening tag come from the scan, or there is no equals sign to scan for. -/
theorem attributes_of_ofInner? {inner name : Text} {attributes : Attributes}
    (h : Tag.ofInner? inner = some (.opening name attributes)) :
    attributes = (TagScan.start inner).result.attributes ∨ attributes = [] ∧ '=' ∉ inner := by
  unfold Tag.ofInner? at h
  split at h
  · cases h
  · cases h
  · split at h
    · injection h with h
      injection h with _ hattributes
      exact Or.inl hattributes.symm
    · next hplain =>
      injection h with h
      injection h with _ hattributes
      refine Or.inr ⟨hattributes.symm, fun hequals => hplain ?_⟩
      exact List.any_eq_true.mpr ⟨'=', hequals, rfl⟩

/-- Somewhere in a bracketed span the scan of its text keeps a value without a key. -/
def KeepsKeyless (raw : Text) : Prop :=
  ∃ place, (TagScan.start (Text.trim raw.tail.dropLast)).Reaches place ∧ place.KeepsKeyless

/-- **Every attribute of an opening tag is clean, but for the empty key of a value without a key.**
Such a value is kept if it has no quotes and ends at a space in front of a later equals sign; at a
closing quote and at the end of the tag it is left out. -/
theorem ofSpan?_attributes {raw name : Text} {attributes : Attributes}
    (h : Tag.ofSpan? raw = some (.opening name attributes)) :
    (∀ entry ∈ attributes, CleanEntry entry) ∧ ([] ∈ Dict.keys attributes ↔ KeepsKeyless raw) := by
  obtain ⟨body, rfl, -, hinner⟩ := exists_brackets h
  rw [KeepsKeyless, List.tail_cons, List.dropLast_concat]
  rcases attributes_of_ofInner? hinner with rfl | ⟨rfl, hequals⟩
  · exact ⟨(TagScan.clean_start _).result, TagScan.keyless_result_iff List.not_mem_nil⟩
  · refine ⟨fun _ hentry => absurd hentry List.not_mem_nil, iff_of_false List.not_mem_nil ?_⟩
    rintro ⟨place, hreaches, ⟨hlater⟩⟩
    exact hequals (hreaches.text_suffix.subset (List.mem_cons_of_mem _ hlater))

theorem ofSpan?_attributes_quoted :
    let raw := "[B Key=\" a = b\" =x]".toList
    let attributes : Attributes := [("key".toList, "a = b".toList)]
    Tag.ofSpan? raw = some (.opening "b".toList attributes) ∧
      (∀ entry ∈ attributes, CleanEntry entry) ∧
      ([] ∈ Dict.keys attributes ↔ KeepsKeyless raw) := by
  intro raw attributes
  have htag : Tag.ofSpan? raw = some (.opening "b".toList attributes) := by decide +kernel
  exact ⟨htag, ofSpan?_attributes htag⟩

/-- Here the value `x` has no key, no quotes and a space behind it. -/
theorem ofSpan?_emptyKey :
    let attributes : Attributes :=
      [([], "x".toList), ("k".toList, "1".toList), ("y".toList, "2".toList)]
    Tag.ofSpan? "[b k=1 =x y=2]".toList = some (.opening "b".toList attributes) ∧
      ¬∀ key ∈ Dict.keys attributes, key ≠ [] := by
  decide +kernel

end Dispatch.Markup
