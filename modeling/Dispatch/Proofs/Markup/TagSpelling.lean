import Dispatch.Proofs.Markup.QuotedAttributes
import Dispatch.Proofs.Text.Signs

/-!
# The spelling of a tag

The name of a tag and the key in `[name=value]` are read from one word, that is trimmed and lowered
on different paths. Two scans whose first words are lowered alike stay alike
(`TagBody.scan_same`), so a name in its place may be spelled otherwise (`NamePlace.ofInner?`), and
every tag has its name in such a place (`exists_namePlace`). Where the span of a tag ends is told by
its brackets, quotes and equals signs alone (`isSpan_congr`).
-/

namespace Dispatch.Markup

/-! ## 1. Two scans of attributes -/

/-- The words are lowered alike, also when they are trimmed first. -/
structure SameWord (word other : Text) : Prop where
  lower : Text.lower word = Text.lower other
  trimmed : Text.lower (Text.trim word) = Text.lower (Text.trim other)

theorem SameWord.isEmpty {word other : Text} (h : Text.lower word = Text.lower other) :
    word.isEmpty = other.isEmpty := by
  cases word with
  | nil =>
    have hnil : other = [] := Text.lower_eq_nil_iff.mp h.symm
    rw [hnil]
  | cons c word =>
    cases other with
    | nil => exact absurd (Text.lower_eq_nil_iff.mp h) (List.cons_ne_nil c word)
    | cons d other => rfl

/-- The bodies have the same attributes and, trimmed and lowered, the same name. -/
structure TagBody.Same (body other : TagBody) : Prop where
  attributes : body.attributes = other.attributes
  name : body.name.map (fun name => Text.lower (Text.trim name)) =
    other.name.map fun name => Text.lower (Text.trim name)

/-- The states differ at most in the spelling of a word that has ended or of a key. -/
inductive AttributeState.Same : AttributeState → AttributeState → Prop
  | refl (state : AttributeState) : Same state state
  | word {word other : Text} (h : SameWord word other) : Same (.word word true) (.word other true)
  | bare {key other : Text} (h : Text.lower key = Text.lower other) (value : Text) :
      Same (.bare key value) (.bare other value)
  | quoted {key other : Text} (h : Text.lower key = Text.lower other) (value : Text)
      (quote : Char) : Same (.quoted key value quote) (.quoted other value quote)

namespace AttributeState.Same

variable {state : AttributeState}

theorem word_inv {word : Text} {ended : Bool} (h : (AttributeState.word word ended).Same state) :
    ∃ other, state = .word other ended ∧ SameWord word other ∧ (ended = false → word = other) := by
  cases h with
  | refl => exact ⟨word, rfl, ⟨rfl, rfl⟩, fun _ => rfl⟩
  | word h' => exact ⟨_, rfl, h', fun hended => nomatch hended⟩

theorem bare_inv {key value : Text} (h : (AttributeState.bare key value).Same state) :
    ∃ other, state = .bare other value ∧ Text.lower key = Text.lower other := by
  cases h with
  | refl => exact ⟨key, rfl, rfl⟩
  | bare h' => exact ⟨_, rfl, h'⟩

theorem quoted_inv {key value : Text} {quote : Char}
    (h : (AttributeState.quoted key value quote).Same state) :
    ∃ other, state = .quoted other value quote ∧ Text.lower key = Text.lower other := by
  cases h with
  | refl => exact ⟨key, rfl, rfl⟩
  | quoted h' => exact ⟨_, rfl, h'⟩

end AttributeState.Same

namespace TagBody

namespace Same

variable {body other : TagBody}

theorem refl (body : TagBody) : Same body body := ⟨rfl, rfl⟩

theorem isNone_name (h : Same body other) : body.name.isNone = other.name.isNone := by
  have hname := congrArg Option.isNone h.name
  rwa [Option.isNone_map, Option.isNone_map] at hname

/-- Such bodies are the same tag. -/
theorem tag (h : Same body other) :
    Tag.opening (Text.lower (Text.trim (body.name.getD []))) body.attributes =
      .opening (Text.lower (Text.trim (other.name.getD []))) other.attributes := by
  have hname := congrArg (Option.getD · (Text.lower (Text.trim []))) h.name
  simp only [Option.getD_map] at hname
  rw [h.attributes, hname]

theorem withName (h : Same body other) {word word' : Text}
    (hword : Text.lower (Text.trim word) = Text.lower (Text.trim word')) :
    Same (body.withName word) (other.withName word') := by
  refine ⟨h.attributes, ?_⟩
  have hname := h.name
  rw [TagBody.withName, TagBody.withName]
  cases hbody : body.name with
  | none =>
    cases hother : other.name with
    | none => exact congrArg some hword
    | some name => rw [hbody, hother] at hname; cases hname
  | some name =>
    cases hother : other.name with
    | none => rw [hbody, hother] at hname; cases hname
    | some name' => rw [hbody, hother] at hname; exact hname

theorem put (h : Same body other) {key key' : Text} (hkey : Text.lower key = Text.lower key')
    (value : Text) : Same (body.put key value) (other.put key' value) := by
  refine ⟨?_, h.name⟩
  rw [TagBody.put, TagBody.put, hkey, h.attributes]

theorem putKeyed (h : Same body other) {key key' : Text} (hkey : Text.lower key = Text.lower key')
    (value : Text) : Same (body.putKeyed key value) (other.putKeyed key' value) := by
  rw [TagBody.putKeyed, TagBody.putKeyed, SameWord.isEmpty hkey]
  split
  · exact h
  · exact h.put hkey value

theorem endWord (h : Same body other) {word word' : Text} (hword : SameWord word word') :
    Same (body.endWord word) (other.endWord word') := by
  rw [TagBody.endWord, TagBody.endWord, SameWord.isEmpty hword.lower, h.isNone_name]
  split
  · exact h
  · split
    · exact h.withName hword.trimmed
    · exact h.put hword.lower []

theorem finish (h : Same body other) {state state' : AttributeState} (hstate : state.Same state') :
    Same (body.finish state) (other.finish state') := by
  have hword {word word' : Text} (hword : SameWord word word') (ended : Bool) :
      Same (body.finish (.word word ended)) (other.finish (.word word' ended)) := by
    rw [TagBody.finish, TagBody.finish, SameWord.isEmpty hword.lower]
    split
    · exact h
    · exact (h.withName hword.trimmed).put hword.lower []
  cases hstate with
  | refl =>
    cases state with
    | word word ended => exact hword ⟨rfl, rfl⟩ ended
    | bare key value => exact h.putKeyed rfl value
    | quoted key value quote => exact h.putKeyed rfl value
  | word h' => exact hword h' true
  | bare h' value => exact h.putKeyed h' value
  | quoted h' value quote => exact h.putKeyed h' value

end Same

/-- **Scans of one text agree** from states and bodies that agree. -/
theorem scan_same {body other : TagBody} (h : Same body other) {state state' : AttributeState}
    (hstate : state.Same state') (text : Text) :
    Same (scan body state text) (scan other state' text) := by
  fun_induction scan body state text generalizing other state' with
  | case1 body state =>
    rw [scan]
    exact h.finish hstate
  | case2 body word ended rest ih =>
    obtain ⟨word', rfl, hword, -⟩ := hstate.word_inv
    rw [scan, if_pos rfl]
    exact ih (h.withName hword.trimmed) (.bare hword.lower [])
  | case3 body word ended rest hequals ih =>
    obtain ⟨word', rfl, hword, -⟩ := hstate.word_inv
    rw [scan, if_neg hequals, if_pos rfl]
    exact ih h (.word hword)
  | case4 body word c rest hequals hspace ih =>
    obtain ⟨word', rfl, hword, -⟩ := hstate.word_inv
    rw [scan, if_neg hequals, if_neg hspace, if_pos rfl]
    exact ih (h.endWord hword) (.refl _)
  | case5 body word ended c rest hequals hspace hended ih =>
    obtain ⟨word', rfl, -, hsame⟩ := hstate.word_inv
    rw [hsame (Bool.eq_false_iff.mpr hended)] at ih ⊢
    rw [scan, if_neg hequals, if_neg hspace, if_neg hended]
    exact ih h (.refl _)
  | case6 body key value c rest hquote ih =>
    obtain ⟨key', rfl, hkey⟩ := hstate.bare_inv
    rw [scan, if_pos hquote]
    exact ih h (.quoted hkey value c)
  | case7 body key value c rest hquote hends ih =>
    obtain ⟨key', rfl, hkey⟩ := hstate.bare_inv
    rw [scan, if_neg hquote, if_pos hends]
    exact ih (h.put hkey value) (.refl _)
  | case8 body key value c rest hquote hends ih =>
    obtain ⟨key', rfl, hkey⟩ := hstate.bare_inv
    rw [scan, if_neg hquote, if_neg hends]
    exact ih h (.bare hkey _)
  | case9 body key value quote c rest hescaped ih =>
    obtain ⟨key', rfl, hkey⟩ := hstate.quoted_inv
    rw [scan, if_pos hescaped]
    exact ih h (.quoted hkey _ quote)
  | case10 body key value quote c rest hescaped ih =>
    obtain ⟨key', rfl, hkey⟩ := hstate.quoted_inv
    rw [scan, if_neg hescaped]
    exact ih h (.quoted hkey _ quote)
  | case11 body key value quote rest hlast ih =>
    obtain ⟨key', rfl, hkey⟩ := hstate.quoted_inv
    rw [scan, if_pos rfl]
    · exact ih (h.putKeyed hkey value) (.refl _)
    · exact hlast
  | case12 body key value quote c rest hlast hquote ih =>
    obtain ⟨key', rfl, hkey⟩ := hstate.quoted_inv
    rw [scan, if_neg hquote]
    · exact ih h (.quoted hkey _ quote)
    · exact hlast

theorem name_putKeyed (body : TagBody) (key value : Text) :
    (body.putKeyed key value).name = body.name := by
  rw [putKeyed]
  split <;> rfl

theorem name_withName (body : TagBody) (word : Text) :
    (body.withName word).name = some (body.name.getD word) := rfl

/-- A name that the body has stays. -/
theorem name_scan {body : TagBody} {name : Text} (h : body.name = some name)
    (state : AttributeState) (text : Text) : (scan body state text).name = some name := by
  have hword {body : TagBody} (h : body.name = some name) (word : Text) :
      (body.withName word).name = some name := by rw [name_withName, h, Option.getD_some]
  fun_induction scan body state text with
  | case1 body state =>
    cases state with
    | word word ended =>
      rw [finish]
      split
      · exact h
      · exact hword h word
    | bare key value => exact (name_putKeyed body key value).trans h
    | quoted key value quote => exact (name_putKeyed body key value).trans h
  | case2 body word ended rest ih => exact ih (hword h word)
  | case3 body word ended rest hequals ih => exact ih h
  | case4 body word c rest hequals hspace ih =>
    refine ih ?_
    rw [endWord, h]
    split <;> exact h
  | case5 body word ended c rest hequals hspace hended ih => exact ih h
  | case6 body key value c rest hquote ih => exact ih h
  | case7 body key value c rest hquote hends ih => exact ih h
  | case8 body key value c rest hquote hends ih => exact ih h
  | case9 body key value quote c rest hescaped ih => exact ih h
  | case10 body key value quote c rest hescaped ih => exact ih h
  | case11 body key value quote rest hlast ih => exact ih ((name_putKeyed body key value).trans h)
  | case12 body key value quote c rest hlast hquote ih => exact ih h

/-- The first word that has ended is the name. -/
theorem name_scan_ended {body : TagBody} (hbody : body.name = none) {word : Text}
    (hword : word ≠ []) (text : Text) : (scan body (.word word true) text).name = some word := by
  have hnamed : (body.withName word).name = some word := by rw [name_withName, hbody]; rfl
  have hempty : ¬word.isEmpty = true := by simpa using hword
  induction text with
  | nil =>
    rw [scan, finish, if_neg hempty]
    exact hnamed
  | cons c text ih =>
    by_cases hequals : c = '='
    · rw [scan, if_pos hequals]
      exact name_scan hnamed _ _
    · by_cases hspace : c = ' '
      · rw [scan, if_neg hequals, if_pos hspace]
        exact ih
      · rw [scan, if_neg hequals, if_neg hspace, if_pos rfl, endWord, if_neg hempty, hbody]
        exact name_scan hnamed _ _

/-- **The word in front of the first equals sign or space is the name**, and its spelling does not
matter. -/
theorem scan_first {word : Text} {c : Char} (hc : c = '=' ∨ c = ' ' ∧ word ≠ []) (rest : Text) :
    (scan ⟨none, []⟩ (.word word false) (c :: rest)).name = some word ∧
      ∀ other, SameWord word other →
        Same (scan ⟨none, []⟩ (.word word false) (c :: rest))
          (scan ⟨none, []⟩ (.word other false) (c :: rest)) := by
  have hspace : ' ' ≠ '=' := by decide
  rcases hc with rfl | ⟨rfl, hword⟩
  · refine ⟨?_, fun other hother => ?_⟩
    · rw [scan, if_pos rfl]
      exact name_scan rfl _ _
    · rw [scan, scan, if_pos rfl, if_pos rfl]
      exact scan_same ((Same.refl _).withName hother.trimmed) (.bare hother.lower []) rest
  · refine ⟨?_, fun other hother => ?_⟩
    · rw [scan, if_neg hspace, if_pos rfl]
      exact name_scan_ended rfl hword rest
    · rw [scan, scan, if_neg hspace, if_neg hspace, if_pos rfl, if_pos rfl]
      exact scan_same (Same.refl _) (.word hother) rest

end TagBody

/-! ## 2. The name in its place -/

/-- What may stand behind the name of an opening tag: nothing, or an equals sign or a space with at
most other blanks in front of it. -/
def EndsName (behind : Text) : Prop :=
  behind = [] ∨ ∃ gap c rest, behind = gap ++ c :: rest ∧ (c = '=' ∨ c = ' ') ∧
    ∀ d ∈ gap, Text.isBlank d = true ∧ d ≠ ' '

/-- Where the name stands between the brackets of a tag. -/
inductive NamePlace : (front name behind : Text) → Prop
  | closing {gap name : Text} (blank : ∀ c ∈ gap, Text.isBlank c = true) :
      NamePlace ('/' :: gap) name []
  | opening {name behind : Text} (slash : name.head? ≠ some '/') (equals : '=' ∉ name)
      (space : ' ' ∉ name) (ends : EndsName behind) : NamePlace [] name behind

/-- A text that does not begin with a slash is an opening tag. -/
theorem ofInner?_of_opening {inner : Text} (hne : inner ≠ []) (hslash : inner.head? ≠ some '/') :
    Tag.ofInner? inner =
      if inner.any fun c => c = '=' || c = ' ' then
        let body := TagBody.scan ⟨none, []⟩ (.word [] false) inner
        some (.opening (Text.lower (Text.trim (body.name.getD []))) body.attributes)
      else some (.opening (Text.lower inner) []) := by
  unfold Tag.ofInner?
  split
  · exact absurd rfl hne
  · exact absurd rfl hslash
  · rfl

/-- The tag of a text in which the name ends before an equals sign or a space. -/
theorem ofInner?_of_word {word : Text} {c : Char} {rest : Text}
    (hword : ∀ d ∈ word, d ≠ '=' ∧ d ≠ ' ') (hslash : word.head? ≠ some '/')
    (hc : c = '=' ∨ c = ' ') :
    Tag.ofInner? (word ++ c :: rest) =
      let body := TagBody.scan ⟨none, []⟩ (.word word false) (c :: rest)
      some (.opening (Text.lower (Text.trim (body.name.getD []))) body.attributes) := by
  have hne : word ++ c :: rest ≠ [] := List.append_ne_nil_of_right_ne_nil _ (List.cons_ne_nil _ _)
  have hhead : (word ++ c :: rest).head? ≠ some '/' := by
    cases word with
    | nil => rcases hc with rfl | rfl <;> simp
    | cons d word => exact hslash
  have hany : ((word ++ c :: rest).any fun d => d = '=' || d = ' ') = true := by
    refine List.any_eq_true.mpr ⟨c, List.mem_append_right _ List.mem_cons_self, ?_⟩
    rcases hc with rfl | rfl <;> rfl
  rw [ofInner?_of_opening hne hhead, if_pos hany, TagBody.scan_letters _ [] hword, List.nil_append]

/-- The tag of a text in which there may be blanks between the name and the equals sign or space. -/
theorem ofInner?_of_gap {word gap : Text} {c : Char} {rest : Text}
    (hword : ∀ d ∈ word, d ≠ '=' ∧ d ≠ ' ') (hslash : word.head? ≠ some '/')
    (hgap : ∀ d ∈ gap, Text.isBlank d = true ∧ d ≠ ' ') (hc : c = '=' ∨ c = ' ') :
    Tag.ofInner? (word ++ (gap ++ c :: rest)) =
      let body := TagBody.scan ⟨none, []⟩ (.word (word ++ gap) false) (c :: rest)
      some (.opening (Text.lower (Text.trim (body.name.getD []))) body.attributes) := by
  have hletters : ∀ d ∈ word ++ gap, d ≠ '=' ∧ d ≠ ' ' := by
    intro d hd
    rcases List.mem_append.mp hd with hd | hd
    · exact hword d hd
    · refine ⟨?_, (hgap d hd).2⟩
      rintro rfl
      cases (hgap _ hd).1
  have hhead : (word ++ gap).head? ≠ some '/' := by
    cases word with
    | cons d word => exact hslash
    | nil =>
      intro hd
      cases (hgap _ (List.mem_of_head? hd)).1
  rw [← List.append_assoc]
  exact ofInner?_of_word hletters hhead hc

/-- The tag of a text that is a name and nothing else. -/
theorem ofInner?_of_name {word : Text} (hword : ∀ d ∈ word, d ≠ '=' ∧ d ≠ ' ')
    (hslash : word.head? ≠ some '/') (hne : word ≠ []) :
    Tag.ofInner? word = some (.opening (Text.lower word) []) := by
  have hplain : ¬(word.any fun d => d = '=' || d = ' ') = true := by
    rw [List.any_eq_true]
    rintro ⟨d, hd, hsign⟩
    simp [hword d hd] at hsign
  rw [ofInner?_of_opening hne hslash, if_neg hplain]

/-- A name that an opening tag may have may be had in every other spelling. -/
theorem letters_respelled {name other : Text} (hlower : Text.lower other = Text.lower name)
    (hslash : name.head? ≠ some '/') (hequals : '=' ∉ name) (hspace : ' ' ∉ name) :
    (∀ d ∈ other, d ≠ '=' ∧ d ≠ ' ') ∧ other.head? ≠ some '/' := by
  refine ⟨fun d hd => ⟨?_, ?_⟩, fun hhead => hslash ?_⟩
  · rintro rfl
    exact hequals ((Text.mem_iff_of_lower_eq hlower (by decide)).mp hd)
  · rintro rfl
    exact hspace ((Text.mem_iff_of_lower_eq hlower (by decide)).mp hd)
  · exact (Text.head?_iff_of_lower_eq hlower (by decide)).mp hhead

section Respelled

variable {name other : Text} (hlower : Text.lower other = Text.lower name)
  (hname : Text.trim name = name)
include hlower hname

/-- Words that are lowered alike are so with blanks behind them. -/
theorem sameWord_append_blanks {gap : Text} (hgap : ∀ c ∈ gap, Text.isBlank c = true) :
    SameWord (name ++ gap) (other ++ gap) := by
  constructor
  · rw [Text.lower_append_blanks hgap, Text.lower_append_blanks hgap, hlower]
  · rw [Text.trim_append_blanks hgap, Text.trim_append_blanks hgap, hname,
      Text.trim_eq_self_of_lower_eq hlower hname, hlower]

/-- A trimmed text stays trimmed when a name in it is spelled otherwise. -/
theorem trim_respelled {front behind : Text}
    (hinner : Text.trim (front ++ name ++ behind) = front ++ name ++ behind) :
    Text.trim (front ++ other ++ behind) = front ++ other ++ behind := by
  have hother := Text.trim_eq_self_of_lower_eq hlower hname
  cases other with
  | nil =>
    have hempty : name = [] := Text.lower_eq_nil_iff.mp hlower.symm
    rwa [hempty] at hinner
  | cons c rest =>
    refine Text.trim_eq_self (fun d hd => ?_) fun d hd => ?_
    · cases front with
      | nil =>
        refine @Text.trim_head_not_blank (c :: rest) d ?_
        rw [hother]
        exact hd
      | cons first front =>
        refine @Text.trim_head_not_blank (first :: front ++ name ++ behind) d ?_
        rw [hinner]
        exact hd
    · rcases behind.eq_nil_or_concat with rfl | ⟨behind, last, rfl⟩
      · refine @Text.trim_last_not_blank (c :: rest) d ?_
        rw [hother]
        simpa [List.getLast?_append, List.getLast?_cons] using hd
      · rw [List.concat_eq_append, ← List.append_assoc] at hinner hd
        refine @Text.trim_last_not_blank (front ++ name ++ behind ++ [last]) d ?_
        rw [hinner, List.getLast?_concat]
        rwa [List.getLast?_concat] at hd

end Respelled

/-- **The tag has the name that stands in the place of the name**, and how that name is spelled does
not matter. -/
theorem NamePlace.ofInner? {front name behind : Text} (h : NamePlace front name behind)
    (hname : Text.trim name = name)
    (hinner : Text.trim (front ++ name ++ behind) = front ++ name ++ behind)
    (hne : front ++ name ++ behind ≠ []) :
    ∃ tag, Tag.ofInner? (front ++ name ++ behind) = some tag ∧ tag.name = Text.lower name ∧
      ∀ other, Text.lower other = Text.lower name →
        Tag.ofInner? (front ++ other ++ behind) = some tag := by
  cases h with
  | @closing gap _ hgap =>
    have hread (word : Text) (hword : Text.trim word = word) :
        Tag.ofInner? ('/' :: gap ++ word ++ []) = some (.closing (Text.lower word)) := by
      change some (Tag.closing (Text.lower (Text.trim (gap ++ word ++ [])))) = _
      rw [List.append_nil, Text.trim_blanks_append hgap, hword]
    refine ⟨_, hread name hname, rfl, fun other hother => ?_⟩
    rw [hread other (Text.trim_eq_self_of_lower_eq hother hname), hother]
  | opening hslash hequals hspace hends =>
    rcases hends with rfl | ⟨gap, c, rest, rfl, hc, hgap⟩
    · have hread {other : Text} (hother : Text.lower other = Text.lower name) :
          Tag.ofInner? ([] ++ other ++ []) = some (.opening (Text.lower name) []) := by
        obtain ⟨hletters, hhead⟩ := letters_respelled hother hslash hequals hspace
        have hnil : other ≠ [] := by
          rintro rfl
          exact hne (by simpa using Text.lower_eq_nil_iff.mp hother.symm)
        rw [List.nil_append, List.append_nil, ofInner?_of_name hletters hhead hnil, hother]
      exact ⟨_, hread rfl, rfl, fun other hother => hread hother⟩
    · have hblanks : ∀ d ∈ gap, Text.isBlank d = true := fun d hd => (hgap d hd).1
      have hread {other : Text} (hother : Text.lower other = Text.lower name) :
          Tag.ofInner? ([] ++ other ++ (gap ++ c :: rest)) =
            let body := TagBody.scan ⟨none, []⟩ (.word (other ++ gap) false) (c :: rest)
            some (.opening (Text.lower (Text.trim (body.name.getD []))) body.attributes) := by
        obtain ⟨hletters, hhead⟩ := letters_respelled hother hslash hequals hspace
        exact ofInner?_of_gap hletters hhead hgap hc
      have hfirst : c = '=' ∨ c = ' ' ∧ name ++ gap ≠ [] := by
        refine hc.imp_right fun hspace => ⟨hspace, fun hnil => ?_⟩
        -- otherwise the space would stand at the start of a trimmed text
        have hhead : (Text.trim ([] ++ name ++ (gap ++ c :: rest))).head? = some ' ' := by
          rw [hinner, List.nil_append, ← List.append_assoc, hnil, hspace]
          rfl
        cases Text.trim_head_not_blank hhead
      obtain ⟨hnamed, hsame⟩ := TagBody.scan_first hfirst rest
      refine ⟨_, hread rfl, ?_, fun other hother => ?_⟩
      · simp only [Tag.name, hnamed, Option.getD_some, Text.trim_append_blanks hblanks, hname]
      · have halike := hsame _ (sameWord_append_blanks hother hname hblanks)
        rw [hread hother]
        exact congrArg some halike.tag.symm

/-- Whether a character goes on with the first word of a tag. -/
def continuesWord (c : Char) : Bool := c ≠ '=' && c ≠ ' '

theorem continuesWord_eq_true {c : Char} : continuesWord c = true ↔ c ≠ '=' ∧ c ≠ ' ' := by
  simp [continuesWord]

/-- The first word of a trimmed text ends as a name does, with the blanks behind it. -/
theorem exists_gap {inner : Text} (htrim : Text.trim inner = inner) :
    ∃ gap, inner.takeWhile continuesWord = Text.trimEnd (inner.takeWhile continuesWord) ++ gap ∧
      EndsName (gap ++ inner.dropWhile continuesWord) := by
  obtain ⟨gap, hword, hgap⟩ := Text.trimEnd_append (inner.takeWhile continuesWord)
  refine ⟨gap, hword, ?_⟩
  cases hrest : inner.dropWhile continuesWord with
  | nil =>
    have hwhole : inner.takeWhile continuesWord = inner := by
      have hboth := @List.takeWhile_append_dropWhile _ continuesWord inner
      rwa [hrest, List.append_nil] at hboth
    have hend : Text.trimEnd inner = inner := Text.trimEnd_eq_self fun c hc =>
      @Text.trim_last_not_blank inner c (by rwa [htrim])
    have hnone : inner ++ gap = inner := by
      rw [hwhole, hend] at hword
      exact hword.symm
    exact Or.inl (by rw [List.append_nil]; exact List.append_right_eq_self.mp hnone)
  | cons c rest =>
    have hc : continuesWord c = false := Text.dropWhile_head_not inner (by rw [hrest]; rfl)
    refine Or.inr ⟨gap, c, rest, rfl, ?_, fun d hd => ⟨hgap d hd, ?_⟩⟩
    · by_cases hequals : c = '='
      · exact Or.inl hequals
      · simp [continuesWord, hequals] at hc
        exact Or.inr hc
    · have hmem : d ∈ inner.takeWhile continuesWord := hword ▸ List.mem_append_right _ hd
      exact (continuesWord_eq_true.mp (List.all_eq_true.mp List.all_takeWhile d hmem)).2

/-- **Every text between brackets has a name in its place.** -/
theorem exists_namePlace {inner : Text} (htrim : Text.trim inner = inner) :
    ∃ front name behind, inner = front ++ name ++ behind ∧ NamePlace front name behind ∧
      Text.trim name = name := by
  by_cases hslash : inner.head? = some '/'
  · obtain ⟨rest, rfl⟩ := List.head?_eq_some_iff.mp hslash
    refine ⟨'/' :: rest.takeWhile Text.isBlank, rest.dropWhile Text.isBlank, [], ?_, ?_, ?_⟩
    · rw [List.append_nil, List.cons_append, List.takeWhile_append_dropWhile]
    · exact .closing fun c hc => List.all_eq_true.mp List.all_takeWhile c hc
    · refine Text.trim_eq_self (fun c hc => Text.dropWhile_head_not rest hc) fun c hc => ?_
      refine @Text.trim_last_not_blank ('/' :: rest) c ?_
      have hparts : '/' :: rest =
          ('/' :: rest.takeWhile Text.isBlank) ++ rest.dropWhile Text.isBlank := by
        rw [List.cons_append, List.takeWhile_append_dropWhile]
      rw [htrim, hparts, List.getLast?_append, hc]
      rfl
  · -- the name is the first word, up to the blanks at its end
    obtain ⟨gap, hword, hends⟩ := exists_gap htrim
    have hparts : inner = [] ++ Text.trimEnd (inner.takeWhile continuesWord) ++
        (gap ++ inner.dropWhile continuesWord) := by
      rw [List.nil_append, ← List.append_assoc, ← hword, List.takeWhile_append_dropWhile]
    have hfirst {c : Char} (hc : (Text.trimEnd (inner.takeWhile continuesWord)).head? = some c) :
        inner.head? = some c := by
      rw [hparts, List.nil_append, List.head?_append, hc]
      rfl
    have hletters : ∀ c ∈ Text.trimEnd (inner.takeWhile continuesWord), c ≠ '=' ∧ c ≠ ' ' := by
      intro c hc
      have hmem : c ∈ inner.takeWhile continuesWord := hword ▸ List.mem_append_left _ hc
      exact continuesWord_eq_true.mp (List.all_eq_true.mp List.all_takeWhile c hmem)
    refine ⟨[], Text.trimEnd (inner.takeWhile continuesWord), gap ++ inner.dropWhile continuesWord,
      hparts, ?_, Text.trim_eq_self (fun c hc => ?_) fun _ => Text.trimEnd_last_not_blank⟩
    · exact .opening (fun hc => hslash (hfirst hc)) (fun hmem => (hletters _ hmem).1 rfl)
        (fun hmem => (hletters _ hmem).2 rfl) hends
    · refine @Text.trim_head_not_blank inner c ?_
      rw [htrim]
      exact hfirst hc

/-! ## 3. Spans -/

/-- Whether a character may change where a bracketed span ends. -/
def isBracketing (c : Char) : Bool := c = '[' || c = ']' || c = '=' || isQuote c

theorem isSign_of_isBracketing {c : Char} (h : isBracketing c = true) : Text.isSign c = true := by
  simp only [isBracketing, isQuote, Bool.or_eq_true, decide_eq_true_eq] at h
  rcases h with ((rfl | rfl) | rfl) | rfl | rfl <;> decide

theorem not_isBracketing_of_isBlank {c : Char} (h : Text.isBlank c = true) :
    isBracketing c = false := by
  refine Bool.eq_false_iff.mpr fun hc => ?_
  simp only [isBracketing, isQuote, Bool.or_eq_true, decide_eq_true_eq] at hc
  rcases hc with ((rfl | rfl) | rfl) | rfl | rfl <;> cases h

namespace Quoting

/-- How the character behind a text is read, if no bracket counts in the text. -/
def behind? (state : Quoting) : Text → Option Quoting
  | [] => some state
  | c :: rest =>
    if state.outside && (c = '[' || c = ']') then none else (state.next c).behind? rest

/-- A character that is not bracketing is passed over. -/
theorem next_of_not_isBracketing {state : Quoting}
    (hstate : ∀ q, state = .inside q → isQuote q = true) {c : Char} (hc : isBracketing c = false) :
    state.next c = state := by
  simp only [isBracketing, Bool.or_eq_false_iff, decide_eq_false_iff_not] at hc
  obtain ⟨⟨-, hequals⟩, hquote⟩ := hc
  cases state with
  | plain => exact if_neg hequals
  | allowed => rw [next, hquote, if_neg Bool.false_ne_true]
  | inside q =>
    refine if_neg ?_
    rintro rfl
    exact Bool.false_ne_true (hquote.symm.trans (hstate c rfl))

/-- **Only the bracketing characters of a text count.** -/
theorem behind?_filter {state : Quoting} (hstate : ∀ q, state = .inside q → isQuote q = true)
    (text : Text) : state.behind? (text.filter isBracketing) = state.behind? text := by
  induction text generalizing state with
  | nil => rfl
  | cons c text ih =>
    cases hc : isBracketing c with
    | true =>
      rw [List.filter_cons_of_pos hc, behind?, behind?, ih (isQuote_of_next hstate c)]
    | false =>
      have hbracket : (state.outside && (decide (c = '[') || decide (c = ']'))) = false := by
        simp only [isBracketing, Bool.or_eq_false_iff] at hc
        rw [hc.1.1.1, hc.1.1.2, Bool.or_false, Bool.and_false]
      rw [List.filter_cons_of_neg (by rw [hc]; exact Bool.false_ne_true), behind?, hbracket,
        if_neg Bool.false_ne_true, next_of_not_isBracketing hstate hc, ih hstate]

end Quoting

/-- A bracket closes a span exactly if it counts and none counts in front of it. -/
theorem scan_concat_iff {state : Quoting} {body : Text} :
    Bracket.scan state (body ++ [']']) = ⟨body ++ [']'], [], true⟩ ↔
      ∃ after, state.behind? body = some after ∧ after.outside = true := by
  induction body generalizing state with
  | nil =>
    rw [List.nil_append, Quoting.behind?]
    cases hout : state.outside with
    | true =>
      rw [Bracket.scan_close (by rw [hout]; decide) (by rw [hout]; rfl)]
      exact ⟨fun _ => ⟨state, rfl, hout⟩, fun _ => rfl⟩
    | false =>
      rw [Bracket.scan_step (by rw [hout]; decide) (by rw [hout]; decide)]
      constructor
      · exact fun h => nomatch congrArg Bracket.closed h
      · rintro ⟨after, hafter, houtside⟩
        obtain rfl := Option.some.inj hafter
        exact absurd (hout.symm.trans houtside) Bool.false_ne_true
  | cons c body ih =>
    rw [List.cons_append, Quoting.behind?]
    by_cases hopen : (state.outside && decide (c = '[')) = true
    · have hcounts : (state.outside && (decide (c = '[') || decide (c = ']'))) = true := by
        rw [Bool.and_or_distrib_left, hopen, Bool.true_or]
      rw [Bracket.scan_break hopen, if_pos hcounts]
      exact ⟨fun h => (nomatch congrArg Bracket.closed h), fun ⟨_, h, _⟩ => nomatch h⟩
    · by_cases hclose : (state.outside && decide (c = ']')) = true
      · have hcounts : (state.outside && (decide (c = '[') || decide (c = ']'))) = true := by
          rw [Bool.and_or_distrib_left, hclose, Bool.or_true]
        rw [Bracket.scan_close hopen hclose, if_pos hcounts]
        refine ⟨fun h => ?_, fun ⟨_, h, _⟩ => nomatch h⟩
        have hrest : body ++ [']'] = [] := congrArg Bracket.rest h
        exact absurd hrest (List.append_ne_nil_of_right_ne_nil _ (List.cons_ne_nil _ _))
      · have hcounts : ¬(state.outside && (decide (c = '[') || decide (c = ']'))) = true := by
          rw [Bool.and_or_distrib_left, Bool.or_eq_true]
          exact not_or.mpr ⟨hopen, hclose⟩
        rw [Bracket.scan_step hopen hclose, if_neg hcounts, ← ih]
        constructor
        · intro h
          have hinner := (List.cons.inj (congrArg Bracket.inner h)).2
          have hrest := congrArg Bracket.rest h
          have hclosed := congrArg Bracket.closed h
          generalize Bracket.scan (state.next c) (body ++ [']']) = span at hinner hrest hclosed
          obtain ⟨inner, rest, closed⟩ := span
          obtain rfl : inner = body ++ [']'] := hinner
          obtain rfl : rest = [] := hrest
          obtain rfl : closed = true := hclosed
          rfl
        · intro h
          rw [h]
          rfl

/-- **Whether a text in brackets is one span** is told by its bracketing characters. -/
theorem isSpan_congr {body other : Text} (h : body.filter isBracketing = other.filter isBracketing)
    (hspan : IsSpan ('[' :: (body ++ [']']))) : IsSpan ('[' :: (other ++ [']'])) := by
  obtain ⟨inner, hinner, hscan⟩ := hspan
  obtain rfl := (List.cons.inj hinner).2
  refine ⟨_, rfl, scan_concat_iff.mpr ?_⟩
  rw [← Quoting.behind?_filter Quoting.isQuote_of_plain, ← h,
    Quoting.behind?_filter Quoting.isQuote_of_plain]
  exact scan_concat_iff.mp hscan

end Dispatch.Markup
