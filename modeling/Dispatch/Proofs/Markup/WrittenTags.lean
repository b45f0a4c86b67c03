import Dispatch.Markup.Tag

/-!
# Tags as they are written

A tag is written as its name, with or without a value of its own, and `key=value` pairs with one
space in front of each. A value stands in quotes of either kind, with a backslash before each
delimiter and each backslash, or it stands bare. Reading the text back is one scan with a state:

* a key up to its equals sign starts a value (`TagBody.scan_key`, `TagBody.scan_spacedKey`);
* a value up to the next key is put under its own key, and nothing of it is left for the next one
  (`TagBody.scan_value`); a bare value ends there only because another equals sign follows;
* the last value ends with the text, which is trimmed before the scan (`TagBody.scan_lastValue`).

So the values of a tag are scanned one behind the other (`TagBody.scan_values`). Main statement:
`ofSpan?_writtenTag`.
-/

namespace Dispatch.Markup

/-! ## 1. Written values -/

/-- A value as it is written between two quotes: the quote and the backslash get a backslash. -/
def escapeValue (quote : Char) (value : Text) : Text :=
  value.flatMap fun c => if c = '\\' ∨ c = quote then ['\\', c] else [c]

theorem mem_escapeValue {quote c : Char} {value : Text} (h : c ∈ escapeValue quote value) :
    c = '\\' ∨ c ∈ value := by
  obtain ⟨d, hd, hc⟩ := List.mem_flatMap.mp h
  split at hc
  · rcases List.mem_cons.mp hc with rfl | hc
    · exact Or.inl rfl
    · exact Or.inr (List.mem_singleton.mp hc ▸ hd)
  · exact Or.inr (List.mem_singleton.mp hc ▸ hd)

theorem eq_of_isQuote {c : Char} (h : isQuote c = true) : c = '"' ∨ c = '\'' := by
  simpa [isQuote] using h

/-- Whether a character may stand in a value without quotes. -/
def isBareChar (c : Char) : Bool :=
  !(c = ' ' || isQuote c || c = '[' || c = ']' || Tag.isLineEnd c)

/-- A value as it is written behind an equals sign. -/
inductive WrittenValue where
  | bare (value : Text) (plain : value.all isBareChar = true)
  | quoted (quote : Char) (value : Text) (isQuote : isQuote quote = true)
      (oneLine : value.any Tag.isLineEnd = false)

namespace WrittenValue

/-- The value that is meant. -/
def value : WrittenValue → Text
  | .bare value _ => value
  | .quoted _ value _ _ => value

/-- The characters that are written for it. -/
def text : WrittenValue → Text
  | .bare value _ => value
  | .quoted quote value _ _ => quote :: (escapeValue quote value ++ [quote])

end WrittenValue

/-- A value under a key. -/
structure WrittenAttribute where
  key : Text
  value : WrittenValue
  validKey : isValidName key = true

namespace WrittenAttribute

/-- The attribute as it is written behind the name of a tag or another attribute. -/
def text (entry : WrittenAttribute) : Text :=
  ' ' :: (entry.key ++ '=' :: entry.value.text)

/-- The key with the trimmed value. -/
def trimmed (entry : WrittenAttribute) : Text × Text :=
  (entry.key, Text.trim entry.value.value)

end WrittenAttribute

/-- An opening tag with its attributes; the name itself may carry a value. -/
structure WrittenTag where
  name : Text
  own : Option WrittenValue
  attributes : List WrittenAttribute
  validName : isValidName name = true

namespace WrittenTag

/-- What stands between the brackets. -/
def inner (tag : WrittenTag) : Text :=
  (match tag.own with
    | none => tag.name
    | some value => tag.name ++ '=' :: value.text) ++ tag.attributes.flatMap WrittenAttribute.text

/-- The tag as it is written. -/
def text (tag : WrittenTag) : Text := '[' :: (tag.inner ++ [']'])

/-- All values with their keys, in the order of the text: the name is the key of its own value. -/
def keyed (tag : WrittenTag) : List WrittenAttribute :=
  match tag.own with
  | none => tag.attributes
  | some value => ⟨tag.name, value, tag.validName⟩ :: tag.attributes

/-- The keys with the trimmed values. -/
def entries (tag : WrittenTag) : List (Text × Text) := tag.keyed.map WrittenAttribute.trimmed

/-- The values by their keys: the last one of a key counts. -/
def values (tag : WrittenTag) : Attributes := Dict.ofList tag.entries

end WrittenTag

/-! ## 2. Names -/

theorem isNameChar_of_mem {name : Text} (h : isValidName name = true) {c : Char} (hc : c ∈ name) :
    isNameChar c = true := by
  have hall : name.all isNameChar = true := by simp_all [isValidName]
  exact List.all_eq_true.mp hall c hc

theorem lower_of_valid {name : Text} (h : isValidName name = true) : Text.lower name = name := by
  simp_all [isValidName]

theorem ne_nil_of_valid {name : Text} (h : isValidName name = true) : name ≠ [] := by
  rintro rfl
  cases h

theorem ne_of_isNameChar {c d : Char} (h : isNameChar c = true) (hd : isNameChar d = false) :
    c ≠ d := by
  rintro rfl
  exact Bool.false_ne_true (hd.symm.trans h)

theorem not_isNameChar_of_isQuote {c : Char} (h : isQuote c = true) : isNameChar c = false := by
  rcases eq_of_isQuote h with rfl | rfl <;> decide

theorem not_isBlank_of_isNameChar {c : Char} (h : isNameChar c = true) :
    Text.isBlank c = false := by
  rw [isNameChar] at h
  simpa using (Bool.and_eq_true_iff.mp h).1

theorem not_isLineEnd_of_isNameChar {c : Char} (h : isNameChar c = true) :
    Tag.isLineEnd c = false := by
  have hnewline : c ≠ '\n' := ne_of_isNameChar h (by decide)
  have hreturn : c ≠ '\r' := ne_of_isNameChar h (by decide)
  simp [Tag.isLineEnd, hnewline, hreturn]

/-- A text of one line between brackets reads as the tag that it is when it is trimmed. -/
theorem ofSpan?_brackets {inner : Text} (h : ∀ c ∈ inner, Tag.isLineEnd c = false) :
    Tag.ofSpan? ('[' :: (inner ++ [']'])) = Tag.ofInner? (Text.trim inner) := by
  have hline : ('[' :: (inner ++ [']'])).any Tag.isLineEnd = false := by
    refine List.any_eq_false.mpr fun c hc => ?_
    simp only [List.mem_cons, List.mem_append, List.not_mem_nil, or_false] at hc
    rcases hc with rfl | hinner | rfl
    · decide
    · rw [h c hinner]
      exact Bool.false_ne_true
    · decide
  have hlast : (inner ++ [']']).getLast? = some ']' := List.getLast?_concat
  rw [Tag.ofSpan?, hline, if_neg Bool.false_ne_true]
  simp only [hlast, ↓reduceIte, List.dropLast_concat]

theorem trim_of_valid {name : Text} (h : isValidName name = true) : Text.trim name = name := by
  refine Text.trim_eq_self (fun c hc => ?_) fun c hc => ?_
  · exact not_isBlank_of_isNameChar (isNameChar_of_mem h (List.mem_of_head? hc))
  · exact not_isBlank_of_isNameChar (isNameChar_of_mem h (List.mem_of_getLast? hc))

/-! ## 3. Keys and values, one by one -/

namespace TagBody

/-- A character of a value in quotes that neither escapes anything nor ends the value. -/
theorem scan_quoted_char (body : TagBody) (key value : Text) {quote c : Char} (hslash : c ≠ '\\')
    (hquote : c ≠ quote) (rest : Text) :
    scan body (.quoted key value quote) (c :: rest) =
      scan body (.quoted key (value ++ [c]) quote) rest := by
  rw [scan]
  · rw [if_neg hquote]
  · rintro d tail rfl
    exact fun _ => hslash rfl

theorem scan_quoted_end (body : TagBody) (key value : Text) {quote : Char} (hquote : isQuote quote)
    (rest : Text) :
    scan body (.quoted key value quote) (quote :: rest) =
      scan (body.putKeyed key value) (.word [] false) rest := by
  have hslash : quote ≠ '\\' := by
    rintro rfl
    cases hquote
  rw [scan]
  · rw [if_pos rfl]
  · rintro d tail rfl
    exact fun _ => hslash rfl

/-- **The scan takes the backslashes off a value** and stops behind the quote that ends it. -/
theorem scan_escapeValue (body : TagBody) (key before value : Text) {quote : Char}
    (hquote : isQuote quote = true) (rest : Text) :
    scan body (.quoted key before quote) (escapeValue quote value ++ quote :: rest) =
      scan (body.putKeyed key (before ++ value)) (.word [] false) rest := by
  induction value generalizing before with
  | nil =>
    rw [List.append_nil]
    exact scan_quoted_end body key before hquote rest
  | cons c value ih =>
    have hbehind : before ++ c :: value = (before ++ [c]) ++ value := by simp
    rw [hbehind, ← ih (before ++ [c])]
    by_cases hescaped : c = '\\' ∨ c = quote
    · have hwritten : escapeValue quote (c :: value) = '\\' :: c :: escapeValue quote value := by
        simp [escapeValue, hescaped]
      have htaken : c = '\\' ∨ isQuote c = true := by
        rcases hescaped with hslash | hsame
        · exact Or.inl hslash
        · exact Or.inr (hsame ▸ hquote)
      rw [hwritten, List.cons_append, List.cons_append, scan, if_pos htaken]
    · have hwritten : escapeValue quote (c :: value) = c :: escapeValue quote value := by
        simp [escapeValue, hescaped]
      rw [not_or] at hescaped
      rw [hwritten, List.cons_append, scan_quoted_char body key before hescaped.1 hescaped.2]

/-- Characters that follow a word without a space or an equals sign belong to the word. -/
theorem scan_letters (body : TagBody) (word : Text) {letters : Text}
    (h : ∀ c ∈ letters, c ≠ '=' ∧ c ≠ ' ') (rest : Text) :
    scan body (.word word false) (letters ++ rest) =
      scan body (.word (word ++ letters) false) rest := by
  induction letters generalizing word with
  | nil => rw [List.nil_append, List.append_nil]
  | cons c letters ih =>
    obtain ⟨hequals, hspace⟩ := h c List.mem_cons_self
    have hrest := ih (word ++ [c]) fun d hd => h d (List.mem_cons_of_mem _ hd)
    rw [List.cons_append, scan, if_neg hequals, if_neg hspace, if_neg Bool.false_ne_true, hrest,
      List.append_assoc]
    rfl

/-- Characters of a name that follow a word belong to it. -/
theorem scan_word (body : TagBody) (word : Text) {name : Text}
    (h : ∀ c ∈ name, isNameChar c = true) (rest : Text) :
    scan body (.word word false) (name ++ rest) = scan body (.word (word ++ name) false) rest :=
  scan_letters body word (fun c hc =>
    ⟨ne_of_isNameChar (h c hc) (by decide), ne_of_isNameChar (h c hc) (by decide)⟩) rest

/-- Characters of a value without quotes belong to the value. -/
theorem scan_bare (body : TagBody) (key before : Text) {value : Text}
    (h : ∀ c ∈ value, isBareChar c = true) (rest : Text) :
    scan body (.bare key before) (value ++ rest) =
      scan body (.bare key (before ++ value)) rest := by
  induction value generalizing before with
  | nil => rw [List.nil_append, List.append_nil]
  | cons c value ih =>
    have hc := h c List.mem_cons_self
    have hquote : ¬isQuote c = true := by
      intro hquote
      simp [isBareChar, hquote] at hc
    have hspace : c ≠ ' ' := by
      rintro rfl
      cases hc
    have hrest := ih (before ++ [c]) fun d hd => h d (List.mem_cons_of_mem _ hd)
    rw [List.cons_append, scan, if_neg hquote, if_neg fun hboth => hspace hboth.1, hrest,
      List.append_assoc]
    rfl

/-- A key up to its equals sign starts a value, and names the tag if nothing has. -/
theorem scan_key (body : TagBody) {key : Text} (h : isValidName key = true) (rest : Text) :
    scan body (.word [] false) (key ++ '=' :: rest) =
      scan (body.withName key) (.bare key []) rest := by
  rw [scan_word body [] (fun c => isNameChar_of_mem h), List.nil_append, scan, if_pos rfl]

/-- The same behind a word: the space in front of the key ends the word. -/
theorem scan_spacedKey (body : TagBody) (word : Text) {key : Text} (h : isValidName key = true)
    (rest : Text) :
    scan body (.word word false) (' ' :: (key ++ '=' :: rest)) =
      scan ((body.endWord word).withName key) (.bare key []) rest := by
  obtain ⟨c, tail, rfl⟩ := List.exists_cons_of_ne_nil (ne_nil_of_valid h)
  have hc := isNameChar_of_mem h List.mem_cons_self
  have hequals : c ≠ '=' := ne_of_isNameChar hc (by decide)
  have hspace : c ≠ ' ' := ne_of_isNameChar hc (by decide)
  have htail := scan_word (body.endWord word) [c]
    (fun d hd => isNameChar_of_mem h (List.mem_cons_of_mem c hd)) ('=' :: rest)
  rw [scan, if_neg (by decide), if_pos rfl, List.cons_append, scan, if_neg hequals, if_neg hspace,
    if_pos rfl, htail, List.singleton_append, scan, if_pos rfl]

theorem withName_of_name {body : TagBody} {name : Text} (h : body.name = some name) (word : Text) :
    body.withName word = body := by
  rw [withName, h, Option.getD_some, ← h]

theorem putKeyed_of_valid (body : TagBody) {key : Text} (h : isValidName key = true)
    (value : Text) : body.putKeyed key value = body.put key value := by
  have hempty : ¬key.isEmpty = true := by simpa using ne_nil_of_valid h
  rw [putKeyed, if_neg hempty]

/-- The body with a written attribute. -/
def putWritten (body : TagBody) (entry : WrittenAttribute) : TagBody :=
  body.put entry.key entry.value.value

/-- **A value up to the next key** is put under its own key, and the next value starts empty. -/
theorem scan_value {body : TagBody} {name : Text} (hname : body.name = some name)
    (entry : WrittenAttribute) {next : Text} (hnext : isValidName next = true) (rest : Text) :
    scan body (.bare entry.key []) (entry.value.text ++ ' ' :: (next ++ '=' :: rest)) =
      scan (body.putWritten entry) (.bare next []) rest := by
  have hputName : (body.putWritten entry).name = some name := hname
  have hsame := withName_of_name hputName next
  obtain ⟨key, value, hkey⟩ := entry
  cases value with
  | bare value plain =>
    -- the space ends the value only because of the next equals sign
    have hbehind : '=' ∈ next ++ '=' :: rest := by simp
    change scan body (.bare key []) (value ++ _) = _
    rw [scan_bare body key [] (List.all_eq_true.mp plain), List.nil_append, scan,
      if_neg (by decide), if_pos ⟨rfl, hbehind⟩, scan_key _ hnext]
    exact congrArg (scan · _ rest) hsame
  | quoted quote value hquote oneLine =>
    have htext : quote :: (escapeValue quote value ++ [quote]) ++ ' ' :: (next ++ '=' :: rest) =
        quote :: (escapeValue quote value ++ quote :: ' ' :: (next ++ '=' :: rest)) := by simp
    change scan body (.bare key []) (quote :: (escapeValue quote value ++ [quote]) ++ _) = _
    rw [htext, scan, if_pos hquote, scan_escapeValue body key [] value hquote,
      putKeyed_of_valid body hkey, scan_spacedKey _ [] hnext]
    exact congrArg (scan · _ rest) hsame

/-- **The last value** is ended by the end of the text, from which blanks have been trimmed. -/
theorem scan_lastValue (body : TagBody) (entry : WrittenAttribute) :
    scan body (.bare entry.key []) (Text.trimEnd entry.value.text) =
      body.putWritten entry := by
  obtain ⟨key, value, hkey⟩ := entry
  cases value with
  | bare value plain =>
    obtain ⟨tail, htail, -⟩ := Text.trimEnd_append value
    have hplain : ∀ c ∈ Text.trimEnd value, isBareChar c = true := by
      intro c hc
      refine List.all_eq_true.mp plain c ?_
      rw [htail]
      exact List.mem_append_left tail hc
    have hscan := scan_bare body key [] hplain []
    rw [List.append_nil, List.nil_append, scan, finish, putKeyed_of_valid body hkey] at hscan
    change scan body (.bare key []) (Text.trimEnd value) = body.put key value
    rw [hscan, put, Text.trim_trimEnd, put]
  | quoted quote value hquote oneLine =>
    have hblank : Text.isBlank quote = false := by
      rcases eq_of_isQuote hquote with rfl | rfl <;> decide
    have htrim : Text.trimEnd (quote :: (escapeValue quote value ++ [quote])) =
        quote :: (escapeValue quote value ++ [quote]) :=
      Text.trimEnd_append_cons (quote :: escapeValue quote value) hblank []
    change scan body (.bare key []) (Text.trimEnd (quote :: (escapeValue quote value ++ [quote]))) =
      body.put key value
    rw [htrim, scan, if_pos hquote, scan_escapeValue body key [] value hquote, scan, finish,
      putKeyed_of_valid body hkey]
    rfl

/-! ## 4. The values of a tag -/

/-- **From a value on, the scan puts every value of the tag under its key.** -/
theorem scan_values {body : TagBody} {name : Text} (hname : body.name = some name)
    (first : WrittenAttribute) (later : List WrittenAttribute) :
    scan body (.bare first.key [])
        (Text.trimEnd (first.value.text ++ later.flatMap WrittenAttribute.text)) =
      (first :: later).foldl putWritten body := by
  induction later generalizing body first with
  | nil =>
    rw [List.flatMap_nil, List.append_nil, scan_lastValue]
    rfl
  | cons second later ih =>
    have htext : first.value.text ++ (second :: later).flatMap WrittenAttribute.text =
        (first.value.text ++ ' ' :: second.key) ++
          '=' :: (second.value.text ++ later.flatMap WrittenAttribute.text) := by
      simp [WrittenAttribute.text]
    have hsecond := scan_value hname first second.validKey
      (Text.trimEnd (second.value.text ++ later.flatMap WrittenAttribute.text))
    have hlater : (body.putWritten first).name = some name := hname
    rw [htext, Text.trimEnd_append_cons _ (by decide), List.append_assoc, List.cons_append, hsecond,
      ih hlater]
    rfl

theorem foldl_putWritten (attributes : List WrittenAttribute) (body : TagBody) :
    attributes.foldl putWritten body =
      { body with
        attributes := (attributes.map WrittenAttribute.trimmed).foldl
          (fun dict entry => Dict.insert entry.1 entry.2 dict) body.attributes } := by
  induction attributes generalizing body with
  | nil => rfl
  | cons entry attributes ih =>
    rw [List.foldl_cons, ih]
    simp only [putWritten, put, WrittenAttribute.trimmed, List.map_cons, List.foldl_cons,
      lower_of_valid entry.validKey]

end TagBody

/-! ## 5. The whole tag -/

theorem WrittenValue.not_isLineEnd_of_mem_text {value : WrittenValue} {c : Char}
    (h : c ∈ value.text) : Tag.isLineEnd c = false := by
  cases value with
  | bare value plain =>
    have hc := List.all_eq_true.mp plain c h
    refine Bool.eq_false_iff.mpr fun hend => ?_
    simp [isBareChar, hend] at hc
  | quoted quote value hquote oneLine =>
    have hdelimiter : Tag.isLineEnd quote = false := by
      rcases eq_of_isQuote hquote with rfl | rfl <;> decide
    simp only [text, List.mem_cons, List.mem_append, List.not_mem_nil, or_false] at h
    rcases h with rfl | hvalue | rfl
    · exact hdelimiter
    · rcases mem_escapeValue hvalue with rfl | hvalue
      · decide
      · exact Bool.eq_false_iff.mpr (List.any_eq_false.mp oneLine c hvalue)
    · exact hdelimiter

namespace WrittenTag

variable (tag : WrittenTag)

theorem not_isLineEnd_of_mem_inner {c : Char} (h : c ∈ tag.inner) : Tag.isLineEnd c = false := by
  have hname : c ∈ tag.name → Tag.isLineEnd c = false := fun hc =>
    not_isLineEnd_of_isNameChar (isNameChar_of_mem tag.validName hc)
  rcases List.mem_append.mp h with hown | hattributes
  · split at hown
    · exact hname hown
    · rcases List.mem_append.mp hown with hc | hvalue
      · exact hname hc
      · rcases List.mem_cons.mp hvalue with rfl | hvalue
        · decide
        · exact WrittenValue.not_isLineEnd_of_mem_text hvalue
  · obtain ⟨entry, -, hc⟩ := List.mem_flatMap.mp hattributes
    simp only [WrittenAttribute.text, List.mem_cons, List.mem_append] at hc
    rcases hc with rfl | hkey | rfl | hvalue
    · decide
    · exact not_isLineEnd_of_isNameChar (isNameChar_of_mem entry.validKey hkey)
    · decide
    · exact WrittenValue.not_isLineEnd_of_mem_text hvalue

/-- A tag starts with a character of its name, which neither is a blank nor closes a tag. -/
theorem exists_inner_eq :
    ∃ c tail, tag.inner = c :: tail ∧ Text.isBlank c = false ∧ c ≠ '/' := by
  obtain ⟨c, name, hname⟩ := List.exists_cons_of_ne_nil (ne_nil_of_valid tag.validName)
  have hc : isNameChar c = true := isNameChar_of_mem tag.validName (by simp [hname])
  have hinner : ∃ tail, tag.inner = c :: tail := by
    cases hown : tag.own with
    | none => exact ⟨_, by rw [inner, hown]; simp only [hname]; rfl⟩
    | some value => exact ⟨_, by rw [inner, hown]; simp only [hname]; rfl⟩
  obtain ⟨tail, htail⟩ := hinner
  exact ⟨c, tail, htail, not_isBlank_of_isNameChar hc, ne_of_isNameChar hc (by decide)⟩

/-- Up to the equals sign of its first value, a tag gives the scan its name and the first key. -/
theorem exists_front {first : WrittenAttribute} {later : List WrittenAttribute}
    (hkeyed : tag.keyed = first :: later) :
    ∃ front, tag.inner =
        front ++ '=' :: (first.value.text ++ later.flatMap WrittenAttribute.text) ∧
      ∀ rest, TagBody.scan ⟨none, []⟩ (.word [] false) (front ++ '=' :: rest) =
        TagBody.scan ⟨some tag.name, []⟩ (.bare first.key []) rest := by
  cases hown : tag.own with
  | none =>
    rw [keyed, hown] at hkeyed
    have hkeyed : tag.attributes = first :: later := hkeyed
    refine ⟨tag.name ++ ' ' :: first.key, ?_, fun rest => ?_⟩
    · rw [inner, hown, hkeyed]
      simp [WrittenAttribute.text]
    · have hnamed : (TagBody.endWord tag.name ⟨none, []⟩).withName first.key =
          ⟨some tag.name, []⟩ := by
        have hempty : ¬tag.name.isEmpty = true := by simpa using ne_nil_of_valid tag.validName
        rw [TagBody.endWord, if_neg hempty]
        rfl
      rw [List.append_assoc, List.cons_append,
        TagBody.scan_word _ _ (fun c => isNameChar_of_mem tag.validName), List.nil_append,
        TagBody.scan_spacedKey _ _ first.validKey, hnamed]
  | some value =>
    rw [keyed, hown] at hkeyed
    obtain ⟨rfl, rfl⟩ := List.cons.inj hkeyed
    refine ⟨tag.name, ?_, fun rest => TagBody.scan_key _ tag.validName rest⟩
    rw [inner, hown]
    simp

theorem trim_inner : Text.trim tag.inner = Text.trimEnd tag.inner := by
  obtain ⟨c, tail, hinner, hblank, -⟩ := tag.exists_inner_eq
  refine Text.trim_eq_trimEnd fun d hd => ?_
  rw [hinner, List.head?_cons, Option.some.injEq] at hd
  rw [← hd]
  exact hblank

/-- The text is a tag of the name and the attributes that the scan finds in it; without an equals
sign or a space it is a name. -/
theorem ofSpan?_eq :
    Tag.ofSpan? tag.text =
      if (Text.trimEnd tag.inner).any fun d => d = '=' || d = ' ' then
        let body := TagBody.scan ⟨none, []⟩ (.word [] false) (Text.trimEnd tag.inner)
        some (.opening (Text.lower (Text.trim (body.name.getD []))) body.attributes)
      else some (.opening (Text.lower (Text.trimEnd tag.inner)) []) := by
  obtain ⟨c, tail, hinner, hblank, hslash⟩ := tag.exists_inner_eq
  have htrim : Text.trimEnd tag.inner = c :: Text.trimEnd tail := by
    rw [hinner]
    exact Text.trimEnd_append_cons [] hblank tail
  rw [text, ofSpan?_brackets fun _ => tag.not_isLineEnd_of_mem_inner, tag.trim_inner, htrim]
  unfold Tag.ofInner?
  split
  · next heq => cases heq
  · next heq => exact absurd (List.cons.inj heq).1 hslash
  · rfl

theorem keyed_eq_nil_iff : tag.keyed = [] ↔ tag.own = none ∧ tag.attributes = [] := by
  rw [keyed]
  cases tag.own <;> simp

/-- A tag without values is read as its name. -/
theorem ofSpan?_of_keyed_nil (h : tag.keyed = []) :
    Tag.ofSpan? tag.text = some (.opening tag.name []) := by
  obtain ⟨hown, hattributes⟩ := tag.keyed_eq_nil_iff.mp h
  have hinner : tag.inner = tag.name := by
    rw [inner, hown, hattributes, List.flatMap_nil, List.append_nil]
  have htrim : Text.trimEnd tag.inner = tag.name := by
    rw [← tag.trim_inner, hinner, trim_of_valid tag.validName]
  have hplain : (tag.name.any fun d => d = '=' || d = ' ') = false := by
    refine List.any_eq_false.mpr fun d hd => ?_
    have hd := isNameChar_of_mem tag.validName hd
    have hequals : d ≠ '=' := ne_of_isNameChar hd (by decide)
    have hspace : d ≠ ' ' := ne_of_isNameChar hd (by decide)
    simp [hequals, hspace]
  rw [tag.ofSpan?_eq, htrim, hplain, if_neg Bool.false_ne_true, lower_of_valid tag.validName]

theorem ofSpan?_text : Tag.ofSpan? tag.text = some (.opening tag.name tag.values) := by
  cases hkeyed : tag.keyed with
  | nil =>
    rw [tag.ofSpan?_of_keyed_nil hkeyed, values, entries, hkeyed]
    rfl
  | cons first later =>
    obtain ⟨front, hfront, hscan⟩ := tag.exists_front hkeyed
    have htrim : Text.trimEnd tag.inner = front ++
        '=' :: Text.trimEnd (first.value.text ++ later.flatMap WrittenAttribute.text) := by
      rw [hfront, Text.trimEnd_append_cons _ (by decide)]
    have hequals : ((Text.trimEnd tag.inner).any fun d => d = '=' || d = ' ') = true := by
      rw [htrim]
      simp
    have hbody : TagBody.scan ⟨none, []⟩ (.word [] false) (Text.trimEnd tag.inner) =
        ⟨some tag.name, tag.values⟩ := by
      rw [htrim, hscan, TagBody.scan_values rfl, TagBody.foldl_putWritten, values, entries, hkeyed]
      rfl
    rw [tag.ofSpan?_eq, if_pos hequals, hbody]
    simp only [Option.getD_some, trim_of_valid tag.validName, lower_of_valid tag.validName]

end WrittenTag

/-- **A written tag is read back.** The reader of tags finds the name and, under the name and every
key, the trimmed value that was written last for it, and nothing else; without any value there are
no attributes. -/
theorem ofSpan?_writtenTag (tag : WrittenTag) :
    Tag.ofSpan? tag.text = some (.opening tag.name tag.values) ∧
      (∀ key, Dict.get? key tag.values = Dict.get? key tag.entries.reverse) ∧
      (tag.values = [] ↔ tag.own = none ∧ tag.attributes = []) := by
  refine ⟨tag.ofSpan?_text, fun key => Dict.get?_ofList key tag.entries, ?_⟩
  rw [WrittenTag.values, Dict.ofList_eq_nil_iff, WrittenTag.entries, List.map_eq_nil_iff]
  exact tag.keyed_eq_nil_iff

/-- Values of every kind: bare with an equals sign, in single quotes around quotes of both kinds,
empty, and given again under the name. -/
example :
    let tag : WrittenTag :=
      { name := "q".toList
        own := some (.bare "a=b".toList (by decide))
        attributes :=
          [⟨"who".toList, .quoted '\'' "it's \"x\" ".toList rfl (by decide), by decide +kernel⟩,
           ⟨"k".toList, .bare [] rfl, by decide +kernel⟩,
           ⟨"q".toList, .quoted '"' "]".toList rfl (by decide), by decide +kernel⟩]
        validName := by decide +kernel }
    tag.text = "[q=a=b who='it\\'s \"x\" ' k= q=\"]\"]".toList ∧
      Tag.ofSpan? tag.text =
        some (.opening "q".toList [("k".toList, []), ("q".toList, "]".toList),
          ("who".toList, "it's \"x\"".toList)]) := by
  decide +kernel

end Dispatch.Markup
