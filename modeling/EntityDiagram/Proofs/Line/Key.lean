import EntityDiagram.Diagram.Line.Attribute
import EntityDiagram.Proofs.Line.Name
import Mathlib.Data.List.Forall2

/-! # Lists of keys

A key is written by its two letters in either case, and keys stand in a list with commas between
them. The reader cuts a list at its commas and takes the blanks off the pieces. It accepts what is
written as a series of key words, and such a series is cut off a line in only one way.
-/

namespace EntityDiagram.Line

/-! ## Key words -/

/-- Whether a character stands for a capital letter of a key. The Kelvin sign stands for a K. -/
def IsKeyLetter (letter c : Char) : Prop :=
  c = letter ∨ c = letter.toLower ∨ letter = 'K' ∧ c = '\u212a'

/-- The letters of a key, each in either case. -/
@[ext] structure KeyWord where
  key : Key
  text : List Char
  isSpelled : List.Forall₂ IsKeyLetter key.code.toList text

def keyLetters : List (Key × Char) :=
  [(.primary, 'P'), (.primary, 'p'), (.foreign, 'F'), (.foreign, 'f'), (.unique, 'U'),
    (.unique, 'u')]

def keyMarks : List Char := ['K', 'k', '\u212a']

theorem isKeyLetter_iff_mem_keyMarks {c : Char} : IsKeyLetter 'K' c ↔ c ∈ keyMarks := by
  simp [IsKeyLetter, keyMarks]

theorem isSpelled_iff {key : Key} {text : List Char} :
    List.Forall₂ IsKeyLetter key.code.toList text ↔
      ∃ letter mark, text = [letter, mark] ∧ (key, letter) ∈ keyLetters ∧ mark ∈ keyMarks := by
  have hletters : ∃ initial, key.code.toList = [initial, 'K'] ∧
      ∀ c, IsKeyLetter initial c ↔ (key, c) ∈ keyLetters := by
    cases key
    · exact ⟨'P', rfl, fun c => by simp [IsKeyLetter, keyLetters]⟩
    · exact ⟨'F', rfl, fun c => by simp [IsKeyLetter, keyLetters]⟩
    · exact ⟨'U', rfl, fun c => by simp [IsKeyLetter, keyLetters]⟩
  obtain ⟨initial, hcode, hletter⟩ := hletters
  rw [hcode]
  constructor
  · intro h
    cases h with
    | cons hfirst hrest =>
        cases hrest with
        | cons hsecond hnil =>
            cases hnil
            exact ⟨_, _, rfl, (hletter _).mp hfirst, isKeyLetter_iff_mem_keyMarks.mp hsecond⟩
  · rintro ⟨letter, mark, rfl, hfirst, hsecond⟩
    exact .cons ((hletter letter).mpr hfirst)
      (.cons (isKeyLetter_iff_mem_keyMarks.mpr hsecond) .nil)

theorem isKeyToken_iff {cs : List Char} :
    isKeyToken cs = true ↔ ∃ word : KeyWord, word.text = cs := by
  constructor
  · intro h
    unfold isKeyToken at h
    split at h
    · next letter mark =>
        rw [Bool.and_eq_true, List.contains_iff_mem, List.contains_iff_mem] at h
        have hletter : ∃ key, (key, letter) ∈ keyLetters := by
          have hall : ∀ c ∈ ['P', 'p', 'F', 'f', 'U', 'u'], ∃ key, (key, c) ∈ keyLetters := by
            simp [keyLetters]
          exact hall letter h.1
        obtain ⟨key, hkey⟩ := hletter
        exact ⟨⟨key, [letter, mark], isSpelled_iff.mpr ⟨letter, mark, rfl, hkey, h.2⟩⟩, rfl⟩
    · contradiction
  · rintro ⟨word, rfl⟩
    obtain ⟨letter, mark, htext, hletter, hmark⟩ := isSpelled_iff.mp word.isSpelled
    have hall : ∀ entry ∈ keyLetters,
        keyMarks.all (fun mark => isKeyToken [entry.2, mark]) = true := by decide
    rw [htext]
    exact List.all_eq_true.mp (hall _ hletter) mark hmark

namespace KeyWord

theorem length_text (word : KeyWord) : word.text.length = 2 := by
  obtain ⟨letter, mark, htext, -, -⟩ := isSpelled_iff.mp word.isSpelled
  rw [htext]
  rfl

theorem text_injective : Function.Injective text := by
  have hall : ∀ entry ∈ keyLetters, ∀ other ∈ keyLetters, entry.2 = other.2 →
      entry.1 = other.1 := by decide
  intro word other h
  obtain ⟨letter, mark, htext, hletter, -⟩ := isSpelled_iff.mp word.isSpelled
  obtain ⟨letter', mark', htext', hletter', -⟩ := isSpelled_iff.mp other.isSpelled
  have hkey : word.key = other.key := by
    apply hall _ hletter _ hletter'
    rw [htext, htext'] at h
    exact (List.cons.inj h).1
  exact KeyWord.ext hkey h

theorem text_append_inj {word other : KeyWord} {rest left : List Char}
    (h : word.text ++ rest = other.text ++ left) : word = other ∧ rest = left := by
  obtain ⟨htext, hrest⟩ := List.append_inj h (by rw [word.length_text, other.length_text])
  exact ⟨text_injective htext, hrest⟩

/-- The key of a word in capital letters. Capital letters leave the Kelvin sign as it is. -/
def key? (word : KeyWord) : Option Key := Key.ofCode? (Text.upper (String.ofList word.text))

theorem key?_def :
    key? = fun word => Key.ofCode? (Text.upper (String.ofList word.text)) := rfl

theorem key?_eq (word : KeyWord) :
    word.key? = if '\u212a' ∈ word.text then none else some word.key := by
  have hall : ∀ entry ∈ keyLetters, keyMarks.all (fun mark =>
      Key.ofCode? (Text.upper (String.ofList [entry.2, mark])) ==
        if '\u212a' ∈ [entry.2, mark] then none else some entry.1) = true := by decide +kernel
  obtain ⟨letter, mark, htext, hletter, hmark⟩ := isSpelled_iff.mp word.isSpelled
  rw [key?, htext]
  exact eq_of_beq (List.all_eq_true.mp (hall _ hletter) mark hmark)

/-- The words that name a key are those without the Kelvin sign. -/
theorem filterMap_key? (words : List KeyWord) :
    words.filterMap key? = (words.filter fun word => '\u212a' ∉ word.text).map key := by
  induction words with
  | nil => rfl
  | cons word words ih =>
      by_cases hsign : '\u212a' ∈ word.text
      · rw [List.filterMap_cons_none (by rw [key?_eq, if_pos hsign]), ih]
        simp [hsign]
      · rw [List.filterMap_cons_some (by rw [key?_eq, if_neg hsign]), ih]
        simp [hsign]

theorem forall_mem_text (word : KeyWord) :
    ∀ c ∈ word.text, Text.isBlank c = false ∧ c ≠ ',' ∧ c ≠ '"' := by
  have hall : ∀ entry ∈ keyLetters, keyMarks.all (fun mark =>
      [entry.2, mark].all fun c => !Text.isBlank c && (c != ',' && c != '"')) = true := by decide
  obtain ⟨letter, mark, htext, hletter, hmark⟩ := isSpelled_iff.mp word.isSpelled
  have hboth := List.all_eq_true.mp (hall _ hletter) mark hmark
  rw [htext]
  intro c hc
  simpa using List.all_eq_true.mp hboth c hc

theorem trim_padded {before after : List Char} (hbefore : ∀ c ∈ before, Text.isBlank c = true)
    (hafter : ∀ c ∈ after, Text.isBlank c = true) (word : KeyWord) :
    Text.trim (before ++ word.text ++ after) = word.text := by
  apply Text.trim_padded hbefore hafter
  · exact fun c hc => (word.forall_mem_text c (List.mem_of_mem_head? hc)).1
  · exact fun c hc => (word.forall_mem_text c (List.mem_of_mem_getLast? hc)).1

end KeyWord

/-! ## Lists of keys -/

/-- Key words with a comma between them, and blanks or none around each comma. -/
inductive KeySeries where
  | last (word : KeyWord)
  | cons (word : KeyWord) (beforeComma afterComma : Text.Blanks) (rest : KeySeries)

namespace KeySeries

def text : KeySeries → List Char
  | last word => word.text
  | cons word beforeComma afterComma rest =>
      word.text ++ (beforeComma.1 ++ ',' :: (afterComma.1 ++ rest.text))

def words : KeySeries → List KeyWord
  | last word => [word]
  | cons word _ _ rest => word :: rest.words

theorem exists_lead (series : KeySeries) (rest : List Char) :
    ∃ c more, series.text ++ rest = c :: more ∧ Text.isBlank c = false ∧ c ≠ ',' ∧ c ≠ '"' := by
  have hword : ∀ (word : KeyWord) more, ∃ c left, word.text ++ more = c :: left ∧
      Text.isBlank c = false ∧ c ≠ ',' ∧ c ≠ '"' := by
    intro word more
    obtain ⟨letter, mark, htext, -, -⟩ := isSpelled_iff.mp word.isSpelled
    exact ⟨letter, mark :: more, by simp [htext], word.forall_mem_text letter (by simp [htext])⟩
  cases series with
  | last word => exact hword word rest
  | cons word beforeComma afterComma left =>
      rw [text, List.append_assoc]
      exact hword word _

theorem head?_text_append (series : KeySeries) (rest : List Char) :
    ∀ c ∈ (series.text ++ rest).head?, Text.isBlank c = false := by
  obtain ⟨c, more, htext, hblank, -, -⟩ := series.exists_lead rest
  rw [htext]
  exact Text.stop_cons hblank more

theorem getLast?_text (series : KeySeries) :
    ∃ c, series.text.getLast? = some c ∧ Text.isBlank c = false := by
  induction series with
  | last word =>
      obtain ⟨letter, mark, htext, -, -⟩ := isSpelled_iff.mp word.isSpelled
      exact ⟨mark, by simp [text, htext], (word.forall_mem_text mark (by simp [htext])).1⟩
  | cons word beforeComma afterComma rest ih =>
      obtain ⟨c, hlast, hblank⟩ := ih
      exact ⟨c, by simp [text, List.getLast?_append, List.getLast?_cons, hlast], hblank⟩

theorem quote_not_mem_text (series : KeySeries) : '"' ∉ series.text := by
  have hblanks : ∀ blanks : Text.Blanks, '"' ∉ blanks.1 := by
    intro blanks hmem
    exact absurd (blanks.2 '"' hmem) (by decide)
  have hword : ∀ word : KeyWord, '"' ∉ word.text := fun word hmem =>
    (word.forall_mem_text '"' hmem).2.2 rfl
  induction series with
  | last word => exact hword word
  | cons word beforeComma afterComma rest ih =>
      simp only [text, List.mem_append, List.mem_cons, not_or]
      exact ⟨hword word, hblanks beforeComma, by decide, hblanks afterComma, ih⟩

/-- Cut at its commas, a list of keys gives its words, whatever blanks stand around it. -/
theorem map_trim_splitOn_text (series : KeySeries) {before after : List Char}
    (hbefore : ∀ c ∈ before, Text.isBlank c = true) (hafter : ∀ c ∈ after, Text.isBlank c = true) :
    ((before ++ series.text ++ after).splitOn ',').map Text.trim =
      series.words.map KeyWord.text := by
  have hblanks : ∀ {blanks : List Char}, (∀ c ∈ blanks, Text.isBlank c = true) → ',' ∉ blanks := by
    intro blanks hall hmem
    exact absurd (hall ',' hmem) (by decide)
  have hcomma : ∀ (word : KeyWord) {before after : List Char},
      (∀ c ∈ before, Text.isBlank c = true) → (∀ c ∈ after, Text.isBlank c = true) →
        ',' ∉ before ++ word.text ++ after := by
    intro word before after hbefore hafter
    simp only [List.mem_append, not_or]
    exact ⟨⟨hblanks hbefore, fun hmem => (word.forall_mem_text ',' hmem).2.1 rfl⟩, hblanks hafter⟩
  induction series generalizing before with
  | last word =>
      rw [text, List.splitOn_eq_singleton (hcomma word hbefore hafter), List.map_singleton,
        word.trim_padded hbefore hafter]
      rfl
  | cons word beforeComma afterComma rest ih =>
      have hsplit : before ++ (cons word beforeComma afterComma rest).text ++ after =
          before ++ word.text ++ beforeComma.1 ++ ',' :: (afterComma.1 ++ rest.text ++ after) := by
        simp [text]
      rw [hsplit, List.splitOn_append_cons_self_of_not_mem (hcomma word hbefore beforeComma.2),
        List.map_cons, word.trim_padded hbefore beforeComma.2, ih afterComma.2]
      rfl

theorem isKeyList_text (series : KeySeries) {after : List Char}
    (hafter : ∀ c ∈ after, Text.isBlank c = true) : isKeyList (series.text ++ after) = true := by
  have hwords := @map_trim_splitOn_text series [] after (List.forall_mem_nil _) hafter
  have htokens : ∀ word ∈ series.words.map KeyWord.text, isKeyToken word = true := by
    rw [List.forall_mem_map]
    exact fun word _ => isKeyToken_iff.mpr ⟨word, rfl⟩
  rw [← hwords] at htokens
  simpa [isKeyList] using htokens

theorem keysOf_text (series : KeySeries) {after : List Char}
    (hafter : ∀ c ∈ after, Text.isBlank c = true) :
    keysOf (series.text ++ after) = (series.words.filterMap KeyWord.key?).eraseDups := by
  have hwords := @map_trim_splitOn_text series [] after (List.forall_mem_nil _) hafter
  rw [List.nil_append] at hwords
  have hkeys : ((series.text ++ after).splitOn ',').filterMap (fun piece =>
      Key.ofCode? (Text.upper (String.ofList (Text.trim piece)))) =
        series.words.filterMap KeyWord.key? := by
    have hread := congrArg (List.filterMap fun word =>
      Key.ofCode? (Text.upper (String.ofList word))) hwords
    simpa only [List.filterMap_map, Function.comp_def, KeyWord.key?_def] using hread
  rw [keysOf, hkeys]

/-- A list of key words cut at its commas is written as a series with blanks around it. -/
theorem exists_intercalate {pieces : List (List Char)} (hne : pieces ≠ [])
    (h : ∀ piece ∈ pieces, isKeyToken (Text.trim piece) = true) :
    ∃ (before after : Text.Blanks) (series : KeySeries),
      [','].intercalate pieces = before.1 ++ series.text ++ after.1 := by
  induction pieces with
  | nil => exact absurd rfl hne
  | cons piece pieces ih =>
      obtain ⟨hpiece, hpieces⟩ := List.forall_mem_cons.mp h
      obtain ⟨word, hword⟩ := isKeyToken_iff.mp hpiece
      obtain ⟨before, after, hbefore, hafter, hcut⟩ := Text.exists_trim piece
      rw [← hword] at hcut
      cases pieces with
      | nil => exact ⟨⟨before, hbefore⟩, ⟨after, hafter⟩, .last word, by simpa [text] using hcut⟩
      | cons next pieces =>
          obtain ⟨beforeRest, afterRest, rest, hrest⟩ := ih (by simp) hpieces
          refine ⟨⟨before, hbefore⟩, afterRest, .cons word ⟨after, hafter⟩ beforeRest rest, ?_⟩
          rw [List.intercalate_cons_cons, hrest, hcut]
          simp [text]

theorem exists_of_isKeyList {cs : List Char} (hhead : ∀ c ∈ cs.head?, Text.isBlank c = false)
    (h : isKeyList cs = true) :
    ∃ (series : KeySeries) (after : Text.Blanks), cs = series.text ++ after.1 := by
  have htokens : ∀ piece ∈ cs.splitOn ',', isKeyToken (Text.trim piece) = true := by
    simpa [isKeyList] using h
  obtain ⟨before, after, series, hcs⟩ := exists_intercalate (List.splitOn_ne_nil ',' cs) htokens
  rw [List.intercalate_splitOn] at hcs
  refine ⟨series, after, ?_⟩
  calc
    cs = skipBlanks cs := (skipBlanks_of_head hhead).symm
    _ = skipBlanks (series.text ++ after.1) := by
        rw [hcs, List.append_assoc, skipBlanks_append before.2]
    _ = series.text ++ after.1 := skipBlanks_of_head (series.head?_text_append after.1)

/-- A list of keys ends where no comma follows. -/
theorem text_append_inj {series other : KeySeries} {rest left : List Char}
    (hrest : ∀ c ∈ (skipBlanks rest).head?, c ≠ ',')
    (hleft : ∀ c ∈ (skipBlanks left).head?, c ≠ ',')
    (h : series.text ++ rest = other.text ++ left) : series = other ∧ rest = left := by
  have hcomma : ∀ (blanks : Text.Blanks) (more : List Char),
      (skipBlanks (blanks.1 ++ ',' :: more)).head? = some ',' := by
    intro blanks more
    rw [skipBlanks_append blanks.2, skipBlanks_cons (by decide), List.head?_cons]
  have hmark := @Text.stop_cons Text.isBlank ',' (by decide)
  induction series generalizing other with
  | last word =>
      cases other with
      | last word' =>
          obtain ⟨rfl, hmore⟩ := KeyWord.text_append_inj h
          exact ⟨rfl, hmore⟩
      | cons word' beforeComma afterComma more =>
          simp only [text, List.append_assoc, List.cons_append] at h
          obtain ⟨-, rfl⟩ := KeyWord.text_append_inj h
          exact absurd rfl (hrest ',' (hcomma beforeComma _))
  | cons word beforeComma afterComma more ih =>
      cases other with
      | last word' =>
          simp only [text, List.append_assoc, List.cons_append] at h
          obtain ⟨-, rfl⟩ := KeyWord.text_append_inj h
          exact absurd rfl (hleft ',' (hcomma beforeComma _))
      | cons word' beforeComma' afterComma' more' =>
          simp only [text, List.append_assoc, List.cons_append] at h
          obtain ⟨rfl, hcut⟩ := KeyWord.text_append_inj h
          obtain ⟨hbefore, hcommas⟩ := Text.append_inj_of_stop beforeComma.2 beforeComma'.2
            (hmark _) (hmark _) hcut
          obtain ⟨hafter, hmore⟩ := Text.append_inj_of_stop afterComma.2 afterComma'.2
            (more.head?_text_append rest) (more'.head?_text_append left) (List.cons.inj hcommas).2
          obtain ⟨rfl, rfl⟩ := ih hmore
          exact ⟨by rw [Subtype.ext hbefore, Subtype.ext hafter], rfl⟩

end KeySeries

/-! ## Lists that were written for keys -/

/-- Keys by their letters, separated by commas. -/
def keyList (keys : List Key) : List Char :=
  [',', ' '].intercalate (keys.map fun key => key.code.toList)

theorem keyList_cons_cons (key next : Key) (keys : List Key) :
    keyList (key :: next :: keys) = key.code.toList ++ ',' :: ' ' :: keyList (next :: keys) := by
  simp [keyList, List.intercalate_cons_cons]

theorem not_mem_keyList {c : Char} (hcode : ∀ key : Key, c ∉ key.code.toList) (hcomma : c ≠ ',')
    (hspace : c ≠ ' ') (keys : List Key) : c ∉ keyList keys := by
  induction keys with
  | nil => simp [keyList]
  | cons key keys ih =>
      cases keys with
      | nil => simpa [keyList] using hcode key
      | cons next keys =>
          rw [keyList_cons_cons]
          simp only [List.mem_append, List.mem_cons, not_or]
          exact ⟨hcode key, hcomma, hspace, ih⟩

/-- A key in capital letters. -/
def KeyWord.ofKey (key : Key) : KeyWord :=
  ⟨key, key.code.toList, List.forall₂_same.mpr fun _ _ => .inl rfl⟩

theorem KeyWord.key?_ofKey (key : Key) : (ofKey key).key? = some key := by
  have hsign : '\u212a' ∉ key.code.toList := by cases key <;> decide
  rw [key?_eq]
  exact if_neg hsign

def KeySeries.ofKeys (key : Key) : List Key → KeySeries
  | [] => .last (.ofKey key)
  | next :: keys =>
      .cons (.ofKey key) Text.noBlanks ⟨Text.space.1, Text.space.2.2⟩ (ofKeys next keys)

theorem KeySeries.text_ofKeys (key : Key) (keys : List Key) :
    (ofKeys key keys).text = keyList (key :: keys) := by
  induction keys generalizing key with
  | nil => simp [ofKeys, text, keyList, KeyWord.ofKey]
  | cons next keys ih =>
      simp [ofKeys, text, ih, keyList_cons_cons, KeyWord.ofKey, Text.noBlanks, Text.space]

theorem KeySeries.keys_ofKeys (key : Key) (keys : List Key) :
    (ofKeys key keys).words.filterMap KeyWord.key? = key :: keys := by
  induction keys generalizing key with
  | nil => simp [ofKeys, words, KeyWord.key?_ofKey]
  | cons next keys ih => simp [ofKeys, words, KeyWord.key?_ofKey, ih]

end EntityDiagram.Line
