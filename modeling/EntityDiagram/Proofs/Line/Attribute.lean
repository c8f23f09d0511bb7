import EntityDiagram.Proofs.Line.Key
import EntityDiagram.Proofs.Line.Type
import EntityDiagram.Proofs.Lists

/-! # The grammar of attribute lines

An attribute line is written from its parts: a type, a name that may have a star before it, a list
of keys, a comment, and the blanks between them. The reader accepts the lines that are written so
and no others, and a line is written from only one set of parts. It gives the attribute that the
parts stand for, except that it accepts a key with the Kelvin sign and leaves it out.
-/

namespace EntityDiagram.Line

/-! ## Keys and comments -/

theorem exists_gap {cs : List Char} (h : cs.head?.any Text.isBlank = true) :
    ∃ gap : Text.Gap, cs = gap.1 ++ skipBlanks cs := by
  refine ⟨⟨cs.takeWhile Text.isBlank, ?_, fun c hc => List.mem_takeWhile_imp hc⟩,
    List.takeWhile_append_dropWhile.symm⟩
  cases cs with
  | nil => simp at h
  | cons c cs =>
      have hc : Text.isBlank c = true := by simpa using h
      simp [hc]

theorem any_head?_gap_append (gap : Text.Gap) (rest : List Char) :
    (gap.1 ++ rest).head?.any Text.isBlank = true := by
  obtain ⟨c, more, hgap⟩ := List.exists_cons_of_ne_nil gap.2.1
  have hc : Text.isBlank c = true := gap.2.2 c (by simp [hgap])
  simpa [hgap] using hc

theorem head?_gap_append (gap : Text.Gap) (rest : List Char) :
    ∀ c ∈ (gap.1 ++ rest).head?, Text.isBlank c = true := by
  intro c hc
  have hany := any_head?_gap_append gap rest
  rwa [Option.mem_def.mp hc] at hany

theorem any_getLast?_append_gap (start : List Char) (gap : Text.Gap) :
    (start ++ gap.1).getLast?.any Text.isBlank = true := by
  have hlast : gap.1.getLast? = some (gap.1.getLast gap.2.1) :=
    List.getLast?_eq_some_getLast gap.2.1
  have hc : Text.isBlank (gap.1.getLast gap.2.1) = true := gap.2.2 _ (List.getLast_mem gap.2.1)
  simpa [List.getLast?_append, hlast] using hc

theorem comment?_eq_some_iff {cs comment : List Char} :
    comment? cs = some comment ↔
      '"' ∉ comment ∧ ∃ after : Text.Blanks, cs = '"' :: (comment ++ '"' :: after.1) := by
  constructor
  · intro h
    unfold comment? at h
    split at h
    · next more =>
        split at h
        · next inner rest hread =>
            obtain ⟨hall, ⟨⟩⟩ := Option.ite_none_right_eq_some.mp h
            obtain ⟨hquote, rfl⟩ := upTo?_eq_some_iff.mp hread
            exact ⟨hquote, ⟨rest, List.all_eq_true.mp hall⟩, rfl⟩
        · contradiction
    · contradiction
  · rintro ⟨hquote, after, rfl⟩
    have hall : after.1.all Text.isBlank = true := List.all_eq_true.mpr after.2
    simp [comment?, upTo?_append hquote, hall]

/-- A text that can stand between quotes. -/
abbrev Unquoted := { cs : List Char // '"' ∉ cs }

/-- What follows the name of an attribute: keys, a comment and blanks. -/
@[ext] structure KeysAndComment where
  keys : Option (Text.Gap × KeySeries)
  comment : Option (Text.Gap × Unquoted)
  after : Text.Blanks

/-- A comment between quotes and the blanks at the end of the line. -/
def commentText (comment : Option (Text.Gap × Unquoted))
    (after : Text.Blanks) : List Char :=
  match comment with
  | none => after.1
  | some (gap, comment) => gap.1 ++ '"' :: (comment.1 ++ '"' :: after.1)

theorem exists_blanks_commentText (comment : Option (Text.Gap × Unquoted)) (after : Text.Blanks) :
    ∃ blanks rest, commentText comment after = blanks ++ rest ∧
      (∀ c ∈ blanks, Text.isBlank c = true) ∧ (∀ c ∈ rest.head?, c = '"') := by
  cases comment with
  | none => exact ⟨after.1, [], (List.append_nil _).symm, after.2, by simp⟩
  | some pair => exact ⟨pair.1.1, _, rfl, pair.1.2.2, by simp⟩

theorem head?_skipBlanks_commentText (comment : Option (Text.Gap × Unquoted))
    (after : Text.Blanks) :
    ∀ c ∈ (skipBlanks (commentText comment after)).head?, c = '"' := by
  obtain ⟨blanks, rest, htext, hblanks, hrest⟩ := exists_blanks_commentText comment after
  have hstop : ∀ c ∈ rest.head?, Text.isBlank c = false := by
    intro c hc
    rw [hrest c hc]
    decide
  rwa [htext, skipBlanks_append hblanks, skipBlanks_of_head hstop]

theorem commentText_inj {comment comment' : Option (Text.Gap × Unquoted)}
    {after after' : Text.Blanks} (h : commentText comment after = commentText comment' after') :
    comment = comment' ∧ after = after' := by
  have hquote : ∀ (blanks : Text.Blanks) (gap : Text.Gap) (rest : List Char),
      blanks.1 ≠ gap.1 ++ '"' :: rest := by
    intro blanks gap rest heq
    have hmem : '"' ∈ blanks.1 := by simp [heq]
    exact absurd (blanks.2 '"' hmem) (by decide)
  have hstop := @Text.stop_cons Text.isBlank '"' (by decide)
  cases comment with
  | none =>
      cases comment' with
      | none => exact ⟨rfl, Subtype.ext h⟩
      | some pair => exact absurd h (hquote after pair.1 _)
  | some pair =>
      cases comment' with
      | none => exact absurd h.symm (hquote after' pair.1 _)
      | some pair' =>
          obtain ⟨gap, comment⟩ := pair
          obtain ⟨gap', comment'⟩ := pair'
          obtain ⟨hgap, hcut⟩ := Text.append_inj_of_stop gap.2.2 gap'.2.2 (hstop _) (hstop _) h
          have hread := congrArg (upTo? '"') (List.cons.inj hcut).2
          rw [upTo?_append comment.2, upTo?_append comment'.2, Option.some.injEq,
            Prod.mk.injEq] at hread
          obtain ⟨hcomment, hafter⟩ := hread
          exact ⟨by rw [Subtype.ext hgap, Subtype.ext hcomment], Subtype.ext hafter⟩

namespace KeysAndComment

def text (ending : KeysAndComment) : List Char :=
  match ending.keys with
  | none => commentText ending.comment ending.after
  | some (gap, series) => gap.1 ++ (series.text ++ commentText ending.comment ending.after)

def words (ending : KeysAndComment) : List KeyWord :=
  match ending.keys with
  | none => []
  | some (_, series) => series.words

theorem text_injective : Function.Injective text := by
  -- A list of keys starts with a letter and a comment with a quote.
  have hletter : ∀ (comment : Option (Text.Gap × Unquoted))
      (after : Text.Blanks) (gap : Text.Gap) (series : KeySeries) (rest : List Char),
      commentText comment after ≠ gap.1 ++ (series.text ++ rest) := by
    intro comment after gap series rest heq
    obtain ⟨c, more, htext, hblank, -, hquote⟩ := series.exists_lead rest
    apply hquote
    apply head?_skipBlanks_commentText comment after
    rw [heq, skipBlanks_append gap.2.2, htext, skipBlanks_cons hblank, List.head?_cons]
    rfl
  have hcomma : ∀ (comment : Option (Text.Gap × Unquoted))
      (after : Text.Blanks), ∀ c ∈ (skipBlanks (commentText comment after)).head?, c ≠ ',' := by
    intro comment after c hc
    rw [head?_skipBlanks_commentText comment after c hc]
    decide
  rintro ⟨keys, comment, after⟩ ⟨keys', comment', after'⟩ h
  cases keys with
  | none =>
      cases keys' with
      | none =>
          obtain ⟨rfl, rfl⟩ := commentText_inj h
          rfl
      | some pair => exact absurd h (hletter comment after pair.1 pair.2 _)
  | some pair =>
      cases keys' with
      | none => exact absurd h.symm (hletter comment' after' pair.1 pair.2 _)
      | some pair' =>
          obtain ⟨gap, series⟩ := pair
          obtain ⟨gap', series'⟩ := pair'
          obtain ⟨hgap, hcut⟩ := Text.append_inj_of_stop gap.2.2 gap'.2.2
            (series.head?_text_append _) (series'.head?_text_append _) h
          obtain ⟨rfl, hrest⟩ := KeySeries.text_append_inj (hcomma _ _) (hcomma _ _) hcut
          obtain ⟨rfl, rfl⟩ := commentText_inj hrest
          obtain rfl : gap = gap' := Subtype.ext hgap
          rfl

/-- Keys are read up to the quote of a comment, or to the end. -/
theorem keysAndComment?_series (gap : Text.Gap) (series : KeySeries) {after rest : List Char}
    (hafter : ∀ c ∈ after, Text.isBlank c = true) (hrest : ∀ c ∈ rest.head?, c = '"') :
    keysAndComment? (gap.1 ++ (series.text ++ (after ++ rest))) =
      if rest.isEmpty then some ((series.words.filterMap KeyWord.key?).eraseDups, none)
      else if !((series.text ++ after).getLast?.any Text.isBlank) then none
      else (comment? rest).map fun comment =>
        ((series.words.filterMap KeyWord.key?).eraseDups, some comment) := by
  have hbody : ∀ c ∈ series.text ++ after, (c != '"') = true := by
    intro c hc
    rw [bne_iff_ne]
    rintro rfl
    rcases List.mem_append.mp hc with hc | hc
    · exact series.quote_not_mem_text hc
    · exact absurd (hafter '"' hc) (by decide)
  have hstop : ∀ c ∈ rest.head?, (c != '"') = false := by
    intro c hc
    simpa using hrest c hc
  -- The keys hold no quote, so they are what stands before the first one.
  have htake := Text.takeWhile_append_stop hbody hstop
  have hdrop := Text.dropWhile_append_stop hbody hstop
  have hlist := series.isKeyList_text hafter
  have hkeys := series.keysOf_text hafter
  obtain ⟨c, more, htext, hblank, -, hquote⟩ := series.exists_lead (after ++ rest)
  have hskip : skipBlanks (gap.1 ++ (series.text ++ (after ++ rest))) = c :: more := by
    rw [skipBlanks_append gap.2.2, htext, skipBlanks_cons hblank]
  have hhead := any_head?_gap_append gap (series.text ++ (after ++ rest))
  rw [List.append_assoc, htext] at htake hdrop
  simp only [keysAndComment?, hskip, hhead, htake, hdrop, hlist, hkeys]
  simp [hquote]

theorem keysAndComment?_text (ending : KeysAndComment) :
    keysAndComment? ending.text =
      some ((ending.words.filterMap KeyWord.key?).eraseDups, ending.comment.map (·.2.1)) := by
  have hread : ∀ (comment : Unquoted) (after : Text.Blanks),
      comment? ('"' :: (comment.1 ++ '"' :: after.1)) = some comment.1 := fun comment after =>
    comment?_eq_some_iff.mpr ⟨comment.2, after, rfl⟩
  obtain ⟨keys, comment, after⟩ := ending
  cases keys with
  | none =>
      cases comment with
      | none =>
          have hskip : skipBlanks after.1 = [] := List.dropWhile_eq_nil_iff.mpr after.2
          simp [text, commentText, words, keysAndComment?, hskip]
      | some pair =>
          obtain ⟨gap, comment⟩ := pair
          have hskip : skipBlanks (gap.1 ++ '"' :: (comment.1 ++ '"' :: after.1)) =
              '"' :: (comment.1 ++ '"' :: after.1) := by
            rw [skipBlanks_append gap.2.2, skipBlanks_cons (by decide)]
          have hhead := any_head?_gap_append gap ('"' :: (comment.1 ++ '"' :: after.1))
          simp only [text, commentText, words, keysAndComment?, hskip, hhead, hread]
          rfl
  | some pair =>
      obtain ⟨gap, series⟩ := pair
      cases comment with
      | none =>
          have hkeys := @keysAndComment?_series gap series after.1 [] after.2 (by simp)
          simpa [text, commentText, words] using hkeys
      | some pair =>
          obtain ⟨gap', comment⟩ := pair
          have hkeys := @keysAndComment?_series gap series gap'.1
            ('"' :: (comment.1 ++ '"' :: after.1)) gap'.2.2 (by simp)
          have hlast := any_getLast?_append_gap series.text gap'
          rw [hlast, hread] at hkeys
          simpa [text, commentText, words] using hkeys

/-- What is read as keys and a comment was written so. -/
theorem exists_of_keysAndComment? {cs : List Char} {found : List Key × Option (List Char)}
    (h : keysAndComment? cs = some found) : ∃ ending : KeysAndComment, ending.text = cs := by
  unfold keysAndComment? at h
  split at h
  · next hskip => exact ⟨⟨none, none, cs, List.dropWhile_eq_nil_iff.mp hskip⟩, rfl⟩
  next c more hskip =>
  obtain ⟨hhead, h⟩ := Option.ite_none_left_eq_some.mp h
  obtain ⟨gap, hcs⟩ := exists_gap (by simpa using hhead)
  rw [hskip] at hcs
  split at h
  · next hquote =>
      obtain ⟨comment, hread, -⟩ := Option.map_eq_some_iff.mp h
      obtain ⟨hcomment, after, htext⟩ := comment?_eq_some_iff.mp hread
      refine ⟨⟨none, some (gap, ⟨comment, hcomment⟩), after⟩, ?_⟩
      rw [hcs, htext]
      rfl
  next hquote =>
  obtain ⟨hlist, h⟩ := Option.ite_none_left_eq_some.mp h
  have hbody : (c :: more).takeWhile (· != '"') ++ (c :: more).dropWhile (· != '"') = c :: more :=
    List.takeWhile_append_dropWhile
  have hblank : ∀ first ∈ ((c :: more).takeWhile (· != '"')).head?, Text.isBlank first = false := by
    have hc : Text.isBlank c = false := Text.head?_dropWhile cs c (by
      change (skipBlanks cs).head? = some c
      rw [hskip, List.head?_cons])
    simpa [hquote] using hc
  obtain ⟨series, after, hseries⟩ := KeySeries.exists_of_isKeyList hblank (by simpa using hlist)
  rw [hseries] at hbody h
  split at h
  · next hempty =>
      refine ⟨⟨some (gap, series), none, after⟩, ?_⟩
      rw [List.isEmpty_iff.mp hempty, List.append_nil] at hbody
      rw [hcs, ← hbody]
      rfl
  · obtain ⟨hlast, h⟩ := Option.ite_none_left_eq_some.mp h
    obtain ⟨comment, hread, -⟩ := Option.map_eq_some_iff.mp h
    obtain ⟨hcomment, ending, htext⟩ := comment?_eq_some_iff.mp hread
    have hafter : after.1 ≠ [] := by
      intro hnil
      obtain ⟨c, hend, hc⟩ := series.getLast?_text
      rw [hnil, List.append_nil, hend] at hlast
      simp [hc] at hlast
    refine ⟨⟨some (gap, series), some (⟨after.1, hafter, after.2⟩, ⟨comment, hcomment⟩), ending⟩,
      ?_⟩
    rw [hcs, ← hbody, htext]
    simp [text, commentText]

theorem head?_text (ending : KeysAndComment) : ∀ c ∈ ending.text.head?, Text.isBlank c = true := by
  obtain ⟨keys, comment, after⟩ := ending
  cases keys with
  | some pair => exact head?_gap_append pair.1 _
  | none =>
      cases comment with
      | some pair => exact head?_gap_append pair.1 _
      | none => exact fun c hc => after.2 c (List.mem_of_mem_head? hc)

end KeysAndComment

/-! ## Attribute lines -/

/-- The parts that an attribute line was read from. -/
theorem exists_parts_of_attribute? {cs : List Char} {attr : Attribute}
    (h : attribute? cs = some attr) :
    ∃ typeName blank rest name more keys comment,
      skipBlanks cs = typeName ++ blank :: rest ∧ IsTypeName typeName ∧
        Text.isBlank blank = true ∧
        bareName? (star (skipBlanks (blank :: rest))).2 = some (name, more) ∧
        keysAndComment? more = some (keys, comment) ∧
        attr = {
          name := String.ofList name
          typeName := String.ofList typeName
          keys := if (star (skipBlanks (blank :: rest))).1 then withPrimary keys else keys
          comment := comment.map String.ofList } := by
  unfold attribute? at h
  cases htype : typeName? (skipBlanks cs) with
  | none => simp [htype] at h
  | some pair =>
      obtain ⟨typeName, rest⟩ := pair
      simp only [htype] at h
      obtain ⟨hgrammar, hcs⟩ := isTypeName_of_typeName? htype
      cases rest with
      | nil => simp at h
      | cons blank rest =>
          split at h
          · contradiction
          · next hblank =>
              cases hname : bareName? (star (skipBlanks (blank :: rest))).2 with
              | none => simp [hname] at h
              | some pair =>
                  obtain ⟨name, more⟩ := pair
                  cases hmore : keysAndComment? more with
                  | none => simp [hname, hmore] at h
                  | some pair =>
                      obtain ⟨keys, comment⟩ := pair
                      simp only [hname, hmore, Option.some.injEq] at h
                      exact ⟨typeName, blank, rest, name, more, keys, comment, hcs, hgrammar,
                        by simpa using hblank, hname, hmore, h.symm⟩

def starText (starred : Bool) : List Char := if starred then ['*'] else []

theorem star_starText_append (starred : Bool) {rest : List Char} (h : ∀ c ∈ rest.head?, c ≠ '*') :
    star (starText starred ++ rest) = (starred, rest) := by
  cases starred with
  | true => rfl
  | false =>
      change star rest = (false, rest)
      unfold star
      split
      · exact absurd rfl (h '*' rfl)
      · rfl

theorem starText_star (cs : List Char) : starText (star cs).1 ++ (star cs).2 = cs := by
  unfold star
  split <;> rfl

/-- An attribute line in its parts. -/
@[ext] structure WrittenAttribute where
  before : Text.Blanks
  typeName : WrittenType
  gap : Text.Gap
  isStarred : Bool
  name : List Char
  ending : KeysAndComment
  isBareName : IsBareName name

namespace WrittenAttribute

def text (written : WrittenAttribute) : List Char :=
  written.before.1 ++ (written.typeName.text ++ (written.gap.1 ++
    (starText written.isStarred ++ (written.name ++ written.ending.text))))

/-- The attribute of a line with the keys of some words, without repetition and in the order of
their first mention. A star adds the primary key in front, unless it is among them. -/
def declaring (written : WrittenAttribute) (words : List KeyWord) : Attribute where
  name := String.ofList written.name
  typeName := String.ofList written.typeName.text
  keys :=
    let keys := (words.map KeyWord.key).eraseDups
    if written.isStarred = true ∧ .primary ∉ keys then .primary :: keys else keys
  comment := written.ending.comment.map fun pair => String.ofList pair.2.1

/-- The attribute that a line is written for: each of its words is a key. -/
def intended (written : WrittenAttribute) : Attribute := written.declaring written.ending.words

/-- The attribute that a line declares: a word with the Kelvin sign is no key. -/
def declared (written : WrittenAttribute) : Attribute :=
  written.declaring (written.ending.words.filter fun word => '\u212a' ∉ word.text)

theorem keys_declared (written : WrittenAttribute) :
    let keys := (written.ending.words.filterMap KeyWord.key?).eraseDups
    written.declared.keys = if written.isStarred then withPrimary keys else keys := by
  rw [KeyWord.filterMap_key?]
  unfold declared declaring
  generalize (List.map KeyWord.key _).eraseDups = keys
  cases written.isStarred <;> simp [withPrimary]

/-- The two differ on words with the Kelvin sign only. -/
theorem declared_eq_intended {written : WrittenAttribute}
    (h : ∀ word ∈ written.ending.words, '\u212a' ∉ word.text) :
    written.declared = written.intended := by
  rw [declared, intended, List.filter_eq_self.mpr]
  simpa using h

theorem head?_typeName_append (written : WrittenAttribute) (rest : List Char) :
    ∀ c ∈ (written.typeName.text ++ rest).head?, Text.isBlank c = false := by
  obtain ⟨letter, more, htext, hletter⟩ := written.typeName.isTypeName_text.head
  rw [htext]
  exact Text.stop_cons (isBlank_of_isNameChar hletter) _

theorem typeName?_text_append (written : WrittenAttribute) (rest : List Char) :
    typeName? (written.typeName.text ++ (written.gap.1 ++ rest)) =
      some (written.typeName.text, written.gap.1 ++ rest) :=
  typeName?_append written.typeName.isTypeName_text (head?_gap_append written.gap rest)

theorem exists_lead (written : WrittenAttribute) (rest : List Char) :
    ∃ c more, written.name ++ rest = c :: more ∧ Text.isBlank c = false ∧ c ≠ '*' := by
  obtain ⟨first, more, hname, hfirst, -⟩ := written.isBareName
  have hchar := isNameChar_of_isNameStart hfirst
  refine ⟨first, more ++ rest, by rw [hname]; rfl, isBlank_of_isNameChar hchar, ?_⟩
  rintro rfl
  exact absurd hchar (by decide)

theorem head?_starText_append (written : WrittenAttribute) (rest : List Char) :
    ∀ c ∈ (starText written.isStarred ++ (written.name ++ rest)).head?, Text.isBlank c = false := by
  cases written.isStarred with
  | true => exact Text.stop_cons (by decide) _
  | false =>
      obtain ⟨first, more, hname, hblank, -⟩ := written.exists_lead rest
      rw [hname]
      exact Text.stop_cons hblank more

theorem star_text (written : WrittenAttribute) (rest : List Char) :
    star (starText written.isStarred ++ (written.name ++ rest)) =
      (written.isStarred, written.name ++ rest) := by
  obtain ⟨first, more, hname, -, hstar⟩ := written.exists_lead rest
  apply star_starText_append
  simpa [hname] using hstar

theorem head?_ending (written : WrittenAttribute) :
    ∀ c ∈ written.ending.text.head?, isNameChar c = false := fun c hc =>
  isNameChar_of_isBlank (written.ending.head?_text c hc)

theorem text_injective : Function.Injective text := by
  intro written other h
  obtain ⟨hbefore, htypes⟩ := Text.append_inj_of_stop written.before.2 other.before.2
    (written.head?_typeName_append _) (other.head?_typeName_append _) h
  have hread := congrArg typeName? htypes
  rw [typeName?_text_append, typeName?_text_append, Option.some.injEq, Prod.mk.injEq] at hread
  obtain ⟨htype, hgaps⟩ := hread
  obtain ⟨hgap, hstars⟩ := Text.append_inj_of_stop written.gap.2.2 other.gap.2.2
    (written.head?_starText_append _) (other.head?_starText_append _) hgaps
  have hstar := congrArg star hstars
  rw [star_text, star_text, Prod.mk.injEq] at hstar
  obtain ⟨hname, hending⟩ := Text.append_inj_of_stop written.isBareName.forall_isNameChar
    other.isBareName.forall_isNameChar written.head?_ending other.head?_ending hstar.2
  exact WrittenAttribute.ext (Subtype.ext hbefore) (WrittenType.text_injective htype)
    (Subtype.ext hgap) hstar.1 hname (KeysAndComment.text_injective hending)

/-- A line that is written from parts is read as the attribute that they stand for. -/
theorem attribute?_text (written : WrittenAttribute) :
    attribute? written.text = some written.declared := by
  have hskip : skipBlanks written.text = written.typeName.text ++ (written.gap.1 ++
      (starText written.isStarred ++ (written.name ++ written.ending.text))) := by
    rw [text, skipBlanks_append written.before.2,
      skipBlanks_of_head (written.head?_typeName_append _)]
  have hgap := any_head?_gap_append written.gap
    (starText written.isStarred ++ (written.name ++ written.ending.text))
  have hstar : star (skipBlanks (written.gap.1 ++
      (starText written.isStarred ++ (written.name ++ written.ending.text)))) =
      (written.isStarred, written.name ++ written.ending.text) := by
    rw [skipBlanks_append written.gap.2.2, skipBlanks_of_head (written.head?_starText_append _),
      star_text]
  have hname : bareName? (written.name ++ written.ending.text) =
      some (written.name, written.ending.text) :=
    bareName?_eq_some_iff.mpr ⟨written.isBareName, rfl, written.head?_ending⟩
  have hcomment : (written.ending.comment.map (·.2.1)).map String.ofList =
      written.declared.comment := Option.map_map ..
  have hending : keysAndComment? written.ending.text =
      some ((written.ending.words.filterMap KeyWord.key?).eraseDups,
        written.ending.comment.map (·.2.1)) := written.ending.keysAndComment?_text
  simp only [attribute?, hskip, typeName?_text_append, hgap, hstar, hname, hending, hcomment,
    ← keys_declared]
  rfl

theorem exists_of_attribute? {cs : List Char} {attr : Attribute} (h : attribute? cs = some attr) :
    ∃ written : WrittenAttribute, written.text = cs := by
  obtain ⟨typeName, blank, rest, name, more, keys, comment, hcs, htype, hblank, hname, hmore, -⟩ :=
    exists_parts_of_attribute? h
  obtain ⟨hbare, hstarred, -⟩ := bareName?_eq_some_iff.mp hname
  obtain ⟨typeText, rfl⟩ := htype.exists_written
  obtain ⟨ending, rfl⟩ := KeysAndComment.exists_of_keysAndComment? hmore
  obtain ⟨gap, hgap⟩ := @exists_gap (blank :: rest) (by simpa using hblank)
  have hstar := starText_star (skipBlanks (blank :: rest))
  rw [hstarred] at hstar
  refine ⟨⟨⟨cs.takeWhile Text.isBlank, fun c hc => List.mem_takeWhile_imp hc⟩, typeText, gap,
    (star (skipBlanks (blank :: rest))).1, name, ending, hbare⟩, ?_⟩
  calc
    _ = cs.takeWhile Text.isBlank ++ (typeText.text ++ (gap.1 ++ skipBlanks (blank :: rest))) :=
        congrArg (fun left => cs.takeWhile Text.isBlank ++ (typeText.text ++ (gap.1 ++ left))) hstar
    _ = cs.takeWhile Text.isBlank ++ skipBlanks cs := by rw [← hgap, hcs]
    _ = cs := List.takeWhile_append_dropWhile

end WrittenAttribute

/-- The lines that declare an attribute are those of the grammar, and each is written from one set
of parts. Every word of a list of keys is the code of a key once it is in capital letters, except
with the Kelvin sign, which is a capital letter of its own: such a word is accepted and names no
key. So a line without the sign in its keys declares the attribute that it is written for. -/
theorem attribute?_eq_some_iff_written (cs : List Char) :
    (∀ attr : Attribute, attribute? cs = some attr ↔
      ∃ written : WrittenAttribute, written.text = cs ∧ written.declared = attr) ∧
    (∀ written other : WrittenAttribute, written.text = cs → other.text = cs → written = other) ∧
    (∀ written : WrittenAttribute, written.text = cs →
      (∀ word ∈ written.ending.words, '\u212a' ∉ word.text) →
        attribute? cs = some written.intended) ∧
    ∀ word : KeyWord, Key.ofCode? (Text.upper (String.ofList word.text)) =
      if '\u212a' ∈ word.text then none else some word.key := by
  refine ⟨fun attr => ⟨?_, ?_⟩, ?_, ?_, KeyWord.key?_eq⟩
  · intro h
    obtain ⟨written, rfl⟩ := WrittenAttribute.exists_of_attribute? h
    rw [written.attribute?_text, Option.some.injEq] at h
    exact ⟨written, rfl, h⟩
  · rintro ⟨written, rfl, rfl⟩
    exact written.attribute?_text
  · rintro written other rfl hother
    exact (WrittenAttribute.text_injective hother).symm
  · rintro written rfl hplain
    rw [written.attribute?_text, WrittenAttribute.declared_eq_intended hplain]

/-- The word `PK` with the Kelvin sign for its second letter. -/
def kelvinWord : KeyWord where
  key := .primary
  text := ['P', '\u212a']
  isSpelled := isSpelled_iff.mpr ⟨'P', '\u212a', rfl, by decide, by decide⟩

/-- The line `int id PK` with that word for its key. -/
def kelvinLine : WrittenAttribute where
  before := Text.noBlanks
  typeName :=
    { letter := 'i', word := ['n', 't'], arguments := [], isArray := false
      isAlpha_letter := by decide
      forall_isNameChar :=
        List.forall_mem_cons.mpr ⟨by decide, List.forall_mem_singleton.mpr (by decide)⟩ }
  gap := Text.space
  isStarred := false
  name := ['i', 'd']
  ending := ⟨some (Text.space, .last kelvinWord), none, Text.noBlanks⟩
  isBareName := ⟨'i', ['d'], rfl, by decide, List.forall_mem_singleton.mpr (by decide)⟩

/-- The word is accepted as a primary key, but the attribute has no key. -/
theorem attribute?_kelvinLine :
    kelvinLine.text = "int id P\u212a".toList ∧
      kelvinLine.intended = ⟨"id", "int", [.primary], none⟩ ∧
      attribute? "int id P\u212a".toList = some ⟨"id", "int", [], none⟩ := by
  decide +kernel

/-! ## Lines that were written for an attribute -/

/-- The keys of an attribute, as they are written after its name. -/
def keysPart : List Key → List Char
  | [] => []
  | keys => ' ' :: keyList keys

/-- The comment of an attribute, as it is written at the end of its line. -/
def commentPart : Option String → List Char
  | none => []
  | some comment => ' ' :: quoted comment

/-- The line that declares an attribute. -/
def attributeLine (attr : Attribute) : List Char :=
  attr.typeName.toList ++ ' ' :: attr.name.toList ++ keysPart attr.keys ++ commentPart attr.comment

/-- An attribute that a line of its own can declare. -/
structure IsWritable (attr : Attribute) : Prop where
  name : IsBareName attr.name.toList
  typeName : IsTypeName attr.typeName.toList
  keys : attr.keys.Nodup
  comment : ∀ text ∈ attr.comment, '"' ∉ text.toList

theorem KeysAndComment.exists_of_parts (keys : List Key) {comment : Option String}
    (h : ∀ text ∈ comment, '"' ∉ text.toList) :
    ∃ ending : KeysAndComment, ending.text = keysPart keys ++ commentPart comment ∧
      ending.words.filterMap KeyWord.key? = keys ∧
      ending.comment.map (fun pair => String.ofList pair.2.1) = comment := by
  have hcomment : ∃ written : Option (Text.Gap × Unquoted),
      commentText written Text.noBlanks = commentPart comment ∧
        written.map (fun pair => String.ofList pair.2.1) = comment := by
    cases comment with
    | none => exact ⟨none, rfl, rfl⟩
    | some text =>
        exact ⟨some (Text.space, ⟨text.toList, h text rfl⟩), rfl,
          congrArg some String.ofList_toList⟩
  obtain ⟨written, htext, hread⟩ := hcomment
  cases keys with
  | nil => exact ⟨⟨none, written, Text.noBlanks⟩, htext, rfl, hread⟩
  | cons key keys =>
      refine ⟨⟨some (Text.space, .ofKeys key keys), written, Text.noBlanks⟩, ?_,
        KeySeries.keys_ofKeys key keys, hread⟩
      simp [KeysAndComment.text, KeySeries.text_ofKeys, htext, Text.space, keysPart]

/-- A line that was written to declare an attribute declares it. -/
theorem attribute?_attributeLine {attr : Attribute} (h : IsWritable attr) :
    attribute? (attributeLine attr) = some attr := by
  obtain ⟨typeText, htype⟩ := h.typeName.exists_written
  obtain ⟨ending, hending, hkeys, hcomment⟩ := KeysAndComment.exists_of_parts attr.keys h.comment
  let written : WrittenAttribute := {
    before := Text.noBlanks
    typeName := typeText
    gap := Text.space
    isStarred := false
    name := attr.name.toList
    ending := ending
    isBareName := h.name }
  have htext : written.text = attributeLine attr := by
    simp [written, WrittenAttribute.text, htype, hending, starText, attributeLine, Text.noBlanks,
      Text.space]
  have hwritten : written.declared.keys = attr.keys := by
    rw [written.keys_declared, hkeys, eraseDups_of_nodup h.keys]
    rfl
  have htypeName : written.declared.typeName = attr.typeName :=
    (congrArg String.ofList htype).trans String.ofList_toList
  have hdeclared : written.declared = attr :=
    Attribute.mk.injEq .. ▸ ⟨String.ofList_toList, htypeName, hwritten, hcomment⟩
  rw [← htext, ← hdeclared]
  exact written.attribute?_text

end EntityDiagram.Line
