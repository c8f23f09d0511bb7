import EntityDiagram.Proofs.Json.Escape
import EntityDiagram.Proofs.Text.Span

/-! # Reading what was written

A value that is written in either style is read back as it was, whatever follows it. Numbers are
left to the place where they are needed: a value fits when the reader takes each of its numbers
back.
-/

namespace EntityDiagram.Json

/-! ## Lists and records -/

theorem skipLayout_append {layout : List Char} (h : ∀ c ∈ layout, isLayout c = true)
    (rest : List Char) : skipLayout (layout ++ rest) = skipLayout rest := by
  induction layout with
  | nil => rfl
  | cons c layout ih =>
      obtain ⟨hc, hlayout⟩ := List.forall_mem_cons.mp h
      rw [← ih hlayout]
      exact List.dropWhile_cons_of_pos hc

theorem skipLayout_of_head {cs : List Char} (h : ∀ c ∈ cs.head?, isLayout c = false) :
    skipLayout cs = cs := Text.dropWhile_of_head h

theorem isLayout_of_mem_lineStart (indent : Nat) : ∀ c ∈ lineStart indent, isLayout c = true := by
  intro c hc
  rcases List.mem_cons.mp hc with rfl | hc
  · decide
  · rw [List.eq_of_mem_replicate hc]
    decide

/-- What may follow a value: a comma, or layout, or nothing. -/
def IsBoundary (rest : List Char) : Prop := ∀ c ∈ rest.head?, c = ',' ∨ isLayout c = true

/-- The further items of a list or fields of a record, each on a line of its own. -/
def commaLines {α : Type} (indent : Nat) (written : α → List Char) (items : List α) : List Char :=
  items.flatMap fun item => ',' :: lineStart indent ++ written item

theorem itemsChars_eq_commaLines (style : Style) (indent : Nat) (items : List Json) :
    itemsChars style indent items = commaLines indent (chars style indent) items := by
  induction items with
  | nil => rw [itemsChars]; rfl
  | cons item items ih => rw [itemsChars, ih]; rfl

/-- A field of a record as it is written. -/
def fieldChars (style : Style) (indent : Nat) (field : String × Json) : List Char :=
  textChars style field.1 ++ [':', ' '] ++ chars style indent field.2

theorem fieldsChars_eq_commaLines (style : Style) (indent : Nat) (fields : List (String × Json)) :
    fieldsChars style indent fields = commaLines indent (fieldChars style indent) fields := by
  induction fields with
  | nil => rw [fieldsChars]; rfl
  | cons field fields ih =>
      rw [fieldsChars, ih]
      simp [commaLines, fieldChars]

/-- A list or record that is not empty. -/
def bracketed {α : Type} (opening closing : Char) (indent : Nat) (written : α → List Char)
    (item : α) (items : List α) : List Char :=
  opening :: (lineStart (indent + 2) ++ written item ++
    (commaLines (indent + 2) written items ++ (lineStart indent ++ [closing])))

theorem bracketed_append {α : Type} (opening closing : Char) (indent : Nat)
    (written : α → List Char) (item : α) (items : List α) (rest : List Char) :
    bracketed opening closing indent written item items ++ rest =
      opening :: (lineStart (indent + 2) ++ written item ++
        (commaLines (indent + 2) written items ++ (lineStart indent ++ closing :: rest))) := by
  simp [bracketed]

theorem getLast?_bracketed {α : Type} (opening closing : Char) (indent : Nat)
    (written : α → List Char) (item : α) (items : List α) :
    (bracketed opening closing indent written item items).getLast? = some closing := by
  have hlast : bracketed opening closing indent written item items =
      opening :: (lineStart (indent + 2) ++ written item ++
        (commaLines (indent + 2) written items ++ lineStart indent)) ++ [closing] := by
    simp [bracketed]
  rw [hlast, List.getLast?_concat]

theorem chars_list_cons (style : Style) (indent : Nat) (item : Json) (items : List Json) :
    chars style indent (list (item :: items)) =
      bracketed '[' ']' indent (chars style (indent + 2)) item items := by
  simp [chars, itemsChars_eq_commaLines, bracketed]

theorem chars_record_cons (style : Style) (indent : Nat) (field : String × Json)
    (fields : List (String × Json)) :
    chars style indent (record (field :: fields)) =
      bracketed '{' '}' indent (fieldChars style (indent + 2)) field fields := by
  simp [chars, fieldsChars_eq_commaLines, fieldChars, bracketed]

/-- A reader takes back what is written, if something that can follow a value follows it. -/
structure ReadsBack {α : Type} (read? : List Char → Option (α × List Char))
    (written : List Char) (item : α) : Prop where
  head : ∃ c more, written = c :: more ∧ isLayout c = false
  read : ∀ rest, IsBoundary rest → read? (written ++ rest) = some (item, rest)

theorem isBoundary_lineStart (indent : Nat) (rest : List Char) :
    IsBoundary (lineStart indent ++ rest) := by
  intro c hc
  cases hc
  exact .inr (by decide)

theorem isBoundary_commaLines {α : Type} (indent finish : Nat) (written : α → List Char)
    (items : List α) (rest : List Char) :
    IsBoundary (commaLines indent written items ++ (lineStart finish ++ rest)) := by
  cases items with
  | nil => exact isBoundary_lineStart finish rest
  | cons item items =>
      rintro c ⟨⟩
      exact .inl rfl

theorem ReadsBack.skipLayout_append {α : Type} {item? : List Char → Option (α × List Char)}
    {layout written : List Char} {item : α} (h : ReadsBack item? written item)
    (hlayout : ∀ c ∈ layout, isLayout c = true) (rest : List Char) :
    skipLayout (layout ++ written ++ rest) = written ++ rest := by
  obtain ⟨c, more, rfl, hc⟩ := h.head
  rw [List.append_assoc, Json.skipLayout_append hlayout]
  exact skipLayout_of_head (by simpa using hc)

section Separated

variable {α : Type} {close : Char} {item? : List Char → Option (α × List Char)}

theorem separated?_last {written : List Char} {item : α} (h : ReadsBack item? written item)
    (hclose : isLayout close = false) (hcomma : close ≠ ',') (indent finish fuel : Nat)
    (rest : List Char) :
    separated? close item? (fuel + 1)
        (lineStart indent ++ written ++ (lineStart finish ++ close :: rest)) =
      some ([item], rest) := by
  have hread := h.read _ (isBoundary_lineStart finish (close :: rest))
  have hskip : skipLayout (lineStart finish ++ close :: rest) = close :: rest := by
    rw [skipLayout_append (isLayout_of_mem_lineStart finish)]
    exact skipLayout_of_head (by simpa using hclose)
  rw [separated?, h.skipLayout_append (isLayout_of_mem_lineStart indent), hread]
  simp [hskip]

theorem separated?_more {written : List Char} {item : α} (h : ReadsBack item? written item)
    (indent fuel : Nat) (more : List Char) :
    separated? close item? (fuel + 1) (lineStart indent ++ written ++ ',' :: more) =
      (separated? close item? fuel more).map fun (items, rest) => (item :: items, rest) := by
  have hboundary : IsBoundary (',' :: more) := by
    rintro c ⟨⟩
    exact .inl rfl
  have hskip : skipLayout (',' :: more) = ',' :: more := List.dropWhile_cons_of_neg (by decide)
  rw [separated?, h.skipLayout_append (isLayout_of_mem_lineStart indent), h.read _ hboundary]
  simp only [hskip]

/-- Items on lines of their own are read back up to the bracket. -/
theorem separated?_commaLines {written : α → List Char} {item : α} {items : List α}
    (hitems : ∀ other ∈ item :: items, ReadsBack item? (written other) other)
    (hclose : isLayout close = false) (hcomma : close ≠ ',') (indent finish : Nat) {fuel : Nat}
    (hfuel : items.length < fuel) (rest : List Char) :
    separated? close item? fuel
        (lineStart indent ++ written item ++
          (commaLines indent written items ++ (lineStart finish ++ close :: rest))) =
      some (item :: items, rest) := by
  -- One unit of fuel goes for each item, by induction on the items after the first.
  induction items generalizing item fuel with
  | nil =>
      obtain ⟨fuel, rfl⟩ := Nat.exists_eq_succ_of_ne_zero (Nat.ne_zero_of_lt hfuel)
      exact separated?_last (hitems item List.mem_cons_self) hclose hcomma indent finish fuel rest
  | cons next items ih =>
      obtain ⟨fuel, rfl⟩ := Nat.exists_eq_succ_of_ne_zero (Nat.ne_zero_of_lt hfuel)
      obtain ⟨hitem, hitems⟩ := List.forall_mem_cons.mp hitems
      have hlines : commaLines indent written (next :: items) ++
          (lineStart finish ++ close :: rest) =
            ',' :: (lineStart indent ++ written next ++
              (commaLines indent written items ++ (lineStart finish ++ close :: rest))) := by
        simp [commaLines]
      rw [hlines, separated?_more hitem, ih hitems (Nat.lt_of_succ_lt_succ hfuel)]
      rfl

theorem length_le_length_commaLines (indent : Nat) (written : α → List Char) (items : List α) :
    items.length ≤ (commaLines indent written items).length := by
  induction items with
  | nil => exact Nat.le_refl 0
  | cons item items ih =>
      simp only [commaLines, List.flatMap_cons, List.length_append, List.length_cons] at ih ⊢
      omega

theorem separated?_skipLayout (fuel : Nat) (cs : List Char) :
    separated? close item? fuel (skipLayout cs) = separated? close item? fuel cs := by
  have hskip : skipLayout (skipLayout cs) = skipLayout cs :=
    skipLayout_of_head (Text.head?_dropWhile cs)
  cases fuel with
  | zero => rfl
  | succ fuel => rw [separated?, separated?, hskip]

theorem separated?_lines {written : α → List Char} {item : α} {items : List α}
    (hitems : ∀ other ∈ item :: items, ReadsBack item? (written other) other)
    (hclose : isLayout close = false) (hcomma : close ≠ ',') (indent finish : Nat)
    {rest cs : List Char}
    (hcs : cs = skipLayout (lineStart indent ++ written item ++
      (commaLines indent written items ++ (lineStart finish ++ close :: rest)))) :
    separated? close item? (cs.length + 1) cs = some (item :: items, rest) := by
  have hitem := hitems item List.mem_cons_self
  have hskip := hcs.trans (hitem.skipLayout_append (isLayout_of_mem_lineStart indent) _)
  have hfuel : items.length < cs.length + 1 := by
    have hlines := length_le_length_commaLines indent written items
    rw [hskip]
    simp only [List.length_append]
    omega
  rw [hcs] at hfuel ⊢
  rw [separated?_skipLayout]
  exact separated?_commaLines hitems hclose hcomma indent finish hfuel rest

end Separated

/-! ## Values -/

/-- A value whose lists and records are nested at most `depth` deep, except for empty ones, and
whose numbers are read back. -/
inductive Fits : Nat → Json → Prop where
  | null {depth : Nat} : Fits depth null
  | bool {depth : Nat} (value : Bool) : Fits depth (bool value)
  | number {depth : Nat} {n : Numeral}
      (hread : ∀ depth, ReadsBack (value? depth) (numeralChars n) (number n))
      (hplain : ∀ c ∈ numeralChars n, 0x20 ≤ c.toNat) : Fits depth (number n)
  | text {depth : Nat} (s : String) : Fits depth (text s)
  | emptyList {depth : Nat} : Fits depth (list [])
  | list {depth : Nat} {items : List Json} (hitems : ∀ item ∈ items, Fits depth item) :
      Fits (depth + 1) (list items)
  | emptyRecord {depth : Nat} : Fits depth (record [])
  | record {depth : Nat} {fields : List (String × Json)}
      (hfields : ∀ field ∈ fields, Fits depth field.2) : Fits (depth + 1) (record fields)

section Equations

variable (depth : Nat) (cs rest : List Char)

theorem value?_quote : value? depth ('"' :: cs) =
    (textBody? cs).map fun (body, rest) => (text (String.ofList body), rest) := by
  cases depth <;> rfl

theorem value?_null : value? depth ('n' :: 'u' :: 'l' :: 'l' :: rest) = some (null, rest) := by
  cases depth <;> rfl

theorem value?_true : value? depth ('t' :: 'r' :: 'u' :: 'e' :: rest) = some (bool true, rest) := by
  cases depth <;> rfl

theorem value?_false :
    value? depth ('f' :: 'a' :: 'l' :: 's' :: 'e' :: rest) = some (bool false, rest) := by
  cases depth <;> rfl

theorem value?_emptyList : value? depth ('[' :: ']' :: rest) = some (list [], rest) := by
  cases depth <;> rfl

theorem value?_emptyRecord : value? depth ('{' :: '}' :: rest) = some (record [], rest) := by
  cases depth <;> rfl

theorem value?_list :
    value? (depth + 1) ('[' :: cs) = listWith? (depth + 1) (value? depth) cs := rfl

theorem value?_record :
    value? (depth + 1) ('{' :: cs) = recordWith? (depth + 1) (value? depth) cs := rfl

theorem value?_bracket : value? depth (']' :: cs) = none := by
  cases depth <;> rfl

end Equations

theorem value?_textChars {style : Style} (hstyle : style.IsSound) (depth : Nat) (s : String)
    (rest : List Char) : value? depth (textChars style s ++ rest) = some (.text s, rest) := by
  have hbody := textBody?_escaped hstyle s.toList rest
  have hchars : textChars style s ++ rest =
      '"' :: (s.toList.flatMap (escape style) ++ '"' :: rest) := by
    simp [textChars]
  rw [hchars, value?_quote, hbody]
  simp

theorem readsBack_fieldChars {style : Style} (hstyle : style.IsSound) {depth indent : Nat}
    {field : String × Json}
    (h : ReadsBack (value? depth) (chars style indent field.2) field.2) :
    ReadsBack (fieldWith? (value? depth)) (fieldChars style indent field) field := by
  obtain ⟨name, value⟩ := field
  refine ⟨⟨'"', _, rfl, by decide⟩, fun rest hrest => ?_⟩
  have hchars : fieldChars style indent (name, value) ++ rest =
      '"' :: (name.toList.flatMap (escape style) ++
        '"' :: ':' :: ' ' :: (chars style indent value ++ rest)) := by
    simp [fieldChars, textChars]
  have hcolon : ∀ cs, skipLayout (':' :: cs) = ':' :: cs := fun cs =>
    List.dropWhile_cons_of_neg (by decide)
  have hspace : ∀ c ∈ [' '], isLayout c = true := List.forall_mem_singleton.mpr (by decide)
  have hvalue : skipLayout (' ' :: (chars style indent value ++ rest)) =
      chars style indent value ++ rest := h.skipLayout_append hspace rest
  rw [hchars]
  simp only [fieldWith?, textBody?_escaped hstyle, hcolon, hvalue, h.read rest hrest,
    Option.map_some, String.ofList_toList]

theorem readsBack_list {style : Style} {depth : Nat} {items : List Json} (indent : Nat)
    (h : ∀ item ∈ items, ∀ indent, ReadsBack (value? depth) (chars style indent item) item) :
    ReadsBack (value? (depth + 1)) (chars style indent (list items)) (list items) := by
  cases items with
  | nil =>
      rw [chars]
      exact ⟨⟨'[', _, rfl, by decide⟩, fun rest _ => value?_emptyList _ rest⟩
  | cons item items =>
      have hitems : ∀ other ∈ item :: items,
          ReadsBack (value? depth) (chars style (indent + 2) other) other :=
        fun other hmem => h other hmem (indent + 2)
      have hitem := hitems item List.mem_cons_self
      rw [chars_list_cons]
      refine ⟨⟨'[', _, rfl, by decide⟩, fun rest _ => ?_⟩
      rw [bracketed_append, value?_list, listWith?]
      split
      · next other heq =>
          -- No value starts with a bracket that closes a list.
          have hread := hitem.read _ (isBoundary_commaLines (indent + 2) indent
            (chars style (indent + 2)) items (']' :: rest))
          rw [hitem.skipLayout_append (isLayout_of_mem_lineStart _)] at heq
          rw [heq, value?_bracket] at hread
          cases hread
      · rw [if_neg (Nat.succ_ne_zero depth),
          separated?_lines hitems (by decide) (by decide) (indent + 2) indent rfl]
        rfl

theorem readsBack_record {style : Style} {depth : Nat} {fields : List (String × Json)}
    (indent : Nat)
    (h : ∀ field ∈ fields, ∀ indent,
      ReadsBack (fieldWith? (value? depth)) (fieldChars style indent field) field) :
    ReadsBack (value? (depth + 1)) (chars style indent (record fields)) (record fields) := by
  cases fields with
  | nil =>
      rw [chars]
      exact ⟨⟨'{', _, rfl, by decide⟩, fun rest _ => value?_emptyRecord _ rest⟩
  | cons field fields =>
      have hfields : ∀ other ∈ field :: fields,
          ReadsBack (fieldWith? (value? depth)) (fieldChars style (indent + 2) other) other :=
        fun other hmem => h other hmem (indent + 2)
      have hfield := hfields field List.mem_cons_self
      rw [chars_record_cons]
      refine ⟨⟨'{', _, rfl, by decide⟩, fun rest _ => ?_⟩
      rw [bracketed_append, value?_record, recordWith?]
      split
      · next other heq =>
          rw [hfield.skipLayout_append (isLayout_of_mem_lineStart _)] at heq
          cases heq
      · rw [if_neg (Nat.succ_ne_zero depth),
          separated?_lines hfields (by decide) (by decide) (indent + 2) indent rfl]
        rfl

/-- What was written is read back. -/
theorem readsBack_chars {style : Style} (hstyle : style.IsSound) {depth : Nat} {value : Json}
    (h : Fits depth value) (indent : Nat) :
    ReadsBack (value? depth) (chars style indent value) value := by
  induction h generalizing indent with
  | null =>
      rw [chars]
      exact ⟨⟨'n', _, rfl, by decide⟩, fun rest _ => value?_null _ rest⟩
  | bool value =>
      cases value with
      | true =>
          rw [chars]
          exact ⟨⟨'t', _, rfl, by decide⟩, fun rest _ => value?_true _ rest⟩
      | false =>
          rw [chars]
          exact ⟨⟨'f', _, rfl, by decide⟩, fun rest _ => value?_false _ rest⟩
  | number hread hplain =>
      rw [chars]
      exact hread _
  | text s =>
      rw [chars]
      exact ⟨⟨'"', _, rfl, by decide⟩, fun rest _ => value?_textChars hstyle _ s rest⟩
  | emptyList =>
      rw [chars]
      exact ⟨⟨'[', _, rfl, by decide⟩, fun rest _ => value?_emptyList _ rest⟩
  | list hitems ih => exact readsBack_list indent ih
  | emptyRecord =>
      rw [chars]
      exact ⟨⟨'{', _, rfl, by decide⟩, fun rest _ => value?_emptyRecord _ rest⟩
  | record hfields ih =>
      exact readsBack_record indent fun field hmem indent =>
        readsBack_fieldChars hstyle (ih field hmem indent)

theorem parse?_render_append {style : Style} (hstyle : style.IsSound) {value : Json}
    (h : Fits maxDepth value) {after : String} (hafter : ∀ c ∈ after.toList, isLayout c = true) :
    parse? (value.render style ++ after) = some value := by
  have hback := readsBack_chars hstyle h 0
  have hnone : ∀ c ∈ ([] : List Char), isLayout c = true := by simp
  have hskip := hback.skipLayout_append hnone after.toList
  have hboundary : IsBoundary after.toList := fun c hc => .inr (hafter c (List.mem_of_mem_head? hc))
  have hrest : skipLayout after.toList = [] := List.dropWhile_eq_nil_iff.mpr hafter
  rw [List.nil_append] at hskip
  rw [parse?, render, String.toList_append, String.toList_ofList, hskip, hback.read _ hboundary]
  simp [hrest]

theorem parse?_render {style : Style} (hstyle : style.IsSound) {value : Json}
    (h : Fits maxDepth value) : parse? (value.render style) = some value := by
  have hnone : ∀ c ∈ "".toList, isLayout c = true := by simp
  simpa using parse?_render_append hstyle h hnone

end EntityDiagram.Json
