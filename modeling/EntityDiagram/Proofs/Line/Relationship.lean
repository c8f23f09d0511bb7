import EntityDiagram.Diagram.Line.Relationship
import EntityDiagram.Proofs.Line.Name

/-! # Relationship lines that were written

A relationship line with any of the symbols for its cardinalities, its names in any spelling and any
blanks between its parts is read as the relationship that it was written for. A bare name is taken
as far as it goes; an o that it took from the symbol after it is given back, since a connector does
not complete what is left of the symbol.
-/

namespace EntityDiagram.Line

/-! ## Links -/

/-- Every symbol is read as the cardinality that it stands for. -/
theorem cardinality?_symbol {symbol : List Char} {cardinality : Cardinality}
    (h : (symbol, cardinality) ∈ Cardinality.symbols) (rest : List Char) :
    cardinality? (symbol ++ rest) = some (cardinality, rest) := by
  have hall : ∀ entry ∈ Cardinality.symbols,
      cardinality? (entry.1 ++ rest) = some (entry.2, rest) := by
    intro entry hentry
    simp only [Cardinality.symbols, List.mem_cons, List.not_mem_nil, or_false] at hentry
    rcases hentry with rfl | rfl | rfl | rfl | rfl | rfl | rfl | rfl | rfl <;> rfl
  exact hall _ h

/-- The connector of a relationship. -/
def connector (identifying : Bool) : List Char := if identifying then ['-', '-'] else ['.', '.']

theorem connector?_connector (identifying : Bool) (rest : List Char) :
    connector? (connector identifying ++ rest) = some (identifying, rest) := by
  cases identifying <;> rfl

theorem exists_mark_of_connector (identifying : Bool) :
    ∃ mark, connector identifying = [mark, mark] ∧ Text.isBlank mark = false := by
  cases identifying with
  | true => exact ⟨'-', rfl, by decide⟩
  | false => exact ⟨'.', rfl, by decide⟩

/-- Two symbols and a connector are read as the link that they stand for. -/
theorem link?_symbols {left right : List Char} {first second : Cardinality}
    (hleft : (left, first) ∈ Cardinality.symbols) (hright : (right, second) ∈ Cardinality.symbols)
    (identifying : Bool) (rest : List Char) :
    link? (left ++ connector identifying ++ right ++ rest) =
      some (⟨first, identifying, second⟩, rest) := by
  simp only [List.append_assoc, link?, cardinality?_symbol hleft, connector?_connector,
    cardinality?_symbol hright]

/-- A symbol is two marks, neither of them a blank or a bracket. A name cannot go on with the first,
unless it is an o; then it cannot go on with the second. -/
theorem exists_marks_of_symbol {symbol : List Char} {cardinality : Cardinality}
    (h : (symbol, cardinality) ∈ Cardinality.symbols) :
    ∃ a b, symbol = [a, b] ∧ (Text.isBlank a = false ∧ Text.isBlank b = false) ∧
      (a ≠ '[' ∧ b ≠ '[') ∧ (isNameChar a = false ∨ a = 'o' ∧ isNameChar b = false) := by
  have hall : ∀ entry ∈ Cardinality.symbols,
      ∃ a b, entry.1 = [a, b] ∧ (Text.isBlank a = false ∧ Text.isBlank b = false) ∧
        (a ≠ '[' ∧ b ≠ '[') ∧ (isNameChar a = false ∨ a = 'o' ∧ isNameChar b = false) := by
    intro entry hentry
    simp only [Cardinality.symbols, List.mem_cons, List.not_mem_nil, or_false] at hentry
    rcases hentry with rfl | rfl | rfl | rfl | rfl | rfl | rfl | rfl | rfl <;>
      exact ⟨_, _, rfl, by decide⟩
  exact hall _ h

/-- No symbol starts with a blank. -/
theorem skipBlanks_symbol {symbol : List Char} {cardinality : Cardinality}
    (h : (symbol, cardinality) ∈ Cardinality.symbols) (rest : List Char) :
    skipBlanks (symbol ++ rest) = symbol ++ rest := by
  obtain ⟨a, b, rfl, ⟨hblank, -⟩, -⟩ := exists_marks_of_symbol h
  exact skipBlanks_cons hblank _

theorem exists_symbol_of_cardinality? {cs rest : List Char} {cardinality : Cardinality}
    (h : cardinality? cs = some (cardinality, rest)) :
    ∃ symbol, (symbol, cardinality) ∈ Cardinality.symbols ∧ cs = symbol ++ rest := by
  unfold cardinality? at h
  split at h
  · next a b left =>
      obtain ⟨found, hfound, heq⟩ := Option.map_eq_some_iff.mp h
      cases heq
      obtain ⟨before, after, hsymbols, -⟩ := List.lookup_eq_some_iff.mp hfound
      exact ⟨[a, b], by rw [hsymbols]; simp, rfl⟩
  · contradiction

theorem eq_of_connector? {cs rest : List Char} {identifying : Bool}
    (h : connector? cs = some (identifying, rest)) : cs = connector identifying ++ rest := by
  unfold connector? at h
  split at h
  · cases h
    rfl
  · cases h
    rfl
  · contradiction

/-- What is read as a link is two symbols and a connector. -/
theorem exists_symbols_of_link? {cs rest : List Char} {link : Link}
    (h : link? cs = some (link, rest)) :
    ∃ left right, (left, link.firstCardinality) ∈ Cardinality.symbols ∧
      (right, link.secondCardinality) ∈ Cardinality.symbols ∧
      cs = left ++ connector link.identifying ++ right ++ rest := by
  unfold link? at h
  split at h
  · contradiction
  · next first more hfirst =>
      obtain ⟨left, hleft, rfl⟩ := exists_symbol_of_cardinality? hfirst
      split at h
      · contradiction
      · next identifying more hconnector =>
          split at h
          · contradiction
          · next second left' hsecond =>
              obtain ⟨right, hright, rfl⟩ := exists_symbol_of_cardinality? hsecond
              cases h
              refine ⟨left, right, hleft, hright, ?_⟩
              rw [eq_of_connector? hconnector]
              simp

/-! ## The first end -/

theorem firstEnd?_of_link? {cs name rest more : List Char} {link : Link}
    (hname : name? cs = some (name, rest)) (hlink : link? (skipBlanks rest) = some (link, more)) :
    firstEnd? cs = some (name, link, more) := by
  simp only [firstEnd?, hname, hlink]

/-- A connector does not complete a symbol. -/
theorem cardinality?_connector (c : Char) (identifying : Bool) (rest : List Char) :
    cardinality? (c :: (connector identifying ++ rest)) = none := by
  cases h : cardinality? (c :: (connector identifying ++ rest)) with
  | none => rfl
  | some pair =>
      obtain ⟨symbol, hsymbol, heq⟩ := exists_symbol_of_cardinality? h
      simp only [Cardinality.symbols, List.mem_cons, List.not_mem_nil, or_false,
        Prod.mk.injEq] at hsymbol
      rcases hsymbol with ⟨rfl, -⟩ | ⟨rfl, -⟩ | ⟨rfl, -⟩ | ⟨rfl, -⟩ | ⟨rfl, -⟩ | ⟨rfl, -⟩ |
        ⟨rfl, -⟩ | ⟨rfl, -⟩ | ⟨rfl, -⟩ <;> cases identifying <;> simp [connector] at heq

theorem giveBack?_append {name : List Char} (h : name ≠ []) :
    giveBack? (name ++ ['o']) = some name := by
  have hlength : 2 ≤ (name ++ ['o']).length := by
    have hpos := List.length_pos_iff.mpr h
    simp only [List.length_append, List.length_singleton]
    omega
  rw [giveBack?, if_pos ⟨List.getLast?_concat, hlength⟩, List.dropLast_concat]

theorem head?_blanks_append (gap : Text.Blanks) {c : Char} (hc : isNameChar c = false)
    (rest : List Char) : ∀ d ∈ (gap.1 ++ c :: rest).head?, isNameChar d = false := by
  obtain ⟨blanks, hblanks⟩ := gap
  cases blanks with
  | nil => simpa using hc
  | cons blank blanks => simpa using isNameChar_of_isBlank (hblanks blank List.mem_cons_self)

section FirstEnd

variable {left right : List Char} {first second : Cardinality}

/-- An o that belongs to the symbol after a bare name is taken for the end of the name at first, and
given back since no link follows. -/
theorem firstEnd?_giveBack {name : List Char} {mark : Char} (hname : IsBareName name)
    (hmark : isNameChar mark = false) (hblank : Text.isBlank mark = false)
    (hleft : (['o', mark], first) ∈ Cardinality.symbols)
    (hright : (right, second) ∈ Cardinality.symbols) (identifying : Bool) (rest : List Char) :
    firstEnd? (name ++ (['o', mark] ++ connector identifying ++ right ++ rest)) =
      some (name, ⟨first, identifying, second⟩, rest) := by
  have hlonger : IsBareName (name ++ ['o']) := by
    obtain ⟨start, more, rfl, hstart, hmore⟩ := hname
    refine ⟨start, more ++ ['o'], rfl, hstart, ?_⟩
    exact List.forall_mem_append.mpr ⟨hmore, List.forall_mem_singleton.mpr (by decide)⟩
  have hread : name? (name ++ ['o'] ++ (mark :: (connector identifying ++ right ++ rest))) =
      some (name ++ ['o'], mark :: (connector identifying ++ right ++ rest)) :=
    name?_bareName hlonger (by simpa using hmark)
  have hshort : link? (skipBlanks (mark :: (connector identifying ++ right ++ rest))) = none := by
    rw [skipBlanks_cons hblank, link?, List.append_assoc, cardinality?_connector]
  have hlink : link? ('o' :: mark :: (connector identifying ++ right ++ rest)) =
      some (⟨first, identifying, second⟩, rest) := by
    simpa using link?_symbols hleft hright identifying rest
  have hstart : (name ++ ['o'] ++
      (mark :: (connector identifying ++ right ++ rest))).head?.any isNameStart = true := by
    obtain ⟨start, more, rfl, hstart, -⟩ := hname
    simpa using hstart
  have hback := giveBack?_append hname.isName.1
  have hline : name ++ (['o', mark] ++ connector identifying ++ right ++ rest) =
      name ++ ['o'] ++ (mark :: (connector identifying ++ right ++ rest)) := by simp
  rw [hline]
  simp only [firstEnd?, hread, hshort, hstart, if_true, hback, hlink, Option.map_some]

/-- The first end is read as it was written, however it is spelled and spaced. -/
theorem firstEnd?_written (name : WrittenName) (gap : Text.Blanks)
    (hleft : (left, first) ∈ Cardinality.symbols) (hright : (right, second) ∈ Cardinality.symbols)
    (identifying : Bool) (rest : List Char) :
    firstEnd? (name.text ++ (gap.1 ++ (left ++ connector identifying ++ right ++ rest))) =
      some (name.name, ⟨first, identifying, second⟩, rest) := by
  have hlink : link? (skipBlanks (gap.1 ++ (left ++ connector identifying ++ right ++ rest))) =
      some (⟨first, identifying, second⟩, rest) := by
    have hskip : skipBlanks (left ++ connector identifying ++ right ++ rest) =
        left ++ connector identifying ++ right ++ rest := by
      simp only [List.append_assoc]
      exact skipBlanks_symbol hleft _
    rw [skipBlanks_append gap.2, hskip, link?_symbols hleft hright]
  cases name with
  | quoted name h => exact firstEnd?_of_link? (WrittenName.name?_text _ nofun) hlink
  | escaped name h => exact firstEnd?_of_link? (WrittenName.name?_text _ nofun) hlink
  | bare name h =>
      obtain ⟨a, b, rfl, ⟨-, hblank⟩, -, hmarks⟩ := exists_marks_of_symbol hleft
      rcases hmarks with hstop | ⟨rfl, hstop⟩
      · exact firstEnd?_of_link? (name?_bareName h (head?_blanks_append gap hstop _)) hlink
      · obtain ⟨blanks, hblanks⟩ := gap
        cases blanks with
        | nil => exact firstEnd?_giveBack h hstop hblank hleft hright identifying rest
        | cons blank blanks =>
            have hgap : isNameChar blank = false :=
              isNameChar_of_isBlank (hblanks blank List.mem_cons_self)
            exact firstEnd?_of_link? (name?_bareName h (by simpa using hgap)) hlink

end FirstEnd

/-! ## Labels -/

/-- A quote, or nothing. -/
def quoteIf (present : Bool) : List Char := if present then ['"'] else []

theorem head?_quoteIf (present : Bool) : ∀ c ∈ (quoteIf present).head?, (c != '"') = false := by
  cases present <;> simp [quoteIf]

theorem label?_of_body {cs : List Char} {c : Char} {more : List Char}
    (hskip : skipBlanks cs = c :: more) (hquote : c :: more ≠ ['"']) {text : List Char}
    {after : Bool} (hbody : (if c = '"' then more else c :: more) = text ++ quoteIf after)
    (htext : '"' ∉ text) (hne : text ≠ []) : label? cs = some (Text.trim text) := by
  have hall : ∀ c ∈ text, (c != '"') = true := by
    intro c hc
    simpa using ne_of_mem_of_not_mem hc htext
  have htake := Text.takeWhile_append_stop hall (head?_quoteIf after)
  have hdrop := Text.dropWhile_append_stop hall (head?_quoteIf after)
  have hends : endsLabel (quoteIf after) = true := by cases after <;> rfl
  have hempty : text.isEmpty = false := by simpa using hne
  simp only [label?, hskip]
  split
  · contradiction
  · next heq => exact absurd heq hquote
  · next first rest _ heq =>
      cases heq
      simp only [hbody, htake, hdrop, hends, hempty]
      rfl

/-- A label is read without the blanks around it and without a quote on either side. -/
theorem label?_written (gap : Text.Blanks) (before after : Bool) {text : List Char}
    (hquote : '"' ∉ text) (hblank : ∃ c ∈ text, Text.isBlank c = false) :
    label? (gap.1 ++ (quoteIf before ++ (text ++ quoteIf after))) = some (Text.trim text) := by
  obtain ⟨c, hc, hcblank⟩ := hblank
  have hne : text ≠ [] := List.ne_nil_of_mem hc
  cases before with
  | true =>
      have hskip : skipBlanks (gap.1 ++ (quoteIf true ++ (text ++ quoteIf after))) =
          '"' :: (text ++ quoteIf after) := by
        rw [skipBlanks_append gap.2]
        exact skipBlanks_cons (by decide) _
      exact label?_of_body hskip (by simp [hne]) (if_pos rfl) hquote hne
  | false =>
      -- Blanks before the text are skipped with those before the label.
      have hkept : skipBlanks text ≠ [] := by
        intro hnil
        rw [List.dropWhile_eq_nil_iff.mp hnil c hc] at hcblank
        contradiction
      obtain ⟨first, rest, hfirst⟩ := List.exists_cons_of_ne_nil hkept
      have hstart : first ≠ '"' := by
        rintro rfl
        exact hquote ((skipBlanks_suffix text).subset (hfirst ▸ List.mem_cons_self))
      have hskip : skipBlanks (gap.1 ++ (quoteIf false ++ (text ++ quoteIf after))) =
          first :: (rest ++ quoteIf after) := by
        have hempty : (skipBlanks text).isEmpty = false := by simpa using hkept
        have happend : skipBlanks (text ++ quoteIf after) = skipBlanks text ++ quoteIf after := by
          rw [skipBlanks, List.dropWhile_append, ← skipBlanks, hempty]
          rfl
        rw [skipBlanks_append gap.2, ← List.cons_append, ← hfirst, ← happend]
        rfl
      have hkeptQuote : '"' ∉ skipBlanks text := fun hmem =>
        hquote ((skipBlanks_suffix text).subset hmem)
      have hbody :
          (if first = '"' then rest ++ quoteIf after else first :: (rest ++ quoteIf after)) =
            skipBlanks text ++ quoteIf after := by
        rw [if_neg hstart, hfirst, List.cons_append]
      have hread := label?_of_body hskip (by simp [hstart]) hbody hkeptQuote hkept
      rwa [trim_skipBlanks] at hread

/-! ## Written relationship lines -/

/-- A symbol with the cardinality that it stands for. -/
structure Symbol where
  text : List Char
  cardinality : Cardinality
  mem_symbols : (text, cardinality) ∈ Cardinality.symbols

/-- A relationship line in its parts: names in any spelling, symbols, blanks or none between the
parts, and a label that may have a quote on either side. -/
structure LinkLine where
  first : WrittenName
  beforeLink : Text.Blanks
  left : Symbol
  identifying : Bool
  right : Symbol
  afterLink : Text.Blanks
  second : WrittenName
  beforeColon : Text.Blanks
  afterColon : Text.Blanks
  quoteBefore : Bool
  label : List Char
  quoteAfter : Bool
  quote_not_mem : '"' ∉ label
  exists_not_blank : ∃ c ∈ label, Text.isBlank c = false

namespace LinkLine

/-- The line from its start up to the label. -/
def start (line : LinkLine) : List Char :=
  line.first.text ++ (line.beforeLink.1 ++
    (line.left.text ++ connector line.identifying ++ line.right.text ++
      (line.afterLink.1 ++ (line.second.text ++ (line.beforeColon.1 ++ ':' ::
        (line.afterColon.1 ++ quoteIf line.quoteBefore))))))

def text (line : LinkLine) : List Char := line.start ++ (line.label ++ quoteIf line.quoteAfter)

/-- The relationship that a line is written for. -/
def relationship (line : LinkLine) : Relationship where
  first := String.ofList line.first.name
  second := String.ofList line.second.name
  firstCardinality := line.left.cardinality
  secondCardinality := line.right.cardinality
  identifying := line.identifying
  label := String.ofList (Text.trim line.label)

/-- A relationship line is read as it was written, in whatever spelling. -/
theorem relationship?_text (line : LinkLine) :
    relationship? line.text = some line.relationship := by
  have hfirst := firstEnd?_written line.first line.beforeLink line.left.mem_symbols
    line.right.mem_symbols line.identifying
  have hsecond : ∀ rest, name? (line.second.text ++ (line.beforeColon.1 ++ ':' :: rest)) =
      some (line.second.name, line.beforeColon.1 ++ ':' :: rest) := by
    intro rest
    exact line.second.name?_text fun _ _ _ => head?_blanks_append line.beforeColon (by decide) rest
  have hcolon : ∀ rest, skipBlanks (line.beforeColon.1 ++ ':' :: rest) = ':' :: rest := by
    intro rest
    rw [skipBlanks_append line.beforeColon.2, skipBlanks_cons (by decide)]
  have hlabel := label?_written line.afterColon line.quoteBefore line.quoteAfter
    line.quote_not_mem line.exists_not_blank
  simp only [text, start, List.append_assoc, List.cons_append] at hfirst ⊢
  simp only [relationship?, WrittenName.skipBlanks_text, hfirst, skipBlanks_append line.afterLink.2,
    hsecond, hcolon, hlabel, Option.map_some, relationship]

/-- Blanks at the end of a line are blanks at the end of its label, and make no difference. -/
theorem exists_trimmed (line : LinkLine) :
    ∃ other : LinkLine, other.text = Text.trim line.text ∧
      other.relationship = line.relationship := by
  obtain ⟨c, hc, hblank⟩ := line.exists_not_blank
  have htrim : Text.trim line.text =
      line.start ++ Text.dropEnd Text.isBlank (line.label ++ quoteIf line.quoteAfter) := by
    have hskip : skipBlanks line.text = line.text := by
      rw [text, start, List.append_assoc, WrittenName.skipBlanks_text]
    rw [← Text.dropEnd_append_of_mem (List.mem_append_left _ hc) hblank]
    exact congrArg (Text.dropEnd Text.isBlank) hskip
  cases hafter : line.quoteAfter with
  | true =>
      have hlast : ∀ d ∈ (line.label ++ quoteIf true).getLast?, Text.isBlank d = false := by
        rw [quoteIf, if_pos rfl, List.getLast?_concat]
        rintro _ ⟨⟩
        decide
      refine ⟨line, ?_, rfl⟩
      rw [htrim, hafter, Text.dropEnd_of_last hlast, text, hafter]
  | false =>
      let other : LinkLine := {
        line with
        label := Text.dropEnd Text.isBlank line.label
        quote_not_mem := fun hmem => line.quote_not_mem (Text.mem_of_mem_dropEnd hmem)
        exists_not_blank := ⟨c, Text.mem_dropEnd_of_mem hc hblank, hblank⟩ }
      refine ⟨other, ?_, ?_⟩
      · rw [htrim]
        simp [text, start, other, hafter, quoteIf]
      · simp [relationship, other, Text.trim_dropEnd]

end LinkLine

/-- The line that declares a relationship with the given symbols for its cardinalities. -/
def relationshipLine (left right : List Char) (relationship : Relationship) : List Char :=
  quoted relationship.first ++ ' ' ::
    (left ++ connector relationship.identifying ++ right ++ ' ' ::
      (quoted relationship.second ++ ' ' :: ':' :: ' ' :: quoted relationship.label))

/-- A line that was written to declare a relationship declares it. -/
theorem relationship?_relationshipLine {left right : List Char} {relationship : Relationship}
    (hleft : (left, relationship.firstCardinality) ∈ Cardinality.symbols)
    (hright : (right, relationship.secondCardinality) ∈ Cardinality.symbols)
    (hfirst : IsName relationship.first.toList) (hsecond : IsName relationship.second.toList)
    (hlabel : IsName relationship.label.toList)
    (htrim : Text.trim relationship.label.toList = relationship.label.toList) :
    relationship? (relationshipLine left right relationship) = some relationship := by
  have hnotBlank : ∃ c ∈ relationship.label.toList, Text.isBlank c = false := by
    obtain ⟨c, more, heq⟩ := List.exists_cons_of_ne_nil hlabel.1
    have hlead := Text.head?_trim_not_blank relationship.label.toList c
    rw [htrim, heq] at hlead
    exact ⟨c, by rw [heq]; exact List.mem_cons_self, hlead rfl⟩
  let space : Text.Blanks := ⟨[' '], List.forall_mem_singleton.mpr (by decide)⟩
  let line : LinkLine := {
    first := .quoted relationship.first.toList hfirst
    beforeLink := space
    left := ⟨left, relationship.firstCardinality, hleft⟩
    identifying := relationship.identifying
    right := ⟨right, relationship.secondCardinality, hright⟩
    afterLink := space
    second := .quoted relationship.second.toList hsecond
    beforeColon := space
    afterColon := space
    quoteBefore := true
    label := relationship.label.toList
    quoteAfter := true
    quote_not_mem := hlabel.2
    exists_not_blank := hnotBlank }
  have htext : relationshipLine left right relationship = line.text := by
    simp [relationshipLine, line, space, LinkLine.text, LinkLine.start, WrittenName.text, quoted,
      quoteIf]
  have hread := line.relationship?_text
  simpa [htext, line, LinkLine.relationship, WrittenName.name, htrim] using hread

/-! ## The parts of a relationship line -/

/-- The first end was read from a name and the link after it, or from a name whose last letter went
to the link. -/
theorem exists_parts_of_firstEnd? {cs first rest : List Char} {link : Link}
    (h : firstEnd? cs = some (first, link, rest)) :
    ∃ name more, name? cs = some (name, more) ∧
      (first = name ∧ link? (skipBlanks more) = some (link, rest) ∨
        giveBack? name = some first ∧ link? ('o' :: more) = some (link, rest)) := by
  unfold firstEnd? at h
  cases hname : name? cs with
  | none => simp [hname] at h
  | some pair =>
      obtain ⟨name, more⟩ := pair
      simp only [hname] at h
      refine ⟨name, more, rfl, ?_⟩
      split at h
      · next hlink =>
          cases h
          exact .inl ⟨rfl, hlink⟩
      · split at h
        · cases hback : giveBack? name with
          | none => simp [hback] at h
          | some shorter =>
              simp only [hback, Option.map_eq_some_iff, Prod.mk.injEq] at h
              obtain ⟨⟨found, left⟩, hlink, rfl, rfl, rfl⟩ := h
              exact .inr ⟨rfl, hlink⟩
        · contradiction

/-- The parts that a relationship line was read from. -/
theorem exists_parts_of_relationship? {cs : List Char} {relationship : Relationship}
    (h : relationship? cs = some relationship) :
    ∃ first link rest second more after label,
      firstEnd? (skipBlanks cs) = some (first, link, rest) ∧
        name? (skipBlanks rest) = some (second, more) ∧ skipBlanks more = ':' :: after ∧
        label? after = some label ∧
        relationship = {
          first := String.ofList first
          second := String.ofList second
          firstCardinality := link.firstCardinality
          secondCardinality := link.secondCardinality
          identifying := link.identifying
          label := String.ofList label } := by
  unfold relationship? at h
  cases hfirst : firstEnd? (skipBlanks cs) with
  | none => simp [hfirst] at h
  | some parts =>
      obtain ⟨first, link, rest⟩ := parts
      cases hsecond : name? (skipBlanks rest) with
      | none => simp [hfirst, hsecond] at h
      | some pair =>
          obtain ⟨second, more⟩ := pair
          simp only [hfirst, hsecond] at h
          split at h
          · next after hcolon =>
              obtain ⟨label, hlabel, heq⟩ := Option.map_eq_some_iff.mp h
              exact ⟨first, link, rest, second, more, after, label, rfl, hsecond, hcolon, hlabel,
                heq.symm⟩
          · contradiction

end EntityDiagram.Line
