import EntityDiagram.Proofs.Line.Form

/-! # No line has two forms

Outside blocks a line is tried for one form after another. How a line starts and what follows its
first name tell the forms apart, so that only a header passes the trial of another form, that of a
mention. The order of the trials after that for a header is no part of what a diagram means.
-/

namespace EntityDiagram.Line

/-! ## Characters that some forms need and others cannot have -/

theorem isHeader_of_mem {cs : List Char} {c : Char} (hc : c ∈ cs) (hblank : Text.isBlank c = false)
    (hletter : headerWord.any (sameLetter · c) = false) : isHeader cs = false := by
  cases h : isHeader cs with
  | false => rfl
  | true => exact absurd (Text.mem_trim_of_mem hc hblank) (not_mem_of_sameWord h hletter)

theorem brace_mem_of_opening? {cs : List Char} {heading : Heading}
    (h : opening? cs = some heading) : '{' ∈ cs := by
  obtain ⟨rest, hread⟩ := exists_heading?_of_opening? h
  exact (suffix_of_heading? hread).subset List.mem_cons_self

theorem suffix_of_link? {cs rest : List Char} {link : Link} (h : link? cs = some (link, rest)) :
    rest <:+ cs := by
  obtain ⟨left, right, -, -, rfl⟩ := exists_symbols_of_link? h
  exact List.suffix_append _ rest

theorem suffix_of_firstEnd? {cs first rest : List Char} {link : Link}
    (h : firstEnd? cs = some (first, link, rest)) : ∃ more, rest <:+ 'o' :: more ∧ more <:+ cs := by
  obtain ⟨name, more, hname, ⟨-, hlink⟩ | ⟨-, hlink⟩⟩ := exists_parts_of_firstEnd? h
  · have hrest := (suffix_of_link? hlink).trans (skipBlanks_suffix more)
    exact ⟨more, hrest.trans (List.suffix_cons 'o' more), suffix_of_name? hname⟩
  · exact ⟨more, suffix_of_link? hlink, suffix_of_name? hname⟩

theorem colon_mem_of_relationship? {cs : List Char} {relationship : Relationship}
    (h : relationship? cs = some relationship) : ':' ∈ cs := by
  obtain ⟨first, link, rest, second, more, after, label, hfirst, hsecond, hcolon, -, -⟩ :=
    exists_parts_of_relationship? h
  have hmore : ':' ∈ more := (skipBlanks_suffix more).subset (hcolon ▸ List.mem_cons_self)
  have hrest : ':' ∈ rest :=
    (skipBlanks_suffix rest).subset ((suffix_of_name? hsecond).subset hmore)
  obtain ⟨left, hleft, hcs⟩ := suffix_of_firstEnd? hfirst
  -- The letter that may go to the link is no colon.
  have hmem : ':' ∈ left := by simpa using hleft.subset hrest
  exact (skipBlanks_suffix cs).subset (hcs.subset hmem)

theorem exists_blank_of_isDirection {cs : List Char} (h : isDirection cs = true) :
    ∃ c ∈ Text.trim cs, Text.isBlank c = true := by
  simp only [isDirection, Bool.and_eq_true] at h
  cases hhead : ((Text.trim cs).drop directionWord.length).head? with
  | none => simp [hhead] at h
  | some c =>
      exact ⟨c, List.mem_of_mem_drop (List.mem_of_head? hhead), by simpa [hhead] using h.1.2⟩

/-- A direction has a blank after its first word, where a mention has a bracket or its end. -/
theorem isDirection_of_mention? {cs : List Char} {heading : Heading}
    (h : mention? cs = some heading) : isDirection cs = false := by
  cases hdirection : isDirection cs with
  | false => rfl
  | true =>
      have habsent : ∀ c, Text.isBlank c = false → directionLetters.any (sameLetter · c) = false →
          c ∉ cs := by
        intro c hblank hletter hmem
        rw [isDirection_of_mem (Text.mem_trim_of_mem hmem hblank) hblank hletter] at hdirection
        contradiction
      obtain ⟨name, more, shown, after, hname, hshown, -, hafter⟩ :=
        exists_parts_of_heading? (heading?_of_mention? h)
      have hskip := (skipBlanks_suffix cs).subset
      rcases displayName?_cases hshown with rfl | ⟨hhead, -⟩
      · rw [skipBlanks_skipBlanks] at hafter
        have hmore : ∀ c ∈ more, Text.isBlank c = true := List.dropWhile_eq_nil_iff.mp hafter.symm
        have hquote : '"' ∉ skipBlanks cs := fun hmem =>
          habsent '"' (by decide) (by decide) (hskip hmem)
        obtain ⟨hbare, hcs, -⟩ := bareName?_eq_some_iff.mp (bareName?_of_name? hname hquote)
        have hlast : ∀ c ∈ name.getLast?, Text.isBlank c = false := fun c hc =>
          isBlank_of_isNameChar (hbare.forall_isNameChar c (List.mem_of_mem_getLast? hc))
        have htrim : Text.trim cs = name := by
          calc
            Text.trim cs = Text.dropEnd Text.isBlank (skipBlanks cs) := rfl
            _ = Text.dropEnd Text.isBlank (name ++ more) := by rw [hcs]
            _ = name := by rw [Text.dropEnd_append_of_all hmore, Text.dropEnd_of_last hlast]
        obtain ⟨c, hc, hblank⟩ := exists_blank_of_isDirection hdirection
        rw [htrim] at hc
        rw [isBlank_of_isNameChar (hbare.forall_isNameChar c hc)] at hblank
        contradiction
      · have hmem := (suffix_of_name? hname).subset
          ((skipBlanks_suffix more).subset (List.mem_of_head? hhead))
        exact absurd (hskip hmem) (habsent '[' (by decide) (by decide))

/-! ## What follows the first name -/

theorem not_heading_of_marks {cs name more tail : List Char} {a b : Char}
    (hname : name? (skipBlanks cs) = some (name, more)) (hmore : skipBlanks more = a :: b :: tail)
    (ha : a ≠ '[') (hb : Text.isBlank b = false) : opening? cs = none ∧ mention? cs = none := by
  have hshown := displayName?_of_ne ha (b :: tail)
  have hskip : skipBlanks (a :: b :: tail) = a :: b :: tail := by
    rw [← hmore, skipBlanks_skipBlanks]
  have hheading : heading? cs = some (⟨String.ofList name, none⟩, a :: b :: tail) := by
    simp only [heading?, hname, hmore, hshown, hskip]
  constructor
  · unfold opening?
    rw [hheading]
    split
    · next heq =>
        cases heq
        simp [hb]
    · rfl
  · unfold mention?
    rw [hheading]

/-- The braces among the symbols are never taken for the opening of a block, and no name that a
symbol follows is taken for a mention. -/
theorem not_heading_of_relationship? {cs : List Char} {relationship : Relationship}
    (h : relationship? cs = some relationship) : opening? cs = none ∧ mention? cs = none := by
  obtain ⟨first, link, rest, -, -, -, -, hfirst, -⟩ := exists_parts_of_relationship? h
  obtain ⟨name, more, hname, ⟨-, hlink⟩ | ⟨-, hlink⟩⟩ := exists_parts_of_firstEnd? hfirst
  · obtain ⟨left, right, hleft, -, hmore⟩ := exists_symbols_of_link? hlink
    obtain ⟨a, b, rfl, ⟨-, hb⟩, ⟨ha, -⟩, -⟩ := exists_marks_of_symbol hleft
    exact not_heading_of_marks hname hmore ha hb
  · -- The name has given the first mark of the symbol, so the second follows it.
    obtain ⟨left, right, hleft, -, hmore⟩ := exists_symbols_of_link? hlink
    obtain ⟨a, b, rfl, ⟨-, hb⟩, ⟨-, hbracket⟩, -⟩ := exists_marks_of_symbol hleft
    obtain ⟨mark, hconnector, hmark⟩ := exists_mark_of_connector link.identifying
    rw [hconnector] at hmore
    obtain ⟨-, rfl⟩ := List.cons.inj hmore
    exact not_heading_of_marks hname (skipBlanks_cons hb _) hbracket hmark

/-! ## The form of a line that passes a trial -/

theorem lead_of_isClosing {cs : List Char} (h : isClosing cs = true) :
    (skipBlanks cs).head? = some '}' := by
  rw [← head?_trim_eq, beq_iff_eq.mp h, List.head?_cons]

theorem isOrdinary_of_name? {cs name rest : List Char}
    (h : name? (skipBlanks cs) = some (name, rest)) (hheader : isHeader cs = false)
    (hdirection : isDirection cs = false) : IsOrdinary cs := by
  obtain ⟨c, hlead, hc⟩ := head?_of_name? h
  have hne : c ≠ '%' ∧ c ≠ '}' := by
    rcases hc with rfl | rfl | hstart
    · decide
    · decide
    · constructor <;> (rintro rfl; contradiction)
  have hclosing : isClosing cs = false := by
    cases hclosing : isClosing cs with
    | false => rfl
    | true =>
        rw [lead_of_isClosing hclosing, Option.some.injEq] at hlead
        exact absurd hlead.symm hne.2
  exact ⟨not_empty_of_lead hlead hne.1, hheader, hdirection, hclosing⟩

theorem classify_of_isRemark {cs : List Char} (h : isRemark cs = true) :
    classify cs = .empty := by
  rw [classify, if_pos (by rw [h, Bool.or_true])]

theorem classify_of_isClosing {cs : List Char} (h : isClosing cs = true) :
    classify cs = .closing := by
  have hlead := lead_of_isClosing h
  have hmem : '}' ∈ cs := (skipBlanks_suffix cs).subset (List.mem_of_head? hlead)
  have hblank : Text.isBlank '}' = false := by decide
  have hdirection := isDirection_of_mem (Text.mem_trim_of_mem hmem hblank) hblank (by decide)
  unfold classify
  rw [not_empty_of_lead hlead (by decide), isHeader_of_mem hmem hblank (by decide), hdirection, h]
  rfl

theorem classify_of_opening? {cs : List Char} {heading : Heading}
    (h : opening? cs = some heading) : classify cs = .opening heading := by
  have hmem := brace_mem_of_opening? h
  have hblank : Text.isBlank '{' = false := by decide
  obtain ⟨rest, hread⟩ := exists_heading?_of_opening? h
  obtain ⟨name, more, -, -, hname, -⟩ := exists_parts_of_heading? hread
  have hordinary := isOrdinary_of_name? hname (isHeader_of_mem hmem hblank (by decide))
    (isDirection_of_mem (Text.mem_trim_of_mem hmem hblank) hblank (by decide))
  rw [classify_of_isOrdinary hordinary, h]

theorem classify_of_relationship? {cs : List Char} {relationship : Relationship}
    (h : relationship? cs = some relationship) : classify cs = .relationship relationship := by
  have hmem := colon_mem_of_relationship? h
  have hblank : Text.isBlank ':' = false := by decide
  obtain ⟨first, link, rest, -, -, -, -, hfirst, -⟩ := exists_parts_of_relationship? h
  obtain ⟨name, more, hname, -⟩ := exists_parts_of_firstEnd? hfirst
  have hordinary := isOrdinary_of_name? hname (isHeader_of_mem hmem hblank (by decide))
    (isDirection_of_mem (Text.mem_trim_of_mem hmem hblank) hblank (by decide))
  rw [classify_of_isOrdinary hordinary, (not_heading_of_relationship? h).1, h]

theorem classify_of_mention? {cs : List Char} {heading : Heading}
    (h : mention? cs = some heading) (hheader : isHeader cs = false) :
    classify cs = .mention heading := by
  have hread := heading?_of_mention? h
  obtain ⟨name, more, -, -, hname, -⟩ := exists_parts_of_heading? hread
  have hordinary := isOrdinary_of_name? hname hheader (isDirection_of_mention? h)
  have hopening : opening? cs = none := by rw [opening?, hread]
  have hlink : relationship? cs = none := by
    cases hlink : relationship? cs with
    | none => rfl
    | some relationship =>
        rw [(not_heading_of_relationship? hlink).2] at h
        contradiction
  rw [classify_of_isOrdinary hordinary, hopening, hlink, h]

/-! ## Lines that are written for a schema -/

theorem classify_openingLine {name : String} {displayName : Option String}
    (hname : IsName name.toList) (hshown : ∀ shown ∈ displayName, ']' ∉ shown.toList) :
    classify (openingLine name displayName) = .opening ⟨name, displayName⟩ :=
  classify_of_opening? (opening?_openingLine hname hshown)

theorem classify_relationshipLine {left right : List Char} {relationship : Relationship}
    (hleft : (left, relationship.firstCardinality) ∈ Cardinality.symbols)
    (hright : (right, relationship.secondCardinality) ∈ Cardinality.symbols)
    (hfirst : IsName relationship.first.toList) (hsecond : IsName relationship.second.toList)
    (hlabel : IsName relationship.label.toList)
    (htrim : Text.trim relationship.label.toList = relationship.label.toList) :
    classify (relationshipLine left right relationship) = .relationship relationship :=
  classify_of_relationship?
    (relationship?_relationshipLine hleft hright hfirst hsecond hlabel htrim)

/-! ## Trials -/

/-- What a line is tried for outside blocks, apart from a header. -/
inductive Trial where
  | remark
  | direction
  | closing
  | opening
  | relationship
  | mention
  deriving Repr, DecidableEq

/-- The form of a line that passes a trial. -/
def Trial.form? : Trial → List Char → Option Form
  | remark, cs => if isRemark cs then some .empty else none
  | direction, cs => if isDirection cs then some .direction else none
  | closing, cs => if isClosing cs then some .closing else none
  | opening, cs => (opening? cs).map .opening
  | relationship, cs => (relationship? cs).map .relationship
  | mention, cs => (mention? cs).map .mention

/-- The trial that gives a form. -/
def Form.trial? : Form → Option Trial
  | empty => some .remark
  | direction => some .direction
  | closing => some .closing
  | opening _ => some .opening
  | relationship _ => some .relationship
  | mention _ => some .mention
  | header | unknown => none

theorem trial?_of_form? {trial : Trial} {cs : List Char} {form : Form}
    (h : trial.form? cs = some form) : form.trial? = some trial := by
  cases trial with
  | remark | direction | closing =>
      obtain ⟨-, ⟨⟩⟩ := Option.ite_none_right_eq_some.mp h
      rfl
  | opening | relationship | mention =>
      obtain ⟨found, -, rfl⟩ := Option.map_eq_some_iff.mp h
      rfl

/-- A line that passes a trial has the form that the trial gives, whatever other trials come
before. Of all trials only that for a mention takes headers. -/
theorem classify_of_form? {trial : Trial} {cs : List Char} {form : Form}
    (h : trial.form? cs = some form) (hheader : trial = .mention → isHeader cs = false) :
    classify cs = form := by
  cases trial with
  | remark =>
      obtain ⟨hremark, ⟨⟩⟩ := Option.ite_none_right_eq_some.mp h
      exact classify_of_isRemark hremark
  | direction =>
      obtain ⟨hdirection, ⟨⟩⟩ := Option.ite_none_right_eq_some.mp h
      exact classify_of_isDirection hdirection
  | closing =>
      obtain ⟨hclosing, ⟨⟩⟩ := Option.ite_none_right_eq_some.mp h
      exact classify_of_isClosing hclosing
  | opening =>
      obtain ⟨heading, hopening, rfl⟩ := Option.map_eq_some_iff.mp h
      exact classify_of_opening? hopening
  | relationship =>
      obtain ⟨linked, hlinked, rfl⟩ := Option.map_eq_some_iff.mp h
      exact classify_of_relationship? hlinked
  | mention =>
      obtain ⟨heading, hmention, rfl⟩ := Option.map_eq_some_iff.mp h
      exact classify_of_mention? hmention (hheader rfl)

theorem eq_mention_of_isHeader {trial : Trial} {cs : List Char} {form : Form}
    (hheader : isHeader cs = true) (h : trial.form? cs = some form) : trial = .mention := by
  by_contra hne
  have hform := classify_of_form? h (fun heq => absurd heq hne)
  rw [classify_eq_header_iff.mpr hheader] at hform
  have htrial := trial?_of_form? h
  rw [← hform] at htrial
  contradiction

theorem eq_of_form? {first second : Trial} {cs : List Char} {form other : Form}
    (hfirst : first.form? cs = some form) (hsecond : second.form? cs = some other) :
    first = second := by
  cases hheader : isHeader cs with
  | true => rw [eq_mention_of_isHeader hheader hfirst, eq_mention_of_isHeader hheader hsecond]
  | false =>
      have hform := classify_of_form? hfirst fun _ => hheader
      have hother := classify_of_form? hsecond fun _ => hheader
      have htrial := trial?_of_form? hfirst
      rw [← hform, hother, trial?_of_form? hsecond, Option.some.injEq] at htrial
      exact htrial.symm

theorem classify_of_form?_eq_none {cs : List Char} (hblank : cs.all Text.isBlank = false)
    (hheader : isHeader cs = false) (h : ∀ trial : Trial, trial.form? cs = none) :
    classify cs = .unknown := by
  have hremark : isRemark cs = false := by simpa [Trial.form?] using h .remark
  have hdirection : isDirection cs = false := by simpa [Trial.form?] using h .direction
  have hclosing : isClosing cs = false := by simpa [Trial.form?] using h .closing
  have hopening : opening? cs = none := Option.map_eq_none_iff.mp (h .opening)
  have hlinked : relationship? cs = none := Option.map_eq_none_iff.mp (h .relationship)
  have hmention : mention? cs = none := Option.map_eq_none_iff.mp (h .mention)
  have hordinary : IsOrdinary cs := ⟨by rw [hblank, hremark]; rfl, hheader, hdirection, hclosing⟩
  rw [classify_of_isOrdinary hordinary, hopening, hlinked, hmention]

/-- No line passes two trials, and a header passes none but that for a mention. So a line outside
blocks that is neither blank nor a header has the form that the trials give in any order. -/
theorem trials_exclude_each_other (cs : List Char) :
    (∀ first second : Trial, (first.form? cs).isSome = true → (second.form? cs).isSome = true →
      first = second) ∧
    (isHeader cs = true → ∀ trial : Trial, (trial.form? cs).isSome = true → trial = .mention) ∧
    (cs.all Text.isBlank = false → isHeader cs = false → ∀ trials : List Trial,
      (∀ trial, trial ∈ trials) →
        classify cs = (trials.findSome? fun trial => trial.form? cs).getD .unknown) := by
  refine ⟨?_, ?_, ?_⟩
  · intro first second hfirst hsecond
    obtain ⟨form, hform⟩ := Option.isSome_iff_exists.mp hfirst
    obtain ⟨other, hother⟩ := Option.isSome_iff_exists.mp hsecond
    exact eq_of_form? hform hother
  · intro hheader trial htrial
    obtain ⟨form, hform⟩ := Option.isSome_iff_exists.mp htrial
    exact eq_mention_of_isHeader hheader hform
  · intro hblank hheader trials hall
    cases hfound : trials.findSome? fun trial => trial.form? cs with
    | some form =>
        obtain ⟨trial, -, hform⟩ := List.exists_of_findSome?_eq_some hfound
        exact classify_of_form? hform fun _ => hheader
    | none =>
        rw [List.findSome?_eq_none_iff] at hfound
        exact classify_of_form?_eq_none hblank hheader fun trial => hfound trial (hall trial)

theorem trials_exclude_each_other_of_braces :
    let cs := " too o\x7b--|\x7b \"A [x] \x7b\": \x7b".toList
    let trials := [Trial.mention, .relationship, .opening, .closing, .direction, .remark]
    (Trial.relationship.form? cs).isSome = true ∧
      (∀ trial : Trial, (trial.form? cs).isSome = true → trial = .relationship) ∧
      isHeader "ERdiagram".toList = true ∧
      (∀ trial : Trial, (trial.form? "ERdiagram".toList).isSome = true → trial = .mention) ∧
      (cs.all Text.isBlank = false ∧ isHeader cs = false ∧ ∀ trial, trial ∈ trials) ∧
      classify cs = (trials.findSome? fun trial => trial.form? cs).getD .unknown := by
  intro cs trials
  have hlinked : (Trial.relationship.form? cs).isSome = true := by decide +kernel
  have hheader : isHeader "ERdiagram".toList = true := by decide
  have hall : ∀ trial, trial ∈ trials := by
    intro trial
    cases trial <;> decide
  obtain ⟨hone, -, horder⟩ := trials_exclude_each_other cs
  refine ⟨hlinked, fun trial h => hone trial .relationship h hlinked, hheader,
    (trials_exclude_each_other "ERdiagram".toList).2.1 hheader, ⟨by decide, by decide, hall⟩, ?_⟩
  exact horder (by decide) (by decide) trials hall

end EntityDiagram.Line
