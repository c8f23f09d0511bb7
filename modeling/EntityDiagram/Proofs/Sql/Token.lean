import EntityDiagram.Proofs.Text.Span
import EntityDiagram.Sql.Token

/-! # Cutting SQL text at its quotes

Names are put between quotes as they are. As long as no token holds a quote of its own, cutting the
text of the tokens at the quotes gives the names back at the odd positions, and everything else at
the even ones. `IsFramed` says so of a whole statement, with its end.
-/

namespace EntityDiagram.Sql

/-! ## Tokens -/

/-- What a token writes, without the quotes around a name. -/
def Token.content : Token → List Char
  | .plain text => text.toList
  | .name text => text.toList
  | .slot number => '$' :: (toString number).toList

/-- The part of a token's text that is outside quotes. -/
def Token.outside : Token → List Char
  | .name _ => []
  | token => token.content

def Token.name? : Token → Option String
  | .name text => some text
  | _ => none

/-- The names among tokens, in order. -/
def names (tokens : List Token) : List String := tokens.filterMap Token.name?

@[simp] theorem names_nil : names [] = [] := rfl

@[simp] theorem names_plain (text : String) (tokens : List Token) :
    names (.plain text :: tokens) = names tokens := rfl

@[simp] theorem names_name (text : String) (tokens : List Token) :
    names (.name text :: tokens) = text :: names tokens := rfl

@[simp] theorem names_append (tokens more : List Token) :
    names (tokens ++ more) = names tokens ++ names more :=
  List.filterMap_append

theorem filterMap_separatedBy {α : Type} {f : Token → Option α} {separator : String}
    (h : f (.plain separator) = none) (parts : List (List Token)) :
    (separatedBy separator parts).filterMap f = parts.flatMap (·.filterMap f) := by
  unfold separatedBy
  induction parts with
  | nil => rfl
  | cons part parts ih =>
      cases parts with
      | nil => simp
      | cons next parts =>
          rw [List.intercalate_cons_cons, List.filterMap_append, List.filterMap_append, ih,
            List.flatMap_cons]
          simp [h]

theorem forall_mem_separatedBy {P : Token → Prop} {separator : String}
    {parts : List (List Token)} (hseparator : P (.plain separator))
    (h : ∀ part ∈ parts, ∀ token ∈ part, P token) :
    ∀ token ∈ separatedBy separator parts, P token := by
  unfold separatedBy
  induction parts with
  | nil => simp
  | cons part parts ih =>
      obtain ⟨hpart, hparts⟩ := List.forall_mem_cons.mp h
      cases parts with
      | nil => simpa using hpart
      | cons next parts =>
          rw [List.intercalate_cons_cons, List.forall_mem_append, List.forall_mem_append]
          exact ⟨⟨hpart, by simpa using hseparator⟩, ih hparts⟩

theorem names_separatedBy (separator : String) (parts : List (List Token)) :
    names (separatedBy separator parts) = parts.flatMap names :=
  filterMap_separatedBy rfl parts

theorem toList_render_cons (token : Token) (tokens : List Token) :
    (render (token :: tokens)).toList = token.render.toList ++ (render tokens).toList := by
  simp [render, String.toList_join]

/-! ## Pieces between quotes -/

/-- The pieces at odd positions, counted from zero. -/
def insidePieces : List (List Char) → List (List Char)
  | _ :: inside :: rest => inside :: insidePieces rest
  | _ => []

/-- The pieces at even positions, counted from zero. -/
def outsidePieces : List (List Char) → List (List Char)
  | outside :: _ :: rest => outside :: outsidePieces rest
  | pieces => pieces

/-- What cutting a text at its quotes gives: an odd number of pieces, `inside` at the odd positions,
and pieces at the even positions that make up `outside`. -/
structure IsCut (cs : List Char) (inside : List (List Char)) (outside : List Char) : Prop where
  odd : (cs.splitOn '"').length % 2 = 1
  inside : insidePieces (cs.splitOn '"') = inside
  outside : (outsidePieces (cs.splitOn '"')).flatten = outside

theorem splitOn_append_of_not_mem {mark : Char} {cs : List Char} (h : mark ∉ cs)
    (rest : List Char) :
    (cs ++ rest).splitOn mark = (rest.splitOn mark).modifyHead (cs ++ ·) := by
  induction cs with
  | nil =>
      rw [List.nil_append]
      cases rest.splitOn mark <;> rfl
  | cons c cs ih =>
      obtain ⟨hc, hcs⟩ := not_or.mp (fun hmem => h (List.mem_cons.mpr hmem))
      rw [List.cons_append, Text.splitOn_cons_of_ne (Ne.symm hc), ih hcs,
        List.modifyHead_modifyHead]
      rfl

theorem IsCut.nil : IsCut [] [] [] := ⟨rfl, rfl, rfl⟩

theorem IsCut.append {cs rest outside : List Char} {inside : List (List Char)} (h : '"' ∉ cs)
    (hrest : IsCut rest inside outside) : IsCut (cs ++ rest) inside (cs ++ outside) := by
  obtain ⟨hodd, hinside, houtside⟩ := hrest
  have hcut := splitOn_append_of_not_mem h rest
  cases hpieces : rest.splitOn '"' with
  | nil => exact absurd hpieces (List.splitOn_ne_nil '"' rest)
  | cons piece pieces =>
      rw [hpieces] at hodd hinside houtside hcut
      rw [List.modifyHead_cons] at hcut
      cases pieces with
      | nil => constructor <;> rw [hcut] <;> simp_all [insidePieces, outsidePieces]
      | cons next pieces => constructor <;> rw [hcut] <;> simp_all [insidePieces, outsidePieces]

theorem IsCut.name {name rest outside : List Char} {inside : List (List Char)} (h : '"' ∉ name)
    (hrest : IsCut rest inside outside) :
    IsCut ('"' :: name ++ '"' :: rest) (name :: inside) outside := by
  have hcut : ('"' :: name ++ '"' :: rest).splitOn '"' = [] :: name :: rest.splitOn '"' := by
    have hfirst : ('"' :: name ++ '"' :: rest).splitOn '"' =
        [] :: (name ++ '"' :: rest).splitOn '"' :=
      @List.splitOn_append_cons_self_of_not_mem _ [] _ _ '"' List.not_mem_nil _
    rw [hfirst, List.splitOn_append_cons_self_of_not_mem h]
  obtain ⟨hodd, hinside, houtside⟩ := hrest
  constructor
  · rw [hcut]
    simp only [List.length_cons]
    omega
  · rw [hcut, insidePieces, hinside]
  · rw [hcut, outsidePieces, List.flatten_cons, houtside, List.nil_append]

theorem isCut_render {tokens : List Token} (h : ∀ token ∈ tokens, '"' ∉ token.content) :
    IsCut (render tokens).toList ((names tokens).map (·.toList))
      (tokens.flatMap Token.outside) := by
  induction tokens with
  | nil => exact .nil
  | cons token tokens ih =>
      obtain ⟨htoken, htokens⟩ := List.forall_mem_cons.mp h
      have hrest := ih htokens
      rw [toList_render_cons]
      -- A name adds an empty piece and itself; any other token goes in front of the first piece.
      cases token with
      | plain text => exact hrest.append htoken
      | slot number =>
          have hrender : (Token.slot number).render.toList = (Token.slot number).content := by
            simp [Token.render, Token.content]
          rw [hrender]
          exact hrest.append htoken
      | name text =>
          have hrender : (Token.name text).render.toList = '"' :: text.toList ++ ['"'] := by
            simp [Token.render]
          rw [hrender, List.append_assoc]
          exact hrest.name htoken

/-! ## Framed statements -/

/-- Text that can end neither a name nor a statement. -/
def IsInert (cs : List Char) : Prop := '"' ∉ cs ∧ ';' ∉ cs

instance (cs : List Char) : Decidable (IsInert cs) := inferInstanceAs (Decidable (_ ∧ _))

theorem IsInert.of_subset {cs more : List Char} (h : IsInert more) (hsub : ∀ c ∈ cs, c ∈ more) :
    IsInert cs :=
  ⟨fun hmem => h.1 (hsub _ hmem), fun hmem => h.2 (hsub _ hmem)⟩

theorem IsInert.append {cs more : List Char} (h : IsInert cs) (hmore : IsInert more) :
    IsInert (cs ++ more) := by
  constructor
  · exact List.not_mem_append h.1 hmore.1
  · exact List.not_mem_append h.2 hmore.2

def Token.IsInert (token : Token) : Prop := '"' ∉ token.content ∧ ';' ∉ token.outside

/-- Tokens that hold no quotes of their own, and semicolons only in names. -/
def AreInert (tokens : List Token) : Prop := ∀ token ∈ tokens, token.IsInert

@[simp] theorem areInert_nil : AreInert [] := fun _ hmem => absurd hmem List.not_mem_nil

@[simp] theorem areInert_plain {text : String} {tokens : List Token} :
    AreInert (.plain text :: tokens) ↔ IsInert text.toList ∧ AreInert tokens :=
  List.forall_mem_cons

@[simp] theorem areInert_name {text : String} {tokens : List Token} :
    AreInert (.name text :: tokens) ↔ '"' ∉ text.toList ∧ AreInert tokens := by
  refine List.forall_mem_cons.trans (and_congr_left fun _ => ?_)
  simp [Token.IsInert, Token.content, Token.outside]

@[simp] theorem areInert_append {tokens more : List Token} :
    AreInert (tokens ++ more) ↔ AreInert tokens ∧ AreInert more :=
  List.forall_mem_append

theorem areInert_separatedBy {separator : String} {parts : List (List Token)}
    (hseparator : IsInert separator.toList) (h : ∀ part ∈ parts, AreInert part) :
    AreInert (separatedBy separator parts) :=
  forall_mem_separatedBy hseparator h

/-- Cut at its quotes, a statement has exactly the identifiers at the odd positions, none of them
empty, and at the even positions one semicolon, which ends the statement. -/
structure IsFramed (statement : String) (identifiers : List String) : Prop where
  odd : (statement.toList.splitOn '"').length % 2 = 1
  inside : insidePieces (statement.toList.splitOn '"') = identifiers.map (·.toList)
  nonempty : ∀ identifier ∈ identifiers, identifier ≠ ""
  semicolon : ((outsidePieces (statement.toList.splitOn '"')).flatten).count ';' = 1
  ending : statement.toList.getLast? = some ';'

theorem getLast?_render_append {tokens : List Token} {ending : String} {c : Char}
    (h : ending.toList.getLast? = some c) :
    (render (tokens ++ [.plain ending])).toList.getLast? = some c := by
  have hrender : (render (tokens ++ [.plain ending])).toList =
      (render tokens).toList ++ ending.toList := by
    simp [render, String.toList_join, Token.render]
  rw [hrender, List.getLast?_append, h]
  rfl

theorem isFramed_render {tokens : List Token} {identifiers : List String} {ending : String}
    (htokens : AreInert tokens) (hnames : names tokens = identifiers)
    (hnonempty : ∀ identifier ∈ identifiers, identifier ≠ "") (hquote : '"' ∉ ending.toList)
    (hcount : ending.toList.count ';' = 1) (hlast : ending.toList.getLast? = some ';') :
    IsFramed (render (tokens ++ [.plain ending])) identifiers := by
  have hclosed : ∀ token ∈ tokens ++ [.plain ending], '"' ∉ token.content := by
    intro token hmem
    rcases List.mem_append.mp hmem with hmem | hmem
    · exact (htokens token hmem).1
    · rw [List.mem_singleton.mp hmem]
      exact hquote
  have hinert : ';' ∉ tokens.flatMap Token.outside := by
    intro hmem
    obtain ⟨token, htoken, hmem⟩ := List.mem_flatMap.mp hmem
    exact (htokens token htoken).2 hmem
  have hcut := isCut_render hclosed
  rw [names_append, names_plain, names_nil, List.append_nil, hnames] at hcut
  refine ⟨hcut.odd, hcut.inside, hnonempty, ?_, getLast?_render_append hlast⟩
  rw [hcut.outside, List.flatMap_append, List.count_append, List.count_eq_zero.mpr hinert]
  simpa [Token.outside, Token.content] using hcount

end EntityDiagram.Sql
