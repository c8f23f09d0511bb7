import EntityDiagram.Proofs.Lists
import EntityDiagram.Proofs.Sql.Lexeme
import EntityDiagram.Proofs.Sql.Quoting
import EntityDiagram.Sql.Query

/-! # Placeholders and their parameters

The placeholders in the text of a query are numbered one by one, and there are as many as it has
parameters. Read back from its text and parameters alone, a query that adds or changes a row gives
each column the value that the row has for it.
-/

namespace EntityDiagram.Sql

/-! ## Reading a query back -/

/-- The lexemes before `stop`, and those after it. -/
def upTo (stop : Lexeme) (ls : List Lexeme) : List Lexeme × List Lexeme :=
  (ls.takeWhile (· != stop), (ls.dropWhile (· != stop)).drop 1)

/-- The items of a list with commas between them. -/
def listed? {α : Type} (read? : List Lexeme → Option α) (ls : List Lexeme) : Option (List α) :=
  (ls.splitOn (.mark ',')).mapM read?

def columnItem? : List Lexeme → Option String
  | [.name column] => some column
  | _ => none

/-- What a column is set to. -/
inductive Source where
  | param (value : Json)
  | column (name : String)

/-- What a query that changes a row says: the columns that it sets, and the column, the placeholder
and the value that select the row. -/
structure Update where
  table : String
  assignments : List (String × Source)
  key : String
  placeholder : String
  id : Json

namespace Query

/-- The parameter that a placeholder stands for. They are counted from one. -/
def value? (query : Query) (digits : String) : Option Json :=
  match Nat.ofDigitChars 10 digits.toList 0 with
  | 0 => none
  | index + 1 => query.params[index]?

def slotItem? (query : Query) : List Lexeme → Option Json
  | [.slot digits] => query.value? digits
  | _ => none

def assignmentItem? (query : Query) : List Lexeme → Option (String × Source)
  | [.name column, .mark '=', .slot digits] =>
      (query.value? digits).map fun value => (column, .param value)
  | [.name column, .mark '=', .name other] => some (column, .column other)
  | _ => none

/-- The table that lexemes of the query add a row to, and the values of the columns that they
list. -/
def insertIn? (query : Query) : List Lexeme → Option (String × List (String × Json))
  | .word "INSERT" :: .word "INTO" :: .name table :: .mark '(' :: rest => do
      let (columns, rest) := upTo (.mark ')') rest
      let .word "VALUES" :: .mark '(' :: rest := rest | none
      let (slots, rest) := upTo (.mark ')') rest
      let [.word "RETURNING", .mark '*'] := rest | none
      let columns ← listed? columnItem? columns
      let values ← listed? query.slotItem? slots
      if columns.length = values.length then some (table, columns.zip values) else none
  | [.word "INSERT", .word "INTO", .name table, .word "DEFAULT", .word "VALUES",
      .word "RETURNING", .mark '*'] => some (table, [])
  | _ => none

def readInsert? (query : Query) : Option (String × List (String × Json)) :=
  query.insertIn? (lexemes query.text.toList)

def updateIn? (query : Query) : List Lexeme → Option Update
  | .word "UPDATE" :: .name table :: .word "SET" :: rest => do
      let (assignments, condition) := upTo (.word "WHERE") rest
      let [.name key, .mark '=', .slot digits, .word "RETURNING", .mark '*'] := condition | none
      let assignments ← listed? query.assignmentItem? assignments
      let id ← query.value? digits
      some ⟨table, assignments, key, digits, id⟩
  | _ => none

def readUpdate? (query : Query) : Option Update := query.updateIn? (lexemes query.text.toList)

end Query

/-! ## Reading lists -/

theorem upTo_append {stop : Lexeme} {ls : List Lexeme} (h : stop ∉ ls) (rest : List Lexeme) :
    upTo stop (ls ++ stop :: rest) = (ls, rest) := by
  have hall : ∀ l ∈ ls, (l != stop) = true := by
    intro l hl
    rw [bne_iff_ne]
    rintro rfl
    exact h hl
  rw [upTo, List.takeWhile_append_of_pos hall, List.dropWhile_append_of_pos hall]
  simp

theorem listed?_intercalate {α β : Type} {read? : List Lexeme → Option β}
    {write : α → List Lexeme} {value : α → β} {items : List α} (hne : items ≠ [])
    (hcomma : ∀ item ∈ items, .mark ',' ∉ write item)
    (hread : ∀ item ∈ items, read? (write item) = some (value item)) :
    listed? read? ([.mark ','].intercalate (items.map write)) = some (items.map value) := by
  have hparts : ∀ part ∈ items.map write, Lexeme.mark ',' ∉ part := by
    rw [List.forall_mem_map]
    exact hcomma
  rw [listed?, List.splitOn_intercalate _ hparts (by simpa using hne)]
  exact mapM_map_eq_some hread

theorem listed?_zipIdx {α β : Type} {read? : List Lexeme → Option β}
    {write : α × Nat → List Lexeme} {value : α → β} {items : List α} (hne : items ≠ [])
    (hcomma : ∀ pair ∈ items.zipIdx, .mark ',' ∉ write pair)
    (hread : ∀ item index, items[index]? = some item →
      read? (write (item, index)) = some (value item)) :
    listed? read? ([.mark ','].intercalate (items.zipIdx.map write)) = some (items.map value) := by
  have hvalue : items.map value = items.zipIdx.map (value ∘ Prod.fst) := by
    rw [← List.map_map, List.zipIdx_map_fst]
  rw [hvalue]
  refine listed?_intercalate (by simpa using hne) hcomma ?_
  exact fun pair hpair => hread pair.1 pair.2 (List.mem_zipIdx_iff_getElem?.mp hpair)

theorem Query.value?_toString {query : Query} {index : Nat} {value : Json}
    (h : query.params[index]? = some value) :
    query.value? (toString (index + 1)) = some value := by
  rw [Query.value?, Nat.toString_eq_repr, Nat.repr_eq_ofList_toDigits, String.toList_ofList,
    Nat.ofDigitChars_ten_toDigits]
  exact h

open Lexeme in
/-- The lexemes of a query that adds a row with the values in `slots` for `columns`. -/
def insertForm (table : String) (columns slots : List Lexeme) : List Lexeme :=
  [word "INSERT", word "INTO", name table, mark '('] ++ (columns ++
    [mark ')', word "VALUES", mark '('] ++ (slots ++ [mark ')', word "RETURNING", mark '*']))

open Lexeme in
/-- The lexemes of a query that changes the row whose `key` is the value of a placeholder. -/
def updateForm (table : String) (items : List Lexeme) (key digits : String) : List Lexeme :=
  [word "UPDATE", name table, word "SET"] ++ (items ++
    [word "WHERE", name key, mark '=', slot digits, word "RETURNING", mark '*'])

theorem Query.insertIn?_insertForm {query : Query} {table : String} {columns slots : List Lexeme}
    {names : List String} {values : List Json} (hcolumns : .mark ')' ∉ columns)
    (hslots : .mark ')' ∉ slots) (hnames : listed? columnItem? columns = some names)
    (hvalues : listed? query.slotItem? slots = some values)
    (hlength : names.length = values.length) :
    query.insertIn? (insertForm table columns slots) = some (table, names.zip values) := by
  simp [insertForm, insertIn?, upTo_append hcolumns, upTo_append hslots, hnames, hvalues, hlength]

theorem Query.updateIn?_updateForm {query : Query} {table key digits : String}
    {items : List Lexeme} {assignments : List (String × Source)} {id : Json}
    (hitems : .word "WHERE" ∉ items)
    (hassignments : listed? query.assignmentItem? items = some assignments)
    (hid : query.value? digits = some id) :
    query.updateIn? (updateForm table items key digits) =
      some ⟨table, assignments, key, digits, id⟩ := by
  simp [updateForm, updateIn?, upTo_append hitems, hassignments, hid]

/-! ## The tokens of a query -/

/-- Names of a table that can be put between quotes as they are. -/
structure Table.IsQuotable (table : Table) : Prop where
  name : '"' ∉ table.name.toList
  columns : ∀ column ∈ table.columns, '"' ∉ column.toList
  key : '"' ∉ table.key.toList

/-- The queries that the builders of a table give. -/
inductive Table.Builds (table : Table) : Query → Prop
  | selectAll {options : ListOptions} {query : Query} (h : table.selectAll options = .ok query) :
      Builds table query
  | selectById (id : Json) : Builds table (table.selectById id)
  | insert (row : Row) : Builds table (table.insert row)
  | update (id : Json) (row : Row) : Builds table (table.update id row)
  | delete (id : Json) : Builds table (table.delete id)
  | count : Builds table table.count

/-- Tokens that a scan tells apart, with one placeholder after the other for the parameters. -/
structure Query.IsNumbered (query : Query) : Prop where
  apart : AreApart query.tokens
  slots : slots query.tokens = List.range' 1 query.params.length

theorem Query.IsNumbered.placeholders {query : Query} (h : query.IsNumbered) :
    placeholders query.text.toList = (List.range' 1 query.params.length).map toString := by
  rw [Query.text, h.apart.placeholders, h.slots]

namespace Table

variable {table : Table}

theorem IsQuotable.knownEntries (h : table.IsQuotable) (row : Row) :
    ∀ entry ∈ table.knownEntries row, '"' ∉ entry.1.toList := by
  intro entry hentry
  obtain ⟨-, hcolumn⟩ := List.mem_filter.mp hentry
  exact h.columns entry.1 (List.contains_iff_mem.mp hcolumn)

theorem isApart_equals : (Token.plain " = ").IsApart := by decide

theorem isApart_where : (Token.plain " WHERE ").IsApart := by decide

theorem isApart_returning : (Token.plain " RETURNING *").IsApart := by decide

theorem isApart_comma : (Token.plain ", ").IsApart := by decide

theorem isNumbered_selectById (h : table.IsQuotable) (id : Json) :
    (table.selectById id).IsNumbered where
  apart := by
    simp only [selectById, AreApart, List.forall_mem_cons, Token.isApart_name]
    exact ⟨by decide, h.name, isApart_where, h.key, isApart_equals, trivial, by simp⟩
  slots := rfl

theorem isNumbered_delete (h : table.IsQuotable) (id : Json) : (table.delete id).IsNumbered where
  apart := by
    simp only [delete, AreApart, List.forall_mem_cons, Token.isApart_name]
    exact ⟨by decide, h.name, isApart_where, h.key, isApart_equals, trivial, isApart_returning,
      by simp⟩
  slots := rfl

theorem isNumbered_count (h : table.IsQuotable) : table.count.IsNumbered where
  apart := by
    simp only [count, AreApart, List.forall_mem_cons, Token.isApart_name]
    exact ⟨by decide, h.name, by simp⟩
  slots := rfl

theorem mem_columns_of_orderColumn? {orderBy : Json} {column : String}
    (h : table.orderColumn? orderBy = some column) : column ∈ table.columns := by
  unfold orderColumn? at h
  split at h
  · split at h
    · next hgiven =>
        cases h
        rw [Bool.and_eq_true] at hgiven
        exact List.contains_iff_mem.mp hgiven.2
    · contradiction
  · contradiction

theorem isApart_orderTokens (h : table.IsQuotable) {options : ListOptions} {order : List Token}
    (horder : table.orderTokens options = .ok order) :
    (∀ token ∈ order, token.IsApart) ∧ slots order = [] := by
  unfold orderTokens at horder
  split at horder
  · cases horder
    simp
  · next column hcolumn =>
      have hname := h.columns column (mem_columns_of_orderColumn? hcolumn)
      split at horder
      · contradiction
      all_goals
        cases horder
        simp only [List.forall_mem_cons, Token.isApart_name]
        exact ⟨⟨by decide, hname, by decide, by simp⟩, rfl⟩

theorem isNumbered_selectAll (h : table.IsQuotable) {options : ListOptions} {query : Query}
    (hquery : table.selectAll options = .ok query) : query.IsNumbered := by
  unfold selectAll at hquery
  split at hquery
  · contradiction
  · next order horder =>
      obtain ⟨hapart, hslots⟩ := isApart_orderTokens h horder
      have hlimit : Token.IsApart (.plain " LIMIT ") := by decide
      have hoffset : Token.IsApart (.plain " OFFSET ") := by decide
      cases hquery
      constructor
      · simp only [AreApart, List.cons_append, List.nil_append, List.forall_mem_cons,
          List.forall_mem_append]
        refine ⟨by decide, h.name, ⟨hapart, ?_⟩, ?_⟩
        · split <;> simp [hlimit]
        · split <;> simp [hoffset]
      · by_cases hl : options.limit.isGiven <;> by_cases ho : options.offset.isGiven <;>
          simp [hl, ho, hslots, List.range'_succ]

theorem isNumbered_insert (h : table.IsQuotable) (row : Row) : (table.insert row).IsNumbered := by
  unfold insert
  have hentries := h.knownEntries row
  generalize table.knownEntries row = entries at hentries
  dsimp only
  split
  · refine ⟨?_, rfl⟩
    simp only [AreApart, List.forall_mem_cons, Token.isApart_name]
    exact ⟨by decide, h.name, by decide, by simp⟩
  · constructor
    · simp only [AreApart, List.cons_append, List.nil_append, List.append_assoc,
        List.forall_mem_cons, List.forall_mem_append, Token.isApart_name]
      refine ⟨by decide, h.name, by decide, ?_, by decide, ?_, by decide, by simp⟩
      · refine forall_mem_separatedBy isApart_comma ?_
        rw [List.forall_mem_map]
        intro entry hentry
        simpa using hentries entry hentry
      · refine forall_mem_separatedBy isApart_comma (forall_mem_mapIdx ?_)
        intro index entry _
        simp
    · have hnames : (entries.map fun entry => [Token.name entry.1]).flatMap slots = [] := by
        simp [List.flatMap_map]
      have hnumbers := slots_mapIdx entries (fun index _ => [.slot (index + 1)]) fun _ _ => rfl
      simp [slots_separatedBy, hnames, hnumbers]

theorem isNumbered_update (h : table.IsQuotable) (id : Json) (row : Row) :
    (table.update id row).IsNumbered := by
  unfold update
  have hentries : ∀ entry ∈ (table.knownEntries row).filter (fun entry => entry.1 != table.key),
      '"' ∉ entry.1.toList :=
    fun entry hentry => h.knownEntries row entry (List.mem_of_mem_filter hentry)
  generalize (table.knownEntries row).filter (fun entry => entry.1 != table.key) = entries
    at hentries
  dsimp only
  split
  · refine ⟨?_, rfl⟩
    simp only [AreApart, List.forall_mem_cons, Token.isApart_name]
    exact ⟨by decide, h.name, by decide, h.key, isApart_equals, h.key, isApart_where, h.key,
      isApart_equals, trivial, isApart_returning, by simp⟩
  · constructor
    · simp only [AreApart, List.cons_append, List.nil_append, List.forall_mem_cons,
        List.forall_mem_append, Token.isApart_name]
      refine ⟨by decide, h.name, by decide, ?_, isApart_where, h.key, isApart_equals, trivial,
        isApart_returning, by simp⟩
      refine forall_mem_separatedBy isApart_comma (forall_mem_mapIdx ?_)
      intro index entry hentry
      simp only [List.forall_mem_cons, Token.isApart_name]
      exact ⟨hentries entry hentry, isApart_equals, trivial, by simp⟩
    · have hnumbers := slots_mapIdx entries
        (fun index entry => [.name entry.1, .plain " = ", .slot (index + 1)])
        fun _ _ => rfl
      simp [slots_separatedBy, hnumbers, List.range'_1_concat, Nat.add_comm]

theorem Builds.isNumbered (h : table.IsQuotable) {query : Query} (hquery : table.Builds query) :
    query.IsNumbered := by
  cases hquery with
  | selectAll hquery => exact isNumbered_selectAll h hquery
  | selectById id => exact isNumbered_selectById h id
  | insert row => exact isNumbered_insert h row
  | update id row => exact isNumbered_update h id row
  | delete id => exact isNumbered_delete h id
  | count => exact isNumbered_count h

/-! ## Reading rows back -/

theorem lexemes_insert_of_ne_nil (h : table.IsQuotable) {row : Row}
    (hne : table.knownEntries row ≠ []) :
    lexemes (table.insert row).text.toList =
      insertForm table.name
        ([.mark ','].intercalate ((table.knownEntries row).map fun entry => [.name entry.1]))
        ([.mark ','].intercalate ((table.knownEntries row).zipIdx.map fun pair =>
          [.slot (toString (pair.2 + 1))])) := by
  have hlexemes := (isNumbered_insert h row).apart.lexemes
  rw [Query.text, hlexemes, insert]
  simp [hne, insertForm, flatMap_separatedBy, Token.lexemes, Sql.lexemes, isWordChar,
    List.mapIdx_eq_zipIdx_map, Function.comp_def]

/-- The columns of a row are read back with the parameters that stand for their values. -/
theorem readInsert?_insert (h : table.IsQuotable) (row : Row) :
    (table.insert row).readInsert? = some (table.name, table.knownEntries row) := by
  by_cases hne : table.knownEntries row = []
  · have hlexemes := (isNumbered_insert h row).apart.lexemes
    rw [Query.readInsert?, Query.text, hlexemes]
    simp [insert, hne, Token.lexemes, Sql.lexemes, isWordChar, Query.insertIn?]
  · have hparams : (table.insert row).params = (table.knownEntries row).map (·.2) := by
      simp [insert, hne]
    rw [Query.readInsert?, lexemes_insert_of_ne_nil h hne]
    generalize table.insert row = query at hparams
    generalize table.knownEntries row = entries at hne hparams
    have hcolumns : listed? columnItem?
        ([.mark ','].intercalate (entries.map fun entry => [.name entry.1])) =
          some (entries.map (·.1)) :=
      listed?_intercalate hne (by simp) (fun _ _ => rfl)
    have hvalues : listed? query.slotItem?
        ([.mark ','].intercalate (entries.zipIdx.map fun pair =>
          [.slot (toString (pair.2 + 1))])) = some (entries.map (·.2)) := by
      refine listed?_zipIdx hne (by simp) ?_
      intro entry index hentry
      apply Query.value?_toString
      rw [hparams, List.getElem?_map, hentry]
      rfl
    rw [Query.insertIn?_insertForm (not_mem_intercalate_map (by decide) (by simp))
      (not_mem_intercalate_map (by decide) (by simp)) hcolumns hvalues (by simp),
      ← List.zip_of_prod rfl rfl]

/-- The entries of a row that a query sets: those of columns other than the key. -/
def changedEntries (table : Table) (row : Row) : List (String × Json) :=
  (table.knownEntries row).filter fun entry => entry.1 != table.key

theorem lexemes_update_of_ne_nil (h : table.IsQuotable) (id : Json) {row : Row}
    (hne : table.changedEntries row ≠ []) :
    lexemes (table.update id row).text.toList =
      updateForm table.name
        ([.mark ','].intercalate ((table.changedEntries row).zipIdx.map fun pair =>
          [.name pair.1.1, .mark '=', .slot (toString (pair.2 + 1))]))
        table.key (toString ((table.changedEntries row).length + 1)) := by
  have hlexemes := (isNumbered_update h id row).apart.lexemes
  rw [Query.text, hlexemes, update]
  rw [changedEntries] at hne ⊢
  generalize (table.knownEntries row).filter (fun entry => entry.1 != table.key) = entries at hne
  simp [hne, updateForm, flatMap_separatedBy, Token.lexemes, Sql.lexemes, isWordChar,
    List.mapIdx_eq_zipIdx_map, Function.comp_def]

theorem lexemes_update_of_eq_nil (h : table.IsQuotable) (id : Json) {row : Row}
    (hnil : table.changedEntries row = []) :
    lexemes (table.update id row).text.toList =
      updateForm table.name
        ([.mark ','].intercalate ([table.key].map fun key => [.name key, .mark '=', .name key]))
        table.key (toString (0 + 1)) := by
  have hlexemes := (isNumbered_update h id row).apart.lexemes
  rw [changedEntries] at hnil
  rw [Query.text, hlexemes, update, hnil]
  simp [updateForm, Token.lexemes, Sql.lexemes, isWordChar]

theorem params_update (id : Json) (row : Row) :
    (table.update id row).params = (table.changedEntries row).map (·.2) ++ [id] := by
  unfold update changedEntries
  dsimp only
  split
  · next hempty =>
      rw [List.isEmpty_iff.mp hempty]
      rfl
  · rfl

theorem readUpdate?_update (h : table.IsQuotable) (id : Json) (row : Row) :
    (table.update id row).readUpdate? = some {
      table := table.name
      assignments :=
        if table.changedEntries row = [] then [(table.key, .column table.key)]
        else (table.changedEntries row).map fun entry => (entry.1, .param entry.2)
      key := table.key
      placeholder := toString (table.update id row).params.length
      id := id } := by
  have hparams := table.params_update id row
  have hid : (table.update id row).params[(table.changedEntries row).length]? = some id := by
    rw [hparams, List.getElem?_append_right (by simp)]
    simp
  have hlength : (table.update id row).params.length = (table.changedEntries row).length + 1 := by
    simp [hparams]
  by_cases hne : table.changedEntries row = []
  · rw [Query.readUpdate?, lexemes_update_of_eq_nil h id hne, if_pos hne, hlength]
    rw [hne] at hid ⊢
    have hitself : listed? (table.update id row).assignmentItem?
        ([.mark ','].intercalate ([table.key].map fun key => [.name key, .mark '=', .name key])) =
          some ([table.key].map fun key => (key, .column key)) :=
      listed?_intercalate (by simp) (by simp) fun _ _ => rfl
    exact Query.updateIn?_updateForm (not_mem_intercalate_map (by decide) (by simp)) hitself
      (Query.value?_toString hid)
  · rw [Query.readUpdate?, lexemes_update_of_ne_nil h id hne, if_neg hne, hlength]
    refine Query.updateIn?_updateForm (not_mem_intercalate_map (by decide) (by simp)) ?_
      (Query.value?_toString hid)
    refine listed?_zipIdx hne (by simp) ?_
    intro entry index hentry
    obtain ⟨hlt, -⟩ := List.getElem?_eq_some_iff.mp hentry
    have hvalue : (table.update id row).params[index]? = some entry.2 := by
      rw [hparams, List.getElem?_append_left (by simpa using hlt), List.getElem?_map, hentry]
      rfl
    rw [Query.assignmentItem?, Query.value?_toString hvalue]
    rfl

theorem knownEntries_eq_filter (row : Row) :
    table.knownEntries row = row.entries.filter fun entry => entry.1 ∈ table.columns := by
  simp [knownEntries]

theorem changedEntries_eq_filter (row : Row) :
    table.changedEntries row =
      row.entries.filter fun entry => entry.1 ∈ table.columns ∧ entry.1 ≠ table.key := by
  rw [changedEntries, knownEntries, List.filter_filter]
  refine List.filter_congr fun entry _ => ?_
  rw [Bool.eq_iff_iff]
  simp [and_comm]

theorem isQuotable_ofEntity {entity : Entity} (h : entity.IsSpelled) :
    (ofEntity entity).IsQuotable := by
  have hcolumns : ∀ column ∈ entity.attributes.map columnName, '"' ∉ column.toList := by
    rw [List.forall_mem_map]
    exact fun attr hattr => (isIdentifier_columnName h hattr).2
  refine ⟨(isIdentifier_tableName h).2, hcolumns, ?_⟩
  simp only [ofEntity]
  cases hprimary : entity.primaryAttributes with
  | cons attr rest =>
      exact (isIdentifier_columnName h (mem_attributes_of_primaryAttributes hprimary)).2
  | nil =>
      cases hfirst : (entity.attributes.map columnName).head? with
      | none => simp
      | some column => exact hcolumns column (List.mem_of_head? hfirst)

end Table

theorem Row.nodup_filter (row : Row) (p : String × Json → Bool) :
    ((row.entries.filter p).map (·.1)).Nodup :=
  row.distinct.sublist (List.filter_sublist.map _)

/-- Placeholders and parameters line up in every query on a table whose names hold no quotes, as
those of a diagram do: the placeholders are numbered from one on, and what a query adds or changes
is what the row says of the columns. -/
theorem placeholders_bind_parameters :
    (∀ table : Table, table.IsQuotable →
      (∀ query, table.Builds query →
        placeholders query.text.toList = (List.range' 1 query.params.length).map toString) ∧
      (∀ row : Row,
        let entries := row.entries.filter fun entry => entry.1 ∈ table.columns
        (entries.map (·.1)).Nodup ∧
          (table.insert row).readInsert? = some (table.name, entries)) ∧
      (∀ (id : Json) (row : Row),
        let entries := row.entries.filter fun entry =>
          entry.1 ∈ table.columns ∧ entry.1 ≠ table.key
        (entries.map (·.1)).Nodup ∧
          (table.update id row).readUpdate? = some {
            table := table.name
            assignments :=
              if entries = [] then [(table.key, .column table.key)]
              else entries.map fun entry => (entry.1, .param entry.2)
            key := table.key
            placeholder := toString (table.update id row).params.length
            id := id })) ∧
    ∀ text : String, ∀ entity ∈ (Reading.ofText text).result.schema.entities,
      (Table.ofEntity entity).IsQuotable := by
  refine ⟨fun table h => ⟨?_, ?_, ?_⟩, ?_⟩
  · exact fun query hquery => (hquery.isNumbered h).placeholders
  · intro row
    refine ⟨row.nodup_filter _, ?_⟩
    rw [← table.knownEntries_eq_filter]
    exact table.readInsert?_insert h row
  · intro id row
    refine ⟨row.nodup_filter _, ?_⟩
    rw [← table.changedEntries_eq_filter]
    exact table.readUpdate?_update h id row
  · exact fun text entity hentity =>
      Table.isQuotable_ofEntity (Reading.isSpelled_of_mem_schema hentity)

/-- A table with names that look like placeholders. -/
def priceTable : Table := ⟨"price $1", ["id", "$2", "note"], "id"⟩

def priceRow : Row :=
  ⟨[("note", .text "$3"), ("tax", .null), ("id", .bool true), ("$2", .bool false)], by decide⟩

def priceText : String := "erDiagram\nPRICE \x7b\nint id PK\nstring note\n\x7d"

theorem placeholders_bind_parameters_priceTable :
    priceTable.IsQuotable ∧
      (priceTable.update .null priceRow).text =
        "UPDATE \"price $1\" SET \"note\" = $1, \"$2\" = $2 WHERE \"id\" = $3 RETURNING *" ∧
      placeholders (priceTable.update .null priceRow).text.toList = ["1", "2", "3"] ∧
      (priceTable.insert priceRow).readInsert? =
        some ("price $1", [("note", .text "$3"), ("id", .bool true), ("$2", .bool false)]) ∧
      (priceTable.update .null priceRow).readUpdate? =
        some ⟨"price $1", [("note", .param (.text "$3")), ("$2", .param (.bool false))], "id", "3",
          .null⟩ ∧
      ((Reading.ofText priceText).result.schema.entities.map tableName = ["price"] ∧
        ∀ entity ∈ (Reading.ofText priceText).result.schema.entities,
          (Table.ofEntity entity).IsQuotable) := by
  have hquotable : priceTable.IsQuotable := ⟨by decide, by decide, by decide⟩
  obtain ⟨hplaceholders, hinsert, hupdate⟩ := placeholders_bind_parameters.1 priceTable hquotable
  refine ⟨hquotable, by decide +kernel, hplaceholders _ (.update .null priceRow),
    (hinsert priceRow).2, (hupdate .null priceRow).2, by decide +kernel, ?_⟩
  exact placeholders_bind_parameters.2 priceText

end EntityDiagram.Sql
