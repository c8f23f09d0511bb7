import EntityDiagram.Proofs.Lists
import EntityDiagram.Proofs.Sql.Binding
import EntityDiagram.Proofs.Sql.Nesting
import EntityDiagram.Proofs.Sql.Reference

/-! # Definitions read back

Read from its text alone, a statement that creates a table gives its name, its columns in order and
its keys, and one that adds a foreign key gives the columns at both ends. For the entities of a
diagram that is what the queries on their tables go by.
-/

namespace EntityDiagram.Sql

/-! ## Reading a definition -/

/-- What stands between the commas of a table definition. -/
inductive TableItem where
  | column (name : String)
  | primaryKey (columns : List String)
  | unique (columns : List String)
  deriving Repr, DecidableEq

namespace TableItem

def column? : TableItem → Option String
  | column name => some name
  | _ => none

def primaryKey? : TableItem → Option (List String)
  | primaryKey columns => some columns
  | _ => none

def unique? : TableItem → Option (List String)
  | unique columns => some columns
  | _ => none

end TableItem

/-- What a statement that creates a table says: the columns in order, and the columns of each
constraint. -/
structure TableDefinition where
  name : String
  columns : List String
  primaryKeys : List (List String)
  uniques : List (List String)
  deriving Repr, DecidableEq

/-- The items of a list up to its closing parenthesis, each of them read, and what follows it. -/
def readList? {α : Type} (read? : List Lexeme → Option α) (ls : List Lexeme) :
    Option (List α × List Lexeme) :=
  match listItems? 0 ls with
  | none => none
  | some ([[]], rest) => some ([], rest)
  | some (items, rest) => (items.mapM read?).map fun values => (values, rest)

/-- An item of a table definition. A column has a type, and a constraint ends with its list. -/
def tableItem? : List Lexeme → Option TableItem
  | .name column :: .word _ :: _ => some (.column column)
  | .word "PRIMARY" :: .word "KEY" :: .mark '(' :: rest =>
      match readList? columnItem? rest with
      | some (columns, []) => some (.primaryKey columns)
      | _ => none
  | .word "UNIQUE" :: .mark '(' :: rest =>
      match readList? columnItem? rest with
      | some (columns, []) => some (.unique columns)
      | _ => none
  | _ => none

def tableIn? : List Lexeme → Option TableDefinition
  | .word "CREATE" :: .word "TABLE" :: .word "IF" :: .word "NOT" :: .word "EXISTS" ::
      .name table :: .mark '(' :: rest =>
      match readList? tableItem? rest with
      | some (items, [.mark ';']) =>
          some ⟨table, items.filterMap TableItem.column?, items.filterMap TableItem.primaryKey?,
            items.filterMap TableItem.unique?⟩
      | _ => none
  | _ => none

/-- The table that the text of a statement creates. -/
def readTable? (text : String) : Option TableDefinition := tableIn? (lexemes text.toList)

def foreignKeyIn? : List Lexeme → Option ForeignKey
  | [.word "ALTER", .word "TABLE", .name table, .word "ADD", .word "CONSTRAINT", .name constraint,
      .word "FOREIGN", .word "KEY", .mark '(', .name column, .mark ')', .word "REFERENCES",
      .name refTable, .mark '(', .name refColumn, .mark ')', .word "ON", .word "DELETE",
      .word "CASCADE", .mark ';'] => some ⟨table, constraint, column, refTable, refColumn⟩
  | _ => none

/-- The foreign key that the text of a statement adds. -/
def readForeignKey? (text : String) : Option ForeignKey := foreignKeyIn? (lexemes text.toList)

/-! ## Reading lists -/

theorem readList?_intercalate {α : Type} {read? : List Lexeme → Option α} (hnone : read? [] = none)
    {items : List (List Lexeme)} {values : List α}
    (hread : List.Forall₂ (fun item value => read? item = some value) items values)
    (hnested : ∀ item ∈ items, IsNested item) (rest : List Lexeme) :
    readList? read? ([.mark ','].intercalate items ++ .mark ')' :: rest) = some (values, rest) := by
  cases hread with
  | nil => rfl
  | @cons item value items values hitem hitems =>
      have hmapM := mapM_eq_some_of_forall₂ (.cons hitem hitems)
      rw [readList?, listItems?_intercalate (by simp) hnested]
      -- A list of one empty item would be taken for an empty list, but no item is empty.
      split
      · contradiction
      · next heq =>
          cases heq
          simp [hnone] at hitem
      · next heq =>
          cases heq
          rw [hmapM]
          rfl

theorem readList?_columns (columns : List String) (rest : List Lexeme) :
    readList? columnItem? ([.mark ','].intercalate (columns.map fun column => [.name column]) ++
      .mark ')' :: rest) = some (columns, rest) := by
  apply readList?_intercalate rfl
  · rw [List.forall₂_map_left_iff, List.forall₂_same]
    exact fun _ _ => rfl
  · rw [List.forall_mem_map]
    exact fun _ _ => .cons rfl .nil

/-! ## The lines of a definition -/

/-- A line that is read as an item wherever it stands in the list. -/
structure Declares (line : List Token) (item : TableItem) : Prop where
  isApart : ∀ token ∈ line, token.IsApart
  isNested : IsNested (line.flatMap Token.lexemes)
  read : tableItem? (line.flatMap Token.lexemes) = some item

/-- The tokens of a definition with the lines between its parentheses. -/
def definitionTokens (table : String) (lines : List (List Token)) : List Token :=
  [.plain "CREATE TABLE IF NOT EXISTS ", .name table, .plain " (\n"] ++ separatedBy ",\n" lines ++
    [.plain "\n);"]

open Lexeme in
/-- The lexemes of a definition with the lexemes between its parentheses. -/
def definitionForm (table : String) (list : List Lexeme) : List Lexeme :=
  [word "CREATE", word "TABLE", word "IF", word "NOT", word "EXISTS", name table, mark '('] ++
    (list ++ [mark ')', mark ';'])

theorem areApart_definitionTokens {table : String} (htable : '"' ∉ table.toList)
    {lines : List (List Token)} (hlines : ∀ line ∈ lines, ∀ token ∈ line, token.IsApart) :
    AreApart (definitionTokens table lines) := by
  simp only [definitionTokens, AreApart, List.cons_append, List.nil_append, List.forall_mem_cons,
    List.forall_mem_append, Token.isApart_name]
  exact ⟨by decide, htable, by decide, forall_mem_separatedBy (by decide) hlines, by decide,
    by simp⟩

theorem lexemes_definitionTokens {table : String} {lines : List (List Token)}
    (h : AreApart (definitionTokens table lines)) :
    lexemes (render (definitionTokens table lines)).toList =
      definitionForm table ([.mark ','].intercalate (lines.map (·.flatMap Token.lexemes))) := by
  rw [h.lexemes]
  simp [definitionTokens, definitionForm, flatMap_separatedBy, Token.lexemes, lexemes, isWordChar]

theorem tableIn?_definitionForm {table : String} {list : List Lexeme} {items : List TableItem}
    (h : readList? tableItem? (list ++ [.mark ')', .mark ';']) = some (items, [.mark ';'])) :
    tableIn? (definitionForm table list) =
      some ⟨table, items.filterMap TableItem.column?, items.filterMap TableItem.primaryKey?,
        items.filterMap TableItem.unique?⟩ := by
  simp [definitionForm, tableIn?, h]

theorem readTable?_definitionTokens {table : String} (htable : '"' ∉ table.toList)
    {lines : List (List Token)} {items : List TableItem} (h : List.Forall₂ Declares lines items) :
    readTable? (render (definitionTokens table lines)) =
      some ⟨table, items.filterMap TableItem.column?, items.filterMap TableItem.primaryKey?,
        items.filterMap TableItem.unique?⟩ := by
  obtain ⟨hlines, -⟩ := (List.forall₂_and_left _ _).mp
    (h.imp fun line item hdeclares => ⟨And.intro hdeclares.isApart hdeclares.isNested, hdeclares⟩)
  have hapart := areApart_definitionTokens htable fun line hline => (hlines line hline).1
  rw [readTable?, lexemes_definitionTokens hapart]
  apply tableIn?_definitionForm
  apply readList?_intercalate rfl
  · rw [List.forall₂_map_left_iff]
    exact h.imp fun line item hdeclares => hdeclares.read
  · rw [List.forall_mem_map]
    exact fun line hline => (hlines line hline).2

/-- The line of a column, with the blank before its type in one token with it. -/
def typedLine (column : Column) : List Token :=
  [.plain "  ", .name column.name, .plain (" " ++ column.type)] ++
    if column.required then [.plain " NOT NULL"] else []

theorem declares_typedLine {column : Column} (hname : '"' ∉ column.name.toList)
    (htype : IsTypeText column.type.toList) :
    Declares (typedLine column) (.column column.name) := by
  obtain ⟨hquote, hdollar⟩ := htype.not_mem
  obtain ⟨first, rest, hfirst, hrest⟩ := htype.lexemes
  have hlexemes : (typedLine column).flatMap Token.lexemes =
      .name column.name :: .word first :: (rest ++
        if column.required then [.word "NOT", .word "NULL"] else []) := by
    unfold typedLine
    cases column.required <;> simp [Token.lexemes, hfirst, lexemes, isWordChar]
  constructor
  · have htyped : (Token.plain (" " ++ column.type)).IsApart := by
      refine ⟨?_, ?_, ?_, ?_⟩
      · simp [hquote]
      · simp [hdollar]
      · simp [← String.toList_eq_nil_iff]
      · simp [StartsApart, isWordChar]
    have hrequired : (Token.plain " NOT NULL").IsApart := by decide
    simp only [typedLine, List.forall_mem_append, List.forall_mem_cons, Token.isApart_name]
    refine ⟨⟨by decide, hname, htyped, by simp⟩, ?_⟩
    split <;> simp [hrequired]
  · rw [hlexemes]
    refine .cons rfl (.cons rfl (hrest.append (.of_forall ?_)))
    split <;> simp [Lexeme.divides]
  · rw [hlexemes]
    rfl

theorem declares_primaryKeyLines {columns : List String}
    (h : ∀ column ∈ columns, '"' ∉ column.toList) :
    List.Forall₂ Declares (Statement.primaryKeyLines columns)
      (if columns = [] then [] else [.primaryKey columns]) := by
  unfold Statement.primaryKeyLines
  by_cases hempty : columns = []
  · simp [hempty]
  · have hlexemes : ([Token.plain "  PRIMARY KEY ("] ++
          separatedBy ", " (columns.map fun column => [.name column]) ++
          [Token.plain ")"]).flatMap Token.lexemes =
        .word "PRIMARY" :: .word "KEY" :: .mark '(' ::
          ([.mark ','].intercalate (columns.map fun column => [.name column]) ++ [.mark ')']) := by
      simp [flatMap_separatedBy, Token.lexemes, lexemes, isWordChar, Function.comp_def]
    rw [if_neg (by simpa using hempty), if_neg hempty]
    refine .cons ⟨?_, ?_, ?_⟩ .nil
    · simp only [List.forall_mem_append, List.forall_mem_singleton]
      refine ⟨⟨by decide, forall_mem_separatedBy Table.isApart_comma ?_⟩, by decide⟩
      rw [List.forall_mem_map]
      intro column hcolumn
      simpa using h column hcolumn
    · rw [hlexemes]
      refine .cons rfl (.cons rfl (.group ?_ ?_ .nil))
      · exact not_mem_intercalate_map (by decide) (by simp)
      · exact not_mem_intercalate_map (by decide) (by simp)
    · rw [hlexemes, tableItem?, readList?_columns]

theorem declares_uniqueLine {column : String} (h : '"' ∉ column.toList) :
    Declares (Statement.uniqueLine column) (.unique [column]) := by
  have hlexemes : (Statement.uniqueLine column).flatMap Token.lexemes =
      [.word "UNIQUE", .mark '(', .name column, .mark ')'] := by
    simp [Statement.uniqueLine, Token.lexemes, lexemes, isWordChar]
  constructor
  · simp only [Statement.uniqueLine, List.forall_mem_cons, Token.isApart_name]
    exact ⟨by decide, h, by decide, by simp⟩
  · rw [hlexemes]
    exact .cons rfl (@IsNested.group [.name column] [] (by simp) (by simp) .nil)
  · rw [hlexemes]
    rfl

/-! ## Definitions of tables -/

theorem text_createTable_eq (table : String) (columns : List Column)
    (primaryKey unique : List String) :
    (Statement.createTable table columns primaryKey unique).text =
      render (definitionTokens table (columns.map typedLine ++
        Statement.primaryKeyLines primaryKey ++ unique.map Statement.uniqueLine)) := by
  have hline : ∀ column, (Statement.columnLine column).flatMap (·.render.toList) =
      (typedLine column).flatMap (·.render.toList) := by
    intro column
    unfold Statement.columnLine typedLine
    cases column.required <;> simp [Token.render]
  rw [← String.toList_inj]
  simp [Statement.text, Statement.tokens, definitionTokens, render, String.toList_join,
    List.flatMap_map, flatMap_separatedBy, hline, Function.comp_def]

theorem readTable?_text {table : String} {columns : List Column} {primaryKey unique : List String}
    (hnames : ∀ name ∈ table :: columns.map (·.name) ++ primaryKey ++ unique, '"' ∉ name.toList)
    (htypes : ∀ column ∈ columns, IsTypeText column.type.toList) :
    readTable? (Statement.createTable table columns primaryKey unique).text =
      some ⟨table, columns.map (·.name), if primaryKey = [] then [] else [primaryKey],
        unique.map fun column => [column]⟩ := by
  simp only [List.cons_append, List.forall_mem_cons, List.forall_mem_append,
    List.forall_mem_map] at hnames
  obtain ⟨htable, ⟨hcolumns, hprimary⟩, hunique⟩ := hnames
  have hcolumnLines : List.Forall₂ Declares (columns.map typedLine)
      (columns.map fun column => .column column.name) := by
    rw [List.forall₂_map_left_iff, List.forall₂_map_right_iff, List.forall₂_same]
    exact fun column hmem => declares_typedLine (hcolumns column hmem) (htypes column hmem)
  have huniqueLines : List.Forall₂ Declares (unique.map Statement.uniqueLine)
      (unique.map fun column => .unique [column]) := by
    rw [List.forall₂_map_left_iff, List.forall₂_map_right_iff, List.forall₂_same]
    exact fun column hmem => declares_uniqueLine (hunique column hmem)
  have hlines := List.rel_append
    (List.rel_append hcolumnLines (declares_primaryKeyLines hprimary)) huniqueLines
  rw [text_createTable_eq, readTable?_definitionTokens htable hlines]
  by_cases hempty : primaryKey = [] <;>
    simp [hempty, List.filterMap_map, List.filterMap_cons, Function.comp_def, TableItem.column?,
      TableItem.primaryKey?, TableItem.unique?]

theorem readTable?_createTable {entity : Entity} (h : entity.IsSpelled) :
    readTable? (createTable entity).text = some {
      name := tableName entity
      columns := entity.attributes.map columnName
      primaryKeys :=
        if entity.primaryAttributes = [] then [] else [entity.primaryAttributes.map columnName]
      uniques := (entity.attributes.filter fun attr => attr.isUnique && !attr.isPrimary).map
        fun attr => [columnName attr] } := by
  have hquote : ∀ attr ∈ entity.attributes, '"' ∉ (columnName attr).toList :=
    fun attr hattr => (isIdentifier_columnName h hattr).2
  rw [createTable, readTable?_text]
  · simp [columnOf, Function.comp_def]
  · simp only [List.cons_append, List.forall_mem_cons, List.forall_mem_append, List.forall_mem_map]
    refine ⟨(isIdentifier_tableName h).2, ⟨hquote, ?_⟩, ?_⟩
    · exact fun attr hattr => hquote attr (List.mem_of_mem_filter hattr)
    · exact fun attr hattr => hquote attr (List.mem_of_mem_filter hattr)
  · rw [List.forall_mem_map]
    exact fun attr hattr => isTypeText_columnType (h.attributes attr hattr).2

/-! ## Definitions of foreign keys -/

open Lexeme in
/-- The lexemes of a statement that adds a foreign key. -/
def foreignKeyForm (key : ForeignKey) : List Lexeme :=
  [word "ALTER", word "TABLE", name key.table, word "ADD", word "CONSTRAINT", name key.name,
    word "FOREIGN", word "KEY", mark '(', name key.column, mark ')', word "REFERENCES",
    name key.refTable, mark '(', name key.refColumn, mark ')', word "ON", word "DELETE",
    word "CASCADE", mark ';']

/-- The names in the statement that adds a foreign key, in order. -/
def ForeignKey.names (key : ForeignKey) : List String :=
  [key.table, key.name, key.column, key.refTable, key.refColumn]

theorem lexemes_statement {key : ForeignKey} (h : ∀ name ∈ key.names, '"' ∉ name.toList) :
    lexemes key.statement.text.toList = foreignKeyForm key := by
  simp only [ForeignKey.names, List.forall_mem_cons] at h
  obtain ⟨htable, hname, hcolumn, hrefTable, hrefColumn, -⟩ := h
  have hapart : AreApart key.statement.tokens := by
    simp only [ForeignKey.statement, Statement.tokens, AreApart, List.forall_mem_cons,
      Token.isApart_name]
    exact ⟨by decide, htable, by decide, hname, by decide, hcolumn, by decide, hrefTable,
      by decide, hrefColumn, by decide, by simp⟩
  rw [Statement.text, hapart.lexemes]
  simp [ForeignKey.statement, Statement.tokens, Token.lexemes, lexemes, isWordChar, foreignKeyForm]

theorem readForeignKey?_statement {key : ForeignKey} (h : ∀ name ∈ key.names, '"' ∉ name.toList) :
    readForeignKey? key.statement.text = some key := by
  rw [readForeignKey?, lexemes_statement h]
  rfl

/-- A foreign key of a diagram refers to the first entity with its table. -/
theorem exists_target_of_readForeignKey? {schema : Schema}
    (hspelled : ∀ entity ∈ schema.entities, entity.IsSpelled) {statement : Statement}
    (h : statement ∈ foreignKeys schema) :
    ∃ key target, readForeignKey? statement.text = some key ∧
      IsFirst (tableName · = key.refTable) schema.entities target ∧
      key.refColumn = keyColumn target := by
  obtain ⟨entity, hentity, attr, hattr, target, -, htarget, rfl⟩ :=
    exists_reference_of_mem_foreignKeys h
  have hreferred := hspelled target (List.mem_of_find?_eq_some htarget)
  have hnames := isIdentifier_reference (hspelled entity hentity) (List.mem_of_mem_filter hattr)
    hreferred
  let key : ForeignKey :=
    ⟨tableName entity, "fk_" ++ tableName entity ++ "_" ++ columnName attr, columnName attr,
      tableName target, keyColumn target⟩
  have hread : readForeignKey? key.statement.text = some key :=
    readForeignKey?_statement fun name hname => (hnames name hname).2
  exact ⟨key, target, hread, (isFirst_iff_find? fun _ => beq_iff_eq).mpr htarget, rfl⟩

/-! ## Definitions and queries -/

theorem key_ofEntity_of_not_primary {entity : Entity} (hne : entity.attributes ≠ [])
    (h : entity.primaryAttributes = []) :
    (Table.ofEntity entity).columns.head? = some (Table.ofEntity entity).key := by
  obtain ⟨first, rest, hattributes⟩ := List.exists_cons_of_ne_nil hne
  simp [Table.ofEntity, h, hattributes]

theorem key_ofEntity_of_primary {entity : Entity}
    (h : ∃ attr ∈ entity.attributes, attr.isPrimary = true) :
    ∃ rest, entity.primaryAttributes.map columnName = (Table.ofEntity entity).key :: rest ∧
      keyColumn entity = (Table.ofEntity entity).key := by
  obtain ⟨attr, hattr, hprimary⟩ := h
  have hmem : attr ∈ entity.primaryAttributes := List.mem_filter.mpr ⟨hattr, hprimary⟩
  unfold keyColumn Table.ofEntity
  cases hkey : entity.primaryAttributes with
  | nil => simp [hkey] at hmem
  | cons first rest => exact ⟨rest.map columnName, rfl, rfl⟩

/-- The definition of a table and the queries on it agree on its name, its columns and its key, and
so do the foreign keys that refer to it. -/
theorem definition_agrees_with_table (text : String) (entity : Entity)
    (h : entity ∈ (Reading.ofText text).result.schema.entities) :
    let schema := (Reading.ofText text).result.schema
    let table := Table.ofEntity entity
    ∃ definition, readTable? (createTable entity).text = some definition ∧
      definition.name = table.name ∧ definition.columns = table.columns ∧
      ((∃ attr ∈ entity.attributes, attr.isPrimary = true) →
        (∃ rest, definition.primaryKeys = [table.key :: rest]) ∧ table.key ∈ table.columns ∧
        (IsFirst (tableName · = table.name) schema.entities entity →
          ∀ statement ∈ foreignKeys schema, ∃ key, readForeignKey? statement.text = some key ∧
            (key.refTable = table.name → key.refColumn = table.key))) ∧
      (entity.attributes ≠ [] → (∀ attr ∈ entity.attributes, attr.isPrimary = false) →
        definition.primaryKeys = [] ∧ table.columns.head? = some table.key) := by
  intro schema table
  have hspelled : ∀ entity ∈ schema.entities, entity.IsSpelled :=
    fun entity hmem => Reading.isSpelled_of_mem_schema hmem
  refine ⟨_, readTable?_createTable (hspelled entity h), rfl, rfl, fun hprimary => ?_, ?_⟩
  · obtain ⟨rest, hkey, hcolumn⟩ := key_ofEntity_of_primary hprimary
    have hne : entity.primaryAttributes ≠ [] := by
      intro hnil
      simp [hnil] at hkey
    refine ⟨⟨rest, ?_⟩, ?_, fun hfirst statement hstatement => ?_⟩
    · rw [← hkey]
      exact if_neg hne
    · rw [← hcolumn]
      exact keyColumn_mem (.inl hprimary)
    · obtain ⟨key, target, hread, htarget, hrefColumn⟩ :=
        exists_target_of_readForeignKey? hspelled hstatement
      refine ⟨key, hread, fun htable => ?_⟩
      rw [htable] at htarget
      rw [hrefColumn, htarget.unique hfirst, hcolumn]
  · intro hattributes hnone
    have hnil : entity.primaryAttributes = [] :=
      List.filter_eq_nil_iff.mpr fun attr hattr => by simp [hnone attr hattr]
    exact ⟨if_pos hnil, key_ofEntity_of_not_primary hattributes hnil⟩

def orderText : String :=
  "erDiagram\nORDER \x7b\ndecimal(8, 2) total UK\nint no PK\nstring code PK\n\x7d\n" ++
    "ITEM \x7b\nint order_id FK\n\x7d"

/-- An order with a key of two columns that are not its first. -/
def orderEntity : Entity where
  name := "ORDER"
  attributes := [⟨"total", "decimal(8, 2)", [.unique], none⟩, ⟨"no", "int", [.primary], none⟩,
    ⟨"code", "string", [.primary], none⟩]

/-- An item without a key, which refers to its order. -/
def itemEntity : Entity where
  name := "ITEM"
  attributes := [⟨"order_id", "int", [.foreign], none⟩]

theorem definition_agrees_with_table_of_orders :
    let schema := (Reading.ofText orderText).result.schema
    schema = { entities := [orderEntity, itemEntity] } ∧ (foreignKeys schema).length = 1 ∧
      (∃ definition, readTable? (createTable orderEntity).text = some definition ∧
        definition.name = "order" ∧ definition.columns = ["total", "no", "code"] ∧
        (∃ rest, definition.primaryKeys = ["no" :: rest]) ∧
        ∀ statement ∈ foreignKeys schema, ∃ key, readForeignKey? statement.text = some key ∧
          (key.refTable = "order" → key.refColumn = "no")) ∧
      ∃ definition, readTable? (createTable itemEntity).text = some definition ∧
        definition.columns = ["order_id"] ∧ definition.primaryKeys = [] ∧
        (Table.ofEntity itemEntity).key = "order_id" := by
  intro schema
  have hschema : schema = { entities := [orderEntity, itemEntity] } := by decide +kernel
  have hentities : schema.entities = [orderEntity, itemEntity] := by rw [hschema]
  have horder : Table.ofEntity orderEntity = ⟨"order", ["total", "no", "code"], "no"⟩ := by
    decide +kernel
  have hitem : Table.ofEntity itemEntity = ⟨"item", ["order_id"], "order_id"⟩ := by
    decide +kernel
  refine ⟨hschema, by rw [hschema]; decide +kernel, ?_, ?_⟩
  · obtain ⟨definition, hread, hname, hcolumns, hkeyed, -⟩ :=
      definition_agrees_with_table orderText orderEntity (hentities ▸ by simp)
    obtain ⟨hkeys, -, hforeign⟩ := hkeyed (by decide)
    rw [horder] at hname hcolumns hkeys hforeign
    have hfirst : IsFirst (tableName · = "order") schema.entities orderEntity :=
      ⟨[], [itemEntity], hentities, by decide +kernel, by simp⟩
    exact ⟨definition, hread, hname, hcolumns, hkeys, hforeign hfirst⟩
  · obtain ⟨definition, hread, -, hcolumns, -, hkeyless⟩ :=
      definition_agrees_with_table orderText itemEntity (hentities ▸ by simp)
    obtain ⟨hkeys, -⟩ := hkeyless (by decide) (by decide)
    rw [hitem] at hcolumns
    exact ⟨definition, hread, hcolumns, hkeys, by rw [hitem]⟩

end EntityDiagram.Sql
