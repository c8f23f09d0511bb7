import EntityDiagram.Proofs.Line.Attribute
import EntityDiagram.Proofs.Reading.Spelling
import EntityDiagram.Proofs.Sql.Token
import EntityDiagram.Proofs.Text.Lower
import EntityDiagram.Sql.Definition
import Mathlib.Data.List.Forall2

/-! # Names stay between their quotes

Names and types go into the statements as they are, without any escaping. That is safe for every
diagram, because of how its names and types are spelled: no identifier holds a quote, and no column
type holds a quote or a semicolon.
-/

namespace EntityDiagram.Sql

/-! ## Column types -/

theorem isInert_known :
    ∀ entry ∈ ColumnType.known, IsInert entry.2.name.toList ∧ IsInert entry.2.arguments.toList := by
  decide

theorem mem_known_of_ofWord? {word : List Char} {type : ColumnType}
    (h : ColumnType.ofWord? word = some type) : (String.ofList word, type) ∈ ColumnType.known := by
  obtain ⟨before, after, hknown, -⟩ := List.lookup_eq_some_iff.mp h
  rw [hknown]
  exact List.mem_append_right before List.mem_cons_self

theorem isInert_ofWord? {word : List Char} {type : ColumnType}
    (h : ColumnType.ofWord? word = some type) :
    IsInert type.name.toList ∧ IsInert type.arguments.toList :=
  isInert_known (String.ofList word, type) (mem_known_of_ofWord? h)

/-- A word with arguments is cut at its first parenthesis. -/
theorem splitArguments?_eq_some_iff {cs word arguments : List Char} :
    splitArguments? cs = some (word, arguments) ↔
      (word ≠ [] ∧ ∀ c ∈ word, Text.isWord c = true) ∧ (arguments ≠ [] ∧ '\n' ∉ arguments) ∧
        cs = word ++ '(' :: arguments ++ [')'] := by
  constructor
  · intro h
    unfold splitArguments? at h
    split at h
    · next rest hrest =>
        dsimp only at h
        split at h
        · contradiction
        · next hlist =>
            cases h
            simp only [Bool.or_eq_true, List.isEmpty_iff, List.contains_iff_mem, not_or,
              bne_iff_ne, ne_eq, not_not] at hlist
            obtain ⟨⟨⟨hword, harguments⟩, hline⟩, hlast⟩ := hlist
            refine ⟨⟨hword, fun c hc => List.mem_takeWhile_imp hc⟩, ⟨harguments, hline⟩, ?_⟩
            have hclose : rest.dropLast ++ [')'] = rest := List.dropLast_append_getLast? _ hlast
            rw [List.append_assoc, List.cons_append, hclose, ← hrest,
              List.takeWhile_append_dropWhile]
    · contradiction
  · rintro ⟨⟨hne, hword⟩, ⟨harguments, hline⟩, rfl⟩
    have hstop : ∀ c ∈ ('(' :: arguments ++ [')']).head?, Text.isWord c = false :=
      Text.stop_cons (by decide) _
    rw [List.append_assoc, splitArguments?, Text.takeWhile_append_stop hword hstop,
      Text.dropWhile_append_stop hword hstop]
    simp [hne, harguments, hline]

theorem isInert_baseType {cs : List Char} (h : IsInert cs) : IsInert (baseType cs).toList := by
  have htext : IsInert "TEXT".toList := by decide
  unfold baseType
  cases hsplit : splitArguments? cs with
  | some pair =>
      obtain ⟨word, arguments⟩ := pair
      cases htype : ColumnType.ofWord? word with
      | none => simpa only [htype] using htext
      | some type =>
          have harguments : IsInert arguments := by
            refine h.of_subset fun c hc => ?_
            rw [(splitArguments?_eq_some_iff.mp hsplit).2.2]
            simp [hc]
          have hopen : IsInert "(".toList := by decide
          have hclose : IsInert ")".toList := by decide
          simp only [htype, ColumnType.textWith, String.toList_append, String.toList_ofList]
          exact (((isInert_ofWord? htype).1.append hopen).append harguments).append hclose
  | none =>
      cases htype : ColumnType.ofWord? cs with
      | none => simpa only [htype] using htext
      | some type =>
          obtain ⟨hname, harguments⟩ := isInert_ofWord? htype
          simp only [ColumnType.text, String.toList_append]
          exact hname.append harguments

theorem mem_of_mem_peelArrays {cs : List Char} : ∀ c ∈ (peelArrays cs).1, c ∈ cs := by
  fun_induction peelArrays cs with
  | case1 rest base count hpeel ih =>
      intro c hc
      rw [hpeel] at ih
      have hdrop := (List.dropWhile_sublist Text.isBlank).subset (ih c hc)
      exact List.mem_cons_of_mem ']' (List.mem_cons_of_mem '[' hdrop)
  | case2 cs _ => exact fun c hc => hc

theorem isInert_marks (count : Nat) :
    IsInert (String.join (List.replicate count "[]")).toList := by
  have hmark : IsInert "[]".toList := by decide
  rw [String.toList_join]
  induction count with
  | zero => exact ⟨List.not_mem_nil, List.not_mem_nil⟩
  | succ count ih =>
      rw [List.replicate_succ, List.flatMap_cons]
      exact hmark.append ih

theorem isInert_columnType {typeName : String} (h : IsInert typeName.toList) :
    IsInert (columnType typeName).toList := by
  have hlower : IsInert (Text.lower typeName).toList :=
    ⟨fun hmem => h.1 (Text.mem_of_mem_lower (by decide) hmem),
      fun hmem => h.2 (Text.mem_of_mem_lower (by decide) hmem)⟩
  have hbase : IsInert
      (peelArrays (Text.trim (Text.lower typeName).toList).reverse).1.reverse := by
    refine hlower.of_subset fun c hc => ?_
    have hpeeled := mem_of_mem_peelArrays c (List.mem_reverse.mp hc)
    exact Text.mem_of_mem_trim (List.mem_reverse.mp hpeeled)
  unfold columnType
  rw [String.toList_append]
  exact (isInert_baseType hbase).append (isInert_marks _)

theorem isInert_of_isTypeName {typeName : List Char} (h : Line.IsTypeName typeName) :
    IsInert typeName := by
  constructor
  · intro hmem
    exact absurd (h.forall_mem '"' hmem) (by decide)
  · intro hmem
    exact absurd (h.forall_mem ';' hmem) (by decide)

/-! ## Statements -/

/-- A name that can be put between quotes as it is. -/
def IsIdentifier (name : String) : Prop := name ≠ "" ∧ '"' ∉ name.toList

namespace Statement

theorem names_columnLine (column : Column) : names (columnLine column) = [column.name] := by
  unfold columnLine
  cases column.required <;> rfl

theorem names_primaryKeyLines (columns : List String) :
    (primaryKeyLines columns).flatMap names = columns := by
  have hnames : (columns.map fun column => [Token.name column]).flatMap names = columns := by
    simp [List.flatMap_map]
  unfold primaryKeyLines
  by_cases hempty : columns.isEmpty = true
  · rw [if_pos hempty, List.isEmpty_iff.mp hempty]
    rfl
  · rw [if_neg hempty, List.flatMap_singleton, names_append, names_append, names_separatedBy,
      hnames]
    simp

theorem areInert_columnLine {column : Column} (hname : '"' ∉ column.name.toList)
    (htype : Sql.IsInert column.type.toList) : AreInert (columnLine column) := by
  unfold columnLine
  rw [areInert_append]
  constructor
  · simp only [areInert_plain, areInert_name]
    exact ⟨by decide, hname, by decide, htype, areInert_nil⟩
  · split
    · exact areInert_plain.mpr ⟨by decide, areInert_nil⟩
    · exact areInert_nil

theorem areInert_primaryKeyLines {columns : List String}
    (h : ∀ column ∈ columns, '"' ∉ column.toList) :
    ∀ line ∈ primaryKeyLines columns, AreInert line := by
  have hnames : AreInert (separatedBy ", " (columns.map fun column => [.name column])) := by
    refine areInert_separatedBy (by decide) fun part hpart => ?_
    obtain ⟨column, hcolumn, rfl⟩ := List.mem_map.mp hpart
    simpa using h column hcolumn
  intro line hline
  unfold primaryKeyLines at hline
  split at hline
  · simp at hline
  · rw [List.mem_singleton.mp hline, areInert_append, areInert_append, areInert_plain,
      areInert_plain]
    exact ⟨⟨⟨by decide, areInert_nil⟩, hnames⟩, by decide, areInert_nil⟩

theorem areInert_uniqueLine {column : String} (h : '"' ∉ column.toList) :
    AreInert (uniqueLine column) := by
  rw [uniqueLine, areInert_plain, areInert_name, areInert_plain]
  exact ⟨by decide, h, by decide, areInert_nil⟩

/-- The lines between the parentheses of a table. -/
def tableLines (columns : List Column) (primaryKey unique : List String) : List (List Token) :=
  columns.map columnLine ++ primaryKeyLines primaryKey ++ unique.map uniqueLine

theorem names_tableLines (columns : List Column) (primaryKey unique : List String) :
    (tableLines columns primaryKey unique).flatMap names =
      columns.map (·.name) ++ primaryKey ++ unique := by
  have hunique : ∀ column, names (uniqueLine column) = [column] := fun _ => rfl
  simp only [tableLines, List.flatMap_append, List.flatMap_map, names_primaryKeyLines,
    names_columnLine, hunique, ← List.map_eq_flatMap, List.map_id']

theorem areInert_tableLines {columns : List Column} {primaryKey unique : List String}
    (hnames : ∀ name ∈ columns.map (·.name) ++ primaryKey ++ unique, '"' ∉ name.toList)
    (htypes : ∀ column ∈ columns, Sql.IsInert column.type.toList) :
    ∀ line ∈ tableLines columns primaryKey unique, AreInert line := by
  simp only [List.forall_mem_append, List.forall_mem_map] at hnames
  obtain ⟨⟨hcolumns, hprimary⟩, hunique⟩ := hnames
  simp only [tableLines, List.forall_mem_append, List.forall_mem_map]
  exact ⟨⟨fun column hmem => areInert_columnLine (hcolumns column hmem) (htypes column hmem),
    areInert_primaryKeyLines hprimary⟩,
    fun column hmem => areInert_uniqueLine (hunique column hmem)⟩

theorem isFramed_createTable {table : String} {columns : List Column}
    {primaryKey unique : List String}
    (hnames : ∀ name ∈ table :: columns.map (·.name) ++ primaryKey ++ unique, IsIdentifier name)
    (htypes : ∀ column ∈ columns, IsInert column.type.toList) :
    IsFramed (createTable table columns primaryKey unique).text
      (table :: columns.map (·.name) ++ primaryKey ++ unique) := by
  obtain ⟨htable, hlines⟩ := List.forall_mem_cons.mp fun name hmem => (hnames name hmem).2
  have htokens : AreInert ([.plain "CREATE TABLE IF NOT EXISTS ", .name table, .plain " (\n"] ++
      separatedBy ",\n" (tableLines columns primaryKey unique)) := by
    simp only [areInert_append, areInert_plain, areInert_name]
    exact ⟨⟨by decide, htable, by decide, areInert_nil⟩,
      areInert_separatedBy (by decide) (areInert_tableLines hlines htypes)⟩
  have hwritten : names ([.plain "CREATE TABLE IF NOT EXISTS ", .name table, .plain " (\n"] ++
      separatedBy ",\n" (tableLines columns primaryKey unique)) =
        table :: columns.map (·.name) ++ primaryKey ++ unique := by
    rw [names_append, names_separatedBy, names_tableLines]
    rfl
  exact isFramed_render htokens hwritten (fun name hmem => (hnames name hmem).1) (by decide)
    (by decide) (by decide)

theorem isFramed_addForeignKey {table constraint column refTable refColumn : String}
    (hnames : ∀ name ∈ [table, constraint, column, refTable, refColumn], IsIdentifier name) :
    IsFramed (addForeignKey table constraint column refTable refColumn).text
      [table, constraint, column, refTable, refColumn] := by
  have htokens : AreInert [.plain "ALTER TABLE ", .name table, .plain " ADD CONSTRAINT ",
      .name constraint, .plain " FOREIGN KEY (", .name column, .plain ") REFERENCES ",
      .name refTable, .plain " (", .name refColumn] := by
    simp only [List.forall_mem_cons] at hnames
    obtain ⟨htable, hconstraint, hcolumn, hrefTable, hrefColumn, -⟩ := hnames
    simp only [areInert_plain, areInert_name]
    exact ⟨by decide, htable.2, by decide, hconstraint.2, by decide, hcolumn.2, by decide,
      hrefTable.2, by decide, hrefColumn.2, areInert_nil⟩
  exact isFramed_render htokens rfl (fun name hmem => (hnames name hmem).1) (by decide) (by decide)
    (by decide)

theorem isFramed_dropTable {table : String} (htable : IsIdentifier table) :
    IsFramed (dropTable table).text [table] := by
  have htokens : AreInert [.plain "DROP TABLE IF EXISTS ", .name table] := by
    rw [areInert_plain, areInert_name]
    exact ⟨by decide, htable.2, areInert_nil⟩
  have hnonempty : ∀ name ∈ [table], name ≠ "" := List.forall_mem_singleton.mpr htable.1
  exact isFramed_render htokens rfl hnonempty (by decide) (by decide) (by decide)

end Statement

/-! ## Statements of a diagram -/

theorem isIdentifier_identifier {name : String} (h : Line.IsName name.toList) :
    IsIdentifier (Name.identifier name) := by
  have hname : name ≠ "" := by
    rintro rfl
    exact h.1 rfl
  exact ⟨Name.identifier_ne_empty hname,
    fun hmem => h.2 (Name.mem_of_mem_identifier (by decide) (by decide) hmem)⟩

theorem isIdentifier_tableName {entity : Entity} (h : entity.IsSpelled) :
    IsIdentifier (tableName entity) :=
  isIdentifier_identifier h.name

theorem isIdentifier_columnName {entity : Entity} {attr : Attribute} (h : entity.IsSpelled)
    (hattr : attr ∈ entity.attributes) : IsIdentifier (columnName attr) :=
  isIdentifier_identifier (h.attributes attr hattr).1.isName

theorem mem_attributes_of_primaryAttributes {entity : Entity} {attr : Attribute}
    {rest : List Attribute} (h : entity.primaryAttributes = attr :: rest) :
    attr ∈ entity.attributes := by
  have hmem : attr ∈ entity.primaryAttributes := by
    rw [h]
    exact List.mem_cons_self
  exact List.mem_of_mem_filter hmem

theorem isIdentifier_keyColumn {entity : Entity} (h : entity.IsSpelled) :
    IsIdentifier (keyColumn entity) := by
  unfold keyColumn
  split
  · next attr rest hprimary =>
      exact isIdentifier_columnName h (mem_attributes_of_primaryAttributes hprimary)
  · exact ⟨by decide, by decide⟩

theorem isIdentifier_constraint {table column : String} (htable : IsIdentifier table)
    (hcolumn : IsIdentifier column) : IsIdentifier ("fk_" ++ table ++ "_" ++ column) := by
  have hquote : '"' ∉ "fk_".toList ∧ '"' ∉ "_".toList := by decide
  constructor
  · intro hempty
    have hlist := congrArg String.toList hempty
    simp at hlist
  · simp only [String.toList_append, List.mem_append, not_or]
    exact ⟨⟨⟨hquote.1, htable.2⟩, hquote.2⟩, hcolumn.2⟩

/-- The names in the statement that ties an attribute to another entity. -/
theorem isIdentifier_reference {entity target : Entity} {attr : Attribute} (h : entity.IsSpelled)
    (hattr : attr ∈ entity.attributes) (htarget : target.IsSpelled) :
    ∀ name ∈ [tableName entity, "fk_" ++ tableName entity ++ "_" ++ columnName attr,
      columnName attr, tableName target, keyColumn target], IsIdentifier name := by
  have htable := isIdentifier_tableName h
  have hcolumn := isIdentifier_columnName h hattr
  simp only [List.forall_mem_cons]
  exact ⟨htable, isIdentifier_constraint htable hcolumn, hcolumn, isIdentifier_tableName htarget,
    isIdentifier_keyColumn htarget, by simp⟩

theorem referredTable?_eq_some_iff {column table : String} :
    referredTable? column = some table ↔ column = table ++ "_id" := by
  have hsuffix : column = table ++ "_id" ↔ column.toList = table.toList ++ ['_', 'i', 'd'] := by
    rw [← String.toList_inj, String.toList_append]
    rfl
  rw [hsuffix]
  simp only [referredTable?]
  constructor
  · intro h
    split at h
    · next hmark =>
        obtain ⟨before, hbefore⟩ := List.isSuffixOf_iff_suffix.mp hmark
        cases h
        simp [← hbefore]
    · contradiction
  · intro h
    simp [h]

theorem lookup_tablesOf (schema : Schema) (table : String) :
    (tablesOf schema).lookup table = schema.entities.find? (tableName · == table) := by
  unfold tablesOf
  induction schema.entities with
  | nil => rfl
  | cons entity entities ih =>
      rw [List.map_cons, List.lookup_cons, List.find?_cons, ih, Bool.beq_comm]

theorem reference?_tablesOf_eq_some_iff {schema : Schema} {column refTable refColumn : String} :
    reference? (tablesOf schema) column = some (refTable, refColumn) ↔
      column = refTable ++ "_id" ∧
        ∃ target, schema.entities.find? (tableName · == refTable) = some target ∧
          refColumn = keyColumn target := by
  constructor
  · intro h
    unfold reference? at h
    split at h
    · contradiction
    · next table htable =>
        rw [lookup_tablesOf] at h
        obtain ⟨target, htarget, hpair⟩ := Option.map_eq_some_iff.mp h
        cases hpair
        exact ⟨referredTable?_eq_some_iff.mp htable, target, htarget, rfl⟩
  · rintro ⟨hcolumn, target, htarget, rfl⟩
    simp only [reference?, referredTable?_eq_some_iff.mpr hcolumn, lookup_tablesOf, htarget,
      Option.map_some]

theorem exists_reference_of_mem_foreignKeys {schema : Schema} {statement : Statement}
    (h : statement ∈ foreignKeys schema) :
    ∃ entity ∈ schema.entities, ∃ attr ∈ entity.foreignAttributes, ∃ target,
      columnName attr = tableName target ++ "_id" ∧
        schema.entities.find? (tableName · == tableName target) = some target ∧
        statement = .addForeignKey (tableName entity)
          ("fk_" ++ tableName entity ++ "_" ++ columnName attr) (columnName attr)
          (tableName target) (keyColumn target) := by
  obtain ⟨source, hsource, hstatement⟩ := List.mem_filterMap.mp h
  obtain ⟨entity, hentity, hsource⟩ := List.mem_flatMap.mp hsource
  obtain ⟨attr, hattr, rfl⟩ := List.mem_map.mp hsource
  obtain ⟨⟨refTable, refColumn⟩, hreference, rfl⟩ := Option.map_eq_some_iff.mp hstatement
  obtain ⟨hcolumn, target, htarget, rfl⟩ := reference?_tablesOf_eq_some_iff.mp hreference
  have htable : tableName target = refTable := by simpa using List.find?_some htarget
  subst htable
  exact ⟨entity, hentity, attr, hattr, target, hcolumn, htarget, rfl⟩

theorem isFramed_createTable_of_isSpelled {entity : Entity} (h : entity.IsSpelled) :
    IsFramed (createTable entity).text
      (tableName entity :: entity.attributes.map columnName ++
        (entity.attributes.filter (·.isPrimary)).map columnName ++
        (entity.attributes.filter fun attr =>
          attr.isUnique && !attr.isPrimary).map columnName) := by
  have hcolumns : (entity.attributes.map columnOf).map (·.name) =
      entity.attributes.map columnName := List.map_map
  rw [← hcolumns]
  refine Statement.isFramed_createTable ?_ ?_
  · rw [hcolumns]
    simp only [List.cons_append, List.forall_mem_cons, List.forall_mem_append, List.forall_mem_map]
    refine ⟨isIdentifier_tableName h, ⟨?_, ?_⟩, ?_⟩
    · exact fun attr hmem => isIdentifier_columnName h hmem
    · exact fun attr hmem => isIdentifier_columnName h (List.mem_filter.mp hmem).1
    · exact fun attr hmem => isIdentifier_columnName h (List.mem_filter.mp hmem).1
  · intro column hmem
    obtain ⟨attr, hattr, rfl⟩ := List.mem_map.mp hmem
    exact isInert_columnType (isInert_of_isTypeName (h.attributes attr hattr).2)

/-- No diagram breaks out of the quotes: cut at its quotes, each statement generated for its schema
shows the identifiers meant for it, in order, and one semicolon outside them, which ends it. -/
theorem isFramed_statements_ofText (text : String) :
    let schema := (Reading.ofText text).result.schema
    List.Forall₂
        (fun entity statement =>
          IsFramed (Statement.text statement)
            (tableName entity :: entity.attributes.map columnName ++
              (entity.attributes.filter (·.isPrimary)).map columnName ++
              (entity.attributes.filter fun attr =>
                attr.isUnique && !attr.isPrimary).map columnName))
        schema.entities (createTables schema) ∧
      (∀ statement ∈ foreignKeys schema,
        ∃ entity ∈ schema.entities, ∃ attr ∈ entity.attributes, attr.isForeign = true ∧
          ∃ target, schema.entities.find? (tableName · == tableName target) = some target ∧
            columnName attr = tableName target ++ "_id" ∧
            IsFramed (Statement.text statement)
              [tableName entity, "fk_" ++ tableName entity ++ "_" ++ columnName attr,
                columnName attr, tableName target, keyColumn target]) ∧
      List.Forall₂ (fun entity statement => IsFramed (Statement.text statement) [tableName entity])
        schema.entities (dropTables schema) := by
  intro schema
  have hspelled : ∀ entity ∈ schema.entities, entity.IsSpelled :=
    fun entity hmem => Reading.isSpelled_of_mem_schema hmem
  refine ⟨?_, ?_, ?_⟩
  · rw [createTables, List.forall₂_map_right_iff, List.forall₂_same]
    exact fun entity hmem => isFramed_createTable_of_isSpelled (hspelled entity hmem)
  · intro statement hmem
    obtain ⟨entity, hentity, attr, hattr, target, hcolumn, htarget, rfl⟩ :=
      exists_reference_of_mem_foreignKeys hmem
    obtain ⟨hattr, hforeign⟩ := List.mem_filter.mp hattr
    have hreferred := hspelled target (List.mem_of_find?_eq_some htarget)
    exact ⟨entity, hentity, attr, hattr, hforeign, target, htarget, hcolumn,
      Statement.isFramed_addForeignKey
        (isIdentifier_reference (hspelled entity hentity) hattr hreferred)⟩
  · rw [dropTables, List.forall₂_map_right_iff, List.forall₂_same]
    exact fun entity hmem =>
      Statement.isFramed_dropTable (isIdentifier_tableName (hspelled entity hmem))

end EntityDiagram.Sql
