import EntityDiagram.Proofs.Sql.Quoting
import Mathlib.Data.List.Nodup

/-! # Running the statements of a schema

A catalog holds the tables of a database with their columns, and their foreign keys. A statement
that adds a foreign key fails unless both columns exist and the name is new for its table. Run on
the empty catalog, the statements of a schema all succeed, as long as its tables and the columns of
each table have different names and each table has the column that others refer to.
-/

namespace EntityDiagram.Sql

/-! ## Catalogs -/

/-- A table of a catalog. -/
structure TableEntry where
  name : String
  columns : List String
  deriving Repr, DecidableEq

/-- A foreign key of a catalog: the table that has it, its name, its column, and the column it
refers to. -/
structure ForeignKey where
  table : String
  name : String
  column : String
  refTable : String
  refColumn : String
  deriving Repr, DecidableEq

structure Catalog where
  tables : List TableEntry := []
  foreignKeys : List ForeignKey := []
  deriving Repr, DecidableEq

namespace Catalog

def HasTable (catalog : Catalog) (table : String) : Prop :=
  ∃ entry ∈ catalog.tables, entry.name = table

def HasColumn (catalog : Catalog) (table column : String) : Prop :=
  ∃ entry ∈ catalog.tables, entry.name = table ∧ column ∈ entry.columns

def HasForeignKey (catalog : Catalog) (table name : String) : Prop :=
  ∃ key ∈ catalog.foreignKeys, key.table = table ∧ key.name = name

instance (catalog : Catalog) (table : String) : Decidable (catalog.HasTable table) :=
  inferInstanceAs (Decidable (∃ entry ∈ catalog.tables, _))

instance (catalog : Catalog) (table column : String) :
    Decidable (catalog.HasColumn table column) :=
  inferInstanceAs (Decidable (∃ entry ∈ catalog.tables, _))

instance (catalog : Catalog) (table name : String) :
    Decidable (catalog.HasForeignKey table name) :=
  inferInstanceAs (Decidable (∃ key ∈ catalog.foreignKeys, _))

/-- Removes a table with its foreign keys and with those that refer to it. -/
def drop (catalog : Catalog) (table : String) : Catalog where
  tables := catalog.tables.filter (·.name != table)
  foreignKeys := catalog.foreignKeys.filter fun key => key.table != table && key.refTable != table

/-- Adds a table, unless there is one with its name. -/
def create (catalog : Catalog) (entry : TableEntry) : Catalog :=
  if catalog.HasTable entry.name then catalog
  else { catalog with tables := catalog.tables ++ [entry] }

/-- Adds a foreign key, if both columns exist and the name is new for its table. -/
def addForeignKey? (catalog : Catalog) (key : ForeignKey) : Option Catalog :=
  if catalog.HasColumn key.table key.column ∧ catalog.HasColumn key.refTable key.refColumn ∧
      ¬ catalog.HasForeignKey key.table key.name then
    some { catalog with foreignKeys := catalog.foreignKeys ++ [key] }
  else none

/-- The catalog after a statement, unless the statement fails. -/
def execute (catalog : Catalog) : Statement → Option Catalog
  | .createTable table columns _ _ => some (catalog.create ⟨table, columns.map (·.name)⟩)
  | .addForeignKey table constraint column refTable refColumn =>
      catalog.addForeignKey? ⟨table, constraint, column, refTable, refColumn⟩
  | .dropTable table => some (catalog.drop table)

/-- The catalog after statements that all succeed. -/
def run (catalog : Catalog) (statements : List Statement) : Option Catalog :=
  statements.foldlM execute catalog

end Catalog

/-! ## The catalog of a schema -/

def ForeignKey.statement (key : ForeignKey) : Statement :=
  .addForeignKey key.table key.name key.column key.refTable key.refColumn

/-- The foreign key of an attribute: its column is named for the table that it refers to. -/
def foreignKeyOf? (schema : Schema) (entity : Entity) (attr : Attribute) : Option ForeignKey :=
  (schema.entities.find? (tableName · ++ "_id" == columnName attr)).map fun target =>
    ⟨tableName entity, "fk_" ++ tableName entity ++ "_" ++ columnName attr, columnName attr,
      tableName target, keyColumn target⟩

def tableEntry (entity : Entity) : TableEntry :=
  ⟨tableName entity, entity.attributes.map columnName⟩

/-- The catalog that a schema describes. -/
def Catalog.ofSchema (schema : Schema) : Catalog where
  tables := schema.entities.map tableEntry
  foreignKeys := schema.entities.flatMap fun entity =>
    entity.foreignAttributes.filterMap (foreignKeyOf? schema entity)

theorem keyColumn_mem {entity : Entity}
    (h : (∃ attr ∈ entity.attributes, attr.isPrimary = true) ∨
      "id" ∈ entity.attributes.map columnName) :
    keyColumn entity ∈ entity.attributes.map columnName := by
  unfold keyColumn
  cases hprimary : entity.primaryAttributes with
  | cons attr rest => exact List.mem_map_of_mem (mem_attributes_of_primaryAttributes hprimary)
  | nil =>
      refine h.resolve_left ?_
      rintro ⟨attr, hattr, hkey⟩
      exact List.filter_eq_nil_iff.mp hprimary attr hattr hkey

theorem append_id_beq (first second : String) :
    (first ++ "_id" == second ++ "_id") = (first == second) := by
  rw [Bool.eq_iff_iff, beq_iff_eq, beq_iff_eq, ← String.toList_inj, String.toList_append,
    String.toList_append, List.append_cancel_right_eq, String.toList_inj]

/-- Cutting `_id` off a column and looking the rest up finds the entity whose table gives the column
its name. -/
theorem reference?_tablesOf (schema : Schema) (column : String) :
    reference? (tablesOf schema) column =
      (schema.entities.find? (tableName · ++ "_id" == column)).map fun target =>
        (tableName target, keyColumn target) := by
  cases htarget : schema.entities.find? (tableName · ++ "_id" == column) with
  | some target =>
      have hcolumn : tableName target ++ "_id" = column := by simpa using List.find?_some htarget
      subst hcolumn
      rw [Option.map_some, reference?_tablesOf_eq_some_iff]
      refine ⟨rfl, target, ?_, rfl⟩
      simpa only [append_id_beq] using htarget
  | none =>
      rw [Option.map_none, Option.eq_none_iff_forall_ne_some]
      rintro ⟨refTable, refColumn⟩ hreference
      obtain ⟨hcolumn, target, hfound, -⟩ := reference?_tablesOf_eq_some_iff.mp hreference
      have htable : tableName target = refTable := by simpa using List.find?_some hfound
      have hother := List.find?_eq_none.mp htarget target (List.mem_of_find?_eq_some hfound)
      rw [htable, hcolumn] at hother
      exact hother (beq_self_eq_true _)

theorem foreignKeys_eq_map_statement (schema : Schema) :
    foreignKeys schema = (Catalog.ofSchema schema).foreignKeys.map (·.statement) := by
  have hkey : ∀ (entity : Entity) (attr : Attribute),
      foreignKey? schema ⟨tableName entity, columnName attr⟩ =
        (foreignKeyOf? schema entity attr).map (·.statement) := by
    intro entity attr
    rw [foreignKey?, reference?_tablesOf, foreignKeyOf?, Option.map_map, Option.map_map]
    rfl
  simp only [foreignKeys, foreignColumns, Catalog.ofSchema, List.filterMap_flatMap,
    List.filterMap_map, List.map_flatMap, List.map_filterMap, Function.comp_def, hkey]

/-! ## Running lists of statements -/

namespace Catalog

theorem run_cons {catalog next : Catalog} {statement : Statement} (statements : List Statement)
    (h : catalog.execute statement = some next) :
    catalog.run (statement :: statements) = next.run statements := by
  rw [run, List.foldlM_cons, h]
  rfl

theorem run_append {catalog next : Catalog} {statements : List Statement} (more : List Statement)
    (h : catalog.run statements = some next) :
    catalog.run (statements ++ more) = next.run more := by
  rw [run, List.foldlM_append]
  rw [run] at h
  rw [h]
  rfl

theorem run_createTables {catalog : Catalog} {entities : List Entity}
    (h : (catalog.tables.map (·.name) ++ entities.map tableName).Nodup) :
    catalog.run (entities.map createTable) =
      some { catalog with tables := catalog.tables ++ entities.map tableEntry } := by
  induction entities generalizing catalog with
  | nil =>
      rw [List.map_nil, List.map_nil, List.append_nil]
      rfl
  | cons entity entities ih =>
      have hfresh : ¬ catalog.HasTable (tableName entity) := by
        rintro ⟨entry, hentry, hname⟩
        rw [List.map_cons, List.nodup_append] at h
        exact h.2.2 _ (List.mem_map.mpr ⟨entry, hentry, rfl⟩) _ List.mem_cons_self hname
      have hstep : catalog.execute (createTable entity) =
          some { catalog with tables := catalog.tables ++ [tableEntry entity] } := by
        rw [createTable, execute, List.map_map]
        exact congrArg some (if_neg hfresh)
      rw [List.map_cons, run_cons _ hstep, ih (by simpa [tableEntry] using h)]
      simp

theorem run_foreignKeys {catalog : Catalog} {keys : List ForeignKey}
    (hcolumns : ∀ key ∈ keys, catalog.HasColumn key.table key.column ∧
      catalog.HasColumn key.refTable key.refColumn)
    (hnames : ((catalog.foreignKeys ++ keys).map fun key => (key.table, key.name)).Nodup) :
    catalog.run (keys.map (·.statement)) =
      some { catalog with foreignKeys := catalog.foreignKeys ++ keys } := by
  induction keys generalizing catalog with
  | nil =>
      rw [List.map_nil, List.append_nil]
      rfl
  | cons key keys ih =>
      obtain ⟨⟨hcolumn, href⟩, hrest⟩ := List.forall_mem_cons.mp hcolumns
      have hfresh : ¬ catalog.HasForeignKey key.table key.name := by
        rintro ⟨other, hother, htable, hname⟩
        rw [List.map_append, List.nodup_append] at hnames
        refine hnames.2.2 (key.table, key.name) (List.mem_map.mpr ⟨other, hother, ?_⟩) _
          List.mem_cons_self rfl
        rw [htable, hname]
      have hstep : catalog.execute key.statement =
          some { catalog with foreignKeys := catalog.foreignKeys ++ [key] } :=
        if_pos ⟨hcolumn, href, hfresh⟩
      -- the columns are looked up in the tables, which no foreign key changes
      have hnext := @ih { catalog with foreignKeys := catalog.foreignKeys ++ [key] } hrest
        (by simpa using hnames)
      rw [List.map_cons, run_cons _ hstep, hnext]
      simp

theorem run_dropTables {catalog : Catalog} {names : List String}
    (htables : ∀ entry ∈ catalog.tables, entry.name ∈ names)
    (hkeys : ∀ key ∈ catalog.foreignKeys, key.table ∈ names) :
    catalog.run (names.map .dropTable) = some {} := by
  induction names generalizing catalog with
  | nil =>
      have hnone : catalog = {} := by
        obtain ⟨tables, foreignKeys⟩ := catalog
        have htables' : tables = [] := List.eq_nil_iff_forall_not_mem.mpr fun entry hentry =>
          List.not_mem_nil (htables entry hentry)
        have hkeys' : foreignKeys = [] := List.eq_nil_iff_forall_not_mem.mpr fun key hkey =>
          List.not_mem_nil (hkeys key hkey)
        rw [htables', hkeys']
      rw [hnone]
      rfl
  | cons name names ih =>
      have hstep : catalog.execute (.dropTable name) = some (catalog.drop name) := rfl
      rw [List.map_cons, run_cons _ hstep]
      apply ih
      · intro entry hentry
        obtain ⟨hmem, hne⟩ := List.mem_filter.mp hentry
        exact (List.mem_cons.mp (htables entry hmem)).resolve_left (by simpa using hne)
      · intro key hkey
        obtain ⟨hmem, hne⟩ := List.mem_filter.mp hkey
        rw [Bool.and_eq_true] at hne
        exact (List.mem_cons.mp (hkeys key hmem)).resolve_left (by simpa using hne.1)

/-! ## The statements of a schema -/

theorem exists_of_mem_foreignKeys_ofSchema {schema : Schema} {key : ForeignKey}
    (h : key ∈ (ofSchema schema).foreignKeys) :
    ∃ entity ∈ schema.entities, ∃ attr ∈ entity.attributes, ∃ target ∈ schema.entities,
      key = ⟨tableName entity, "fk_" ++ tableName entity ++ "_" ++ columnName attr, columnName attr,
        tableName target, keyColumn target⟩ := by
  obtain ⟨entity, hentity, hkey⟩ := List.mem_flatMap.mp h
  obtain ⟨attr, hattr, hsome⟩ := List.mem_filterMap.mp hkey
  obtain ⟨target, htarget, rfl⟩ := Option.map_eq_some_iff.mp hsome
  exact ⟨entity, hentity, attr, List.mem_of_mem_filter hattr, target,
    List.mem_of_find?_eq_some htarget, rfl⟩

theorem hasColumn_of_mem {schema : Schema} {entity : Entity} {column : String}
    (hentity : entity ∈ schema.entities) (hcolumn : column ∈ entity.attributes.map columnName) :
    HasColumn { tables := schema.entities.map tableEntry } (tableName entity) column :=
  ⟨tableEntry entity, List.mem_map_of_mem hentity, rfl, hcolumn⟩

/-- The name of a foreign key is made of its table and its column, and so is used once. -/
theorem nodup_foreignKeys_ofSchema {schema : Schema}
    (htables : (schema.entities.map tableName).Nodup)
    (hcolumns : ∀ entity ∈ schema.entities, (entity.attributes.map columnName).Nodup) :
    ((ofSchema schema).foreignKeys.map fun key => (key.table, key.name)).Nodup := by
  have hvalue : ∀ {entity : Entity} {attr : Attribute} {pair : String × String},
      pair ∈ (foreignKeyOf? schema entity attr).map (fun key => (key.table, key.name)) →
        pair = (tableName entity, "fk_" ++ tableName entity ++ "_" ++ columnName attr) := by
    intro entity attr pair hpair
    rw [foreignKeyOf?, Option.map_map] at hpair
    obtain ⟨target, -, rfl⟩ := Option.map_eq_some_iff.mp hpair
    rfl
  simp only [ofSchema, List.map_flatMap, List.map_filterMap]
  rw [List.nodup_flatMap]
  constructor
  · intro entity hentity
    have hattributes : (entity.foreignAttributes.map columnName).Nodup :=
      (hcolumns entity hentity).sublist (List.filter_sublist.map columnName)
    refine List.pairwise_filterMap.mpr ((List.pairwise_map.mp hattributes).imp ?_)
    intro first second hne pair hfirst other hsecond hpair
    have hname := (Prod.mk.inj ((hvalue hfirst).symm.trans (hpair.trans (hvalue hsecond)))).2
    rw [← String.toList_inj] at hname
    simp only [String.toList_append, List.append_cancel_left_eq, String.toList_inj] at hname
    exact hne hname
  · refine (List.pairwise_map.mp htables).imp ?_
    intro first second hne pair hfirst hsecond
    obtain ⟨attr, -, hattr⟩ := List.mem_filterMap.mp hfirst
    obtain ⟨other, -, hother⟩ := List.mem_filterMap.mp hsecond
    have htable := (Prod.mk.inj ((hvalue hattr).symm.trans (hvalue hother))).1
    exact hne htable

end Catalog

/-- The tables are created before any foreign key refers to them, in whatever order they stand. -/
theorem run_createTables_foreignKeys {schema : Schema}
    (htables : (schema.entities.map tableName).Nodup)
    (hcolumns : ∀ entity ∈ schema.entities, (entity.attributes.map columnName).Nodup)
    (hkeys : ∀ entity ∈ schema.entities,
      (∃ attr ∈ entity.attributes, attr.isPrimary = true) ∨
        "id" ∈ entity.attributes.map columnName) :
    Catalog.run {} (createTables schema ++ foreignKeys schema) = some (.ofSchema schema) := by
  have hcreate : Catalog.run {} (createTables schema) =
      some { tables := schema.entities.map tableEntry } := Catalog.run_createTables htables
  rw [Catalog.run_append _ hcreate, foreignKeys_eq_map_statement]
  refine Catalog.run_foreignKeys ?_ (Catalog.nodup_foreignKeys_ofSchema htables hcolumns)
  intro key hkey
  obtain ⟨entity, hentity, attr, hattr, target, htarget, rfl⟩ :=
    Catalog.exists_of_mem_foreignKeys_ofSchema hkey
  exact ⟨Catalog.hasColumn_of_mem hentity (List.mem_map_of_mem hattr),
    Catalog.hasColumn_of_mem htarget (keyColumn_mem (hkeys target htarget))⟩

/-- A table goes with the foreign keys at both of its ends. -/
theorem run_dropTables_ofSchema (schema : Schema) :
    (Catalog.ofSchema schema).run (dropTables schema) = some {} := by
  have hdrop : dropTables schema = (schema.entities.map tableName).map .dropTable := by
    rw [List.map_map]
    rfl
  rw [hdrop]
  apply Catalog.run_dropTables
  · intro entry hentry
    obtain ⟨entity, hentity, rfl⟩ := List.mem_map.mp hentry
    exact List.mem_map_of_mem hentity
  · intro key hkey
    obtain ⟨entity, hentity, attr, -, target, -, rfl⟩ :=
      Catalog.exists_of_mem_foreignKeys_ofSchema hkey
    exact List.mem_map_of_mem hentity

/-- Each statement finds what it needs: the tables are created before any foreign key refers to
them, in whatever order they stand, and a table goes with the foreign keys at both of its ends. -/
theorem run_statements_of_schema (schema : Schema)
    (htables : (schema.entities.map tableName).Nodup)
    (hcolumns : ∀ entity ∈ schema.entities, (entity.attributes.map columnName).Nodup)
    (hkeys : ∀ entity ∈ schema.entities,
      (∃ attr ∈ entity.attributes, attr.isPrimary = true) ∨
        "id" ∈ entity.attributes.map columnName) :
    Catalog.run {} (createTables schema ++ foreignKeys schema) = some (.ofSchema schema) ∧
      (Catalog.ofSchema schema).run (dropTables schema) = some {} :=
  ⟨run_createTables_foreignKeys htables hcolumns hkeys, run_dropTables_ofSchema schema⟩

/-- Lines of orders, which refer to tables declared after them and to each other, under a key of two
columns. Products have no key but a column `id`. -/
def orderLines : Schema where
  entities := [
    { name := "OrderLine"
      attributes := [⟨"orderId", "int", [.primary, .foreign], none⟩,
        ⟨"productId", "int", [.primary, .foreign], none⟩,
        ⟨"orderLineId", "int", [.foreign], none⟩] },
    { name := "Order", attributes := [⟨"number", "int", [.primary], none⟩] },
    { name := "Product", attributes := [⟨"ID", "int", [], none⟩] }]

theorem run_statements_of_orderLines :
    (Catalog.ofSchema orderLines).foreignKeys.map (fun key => (key.column, key.refTable)) =
        [("order_id", "order"), ("product_id", "product"), ("order_line_id", "order_line")] ∧
      Catalog.run {} (createTables orderLines ++ foreignKeys orderLines) =
        some (.ofSchema orderLines) ∧
      (Catalog.ofSchema orderLines).run (dropTables orderLines) = some {} :=
  ⟨by decide +kernel, run_statements_of_schema orderLines (by decide +kernel) (by decide +kernel)
    (by decide +kernel)⟩

end EntityDiagram.Sql
