import EntityDiagram.Proofs.Sql.Binding

/-! # Key columns and changes of rows

A table may have a primary key of several columns, while a row is identified by the first of them
alone. A change of a row leaves out that one column, and sets each of the others when it is told to.
-/

namespace EntityDiagram.Sql

/-! ## The list of assignments -/

/-- The columns of the primary key that a statement declares. -/
def Statement.primaryKey : Statement → List String
  | createTable _ _ primaryKey _ => primaryKey
  | _ => []

namespace Query

/-- The items of the list of assignments: what stands between `SET` and `WHERE`, cut at the
commas. -/
def assignments (query : Query) : List (List Token) :=
  (((query.tokens.dropWhile (· != .plain " SET ")).drop 1).takeWhile
    (· != .plain " WHERE ")).splitOn (.plain ", ")

/-- Whether a column is set to a parameter. -/
def SetsToParam (query : Query) (column : String) : Prop :=
  ∃ number, [.name column, .plain " = ", .slot number] ∈ query.assignments

end Query

namespace Table

variable {table : Table}

theorem assignments_of_tokens {query : Query} {name : String} {items : List (List Token)}
    {condition : List Token}
    (htokens : query.tokens = [.plain "UPDATE ", .name name, .plain " SET "] ++
      separatedBy ", " items ++ .plain " WHERE " :: condition)
    (hne : items ≠ []) (hcomma : ∀ item ∈ items, .plain ", " ∉ item)
    (hwhere : ∀ item ∈ items, .plain " WHERE " ∉ item) : query.assignments = items := by
  have hinside : ∀ token ∈ separatedBy ", " items, (token != .plain " WHERE ") = true := by
    refine forall_mem_separatedBy (by decide) fun item hitem token htoken => ?_
    rw [bne_iff_ne]
    rintro rfl
    exact hwhere item hitem htoken
  have hlist : ((query.tokens.dropWhile (· != .plain " SET ")).drop 1).takeWhile
      (· != .plain " WHERE ") = separatedBy ", " items := by
    rw [htokens]
    simp [List.takeWhile_append_of_pos hinside]
  rw [Query.assignments, hlist]
  exact List.splitOn_intercalate _ hcomma hne

theorem assignments_update_of_ne_nil (id : Json) {row : Row}
    (hne : table.changedEntries row ≠ []) :
    (table.update id row).assignments =
      (table.changedEntries row).mapIdx fun index entry =>
        [.name entry.1, .plain " = ", .slot (index + 1)] := by
  apply assignments_of_tokens
  · rw [update]
    rw [changedEntries] at hne ⊢
    rw [if_neg (by simpa using hne)]
  · simpa using hne
  · exact forall_mem_mapIdx fun _ _ _ => by simp
  · exact forall_mem_mapIdx fun _ _ _ => by simp

theorem assignments_update_of_eq_nil (id : Json) {row : Row}
    (hnil : table.changedEntries row = []) :
    (table.update id row).assignments = [[.name table.key, .plain " = ", .name table.key]] := by
  apply assignments_of_tokens
  · rw [update]
    rw [changedEntries] at hnil
    rw [if_pos (by simpa using hnil)]
    rfl
  · simp
  · simp
  · simp

theorem mem_names_changedEntries {row : Row} {column : String} :
    column ∈ (table.changedEntries row).map (·.1) ↔
      column ∈ row.entries.map (·.1) ∧ column ∈ table.columns ∧ column ≠ table.key := by
  rw [changedEntries_eq_filter]
  simp only [List.mem_map, List.mem_filter, decide_eq_true_eq]
  constructor
  · rintro ⟨entry, ⟨hentry, hcolumn, hkey⟩, rfl⟩
    exact ⟨⟨entry, hentry, rfl⟩, hcolumn, hkey⟩
  · rintro ⟨⟨entry, hentry, rfl⟩, hcolumn, hkey⟩
    exact ⟨entry, ⟨hentry, hcolumn, hkey⟩, rfl⟩

/-- A change of a row sets the columns that the row names, but for the one that identifies it. -/
theorem setsToParam_update_iff {id : Json} {row : Row} {column : String} :
    (table.update id row).SetsToParam column ↔
      column ∈ row.entries.map (·.1) ∧ column ∈ table.columns ∧ column ≠ table.key := by
  rw [← mem_names_changedEntries]
  by_cases hnil : table.changedEntries row = []
  · simp [Query.SetsToParam, assignments_update_of_eq_nil id hnil, hnil]
  · rw [Query.SetsToParam, assignments_update_of_ne_nil id hnil]
    constructor
    · rintro ⟨number, hmem⟩
      obtain ⟨index, hindex, hitem⟩ := List.mem_mapIdx.mp hmem
      simp only [List.cons.injEq, Token.name.injEq] at hitem
      rw [← hitem.1]
      exact List.mem_map_of_mem (List.getElem_mem hindex)
    · intro hmem
      obtain ⟨entry, hentry, rfl⟩ := List.mem_map.mp hmem
      obtain ⟨index, hindex, rfl⟩ := List.getElem_of_mem hentry
      exact ⟨index + 1, List.mem_mapIdx.mpr ⟨index, hindex, rfl⟩⟩

/-- Where names can be put between quotes, the columns that are set to a parameter are those that
the text of the query sets to one. -/
theorem setsToParam_update_iff_readUpdate? (h : table.IsQuotable) {id : Json} {row : Row}
    {column : String} :
    (table.update id row).SetsToParam column ↔
      ∃ update value, (table.update id row).readUpdate? = some update ∧
        (column, .param value) ∈ update.assignments := by
  rw [setsToParam_update_iff, ← mem_names_changedEntries, table.readUpdate?_update h id row]
  by_cases hnil : table.changedEntries row = []
  · simp [hnil]
  · simp [hnil]

end Table

/-! ## Columns of the primary key -/

theorem key_ofEntity_iff {entity : Entity} {column : String}
    (h : column ∈ (createTable entity).primaryKey) :
    column = (Table.ofEntity entity).key ↔ (createTable entity).primaryKey.head? = some column := by
  have hkey : (createTable entity).primaryKey = entity.primaryAttributes.map columnName := rfl
  rw [hkey] at h ⊢
  unfold Table.ofEntity
  cases hprimary : entity.primaryAttributes with
  | nil => simp [hprimary] at h
  | cons attr rest => simp [eq_comm]

theorem mem_columns_of_mem_primaryKey {entity : Entity} {column : String}
    (h : column ∈ (createTable entity).primaryKey) :
    column ∈ (Table.ofEntity entity).columns := by
  obtain ⟨attr, hattr, rfl⟩ := List.mem_map.mp h
  exact List.mem_map_of_mem (List.mem_of_mem_filter hattr)

/-- A change of a row sets a column of the primary key exactly when the row names the column and it
is not the first of the key. So no change of a row touches the key of an entity exactly when all its
columns are the same. For entities of a diagram the text of the query says so too. -/
theorem update_sets_primaryKey_iff (entity : Entity) :
    let key := (createTable entity).primaryKey
    let update := fun (id : Json) (row : Row) => (Table.ofEntity entity).update id row
    (∀ (id : Json) (row : Row), ∀ column ∈ key, (update id row).SetsToParam column ↔
      column ∈ row.entries.map (·.1) ∧ key.head? ≠ some column) ∧
    ((∀ (id : Json) (row : Row), ∀ column ∈ key, ¬ (update id row).SetsToParam column) ↔
      ∀ column ∈ key, key.head? = some column) ∧
    (entity.IsSpelled → ∀ (id : Json) (row : Row) (column : String),
      (update id row).SetsToParam column ↔ ∃ change value,
        (update id row).readUpdate? = some change ∧ (column, .param value) ∈ change.assignments) := by
  intro key update
  have hsets : ∀ (id : Json) (row : Row), ∀ column ∈ key, (update id row).SetsToParam column ↔
      column ∈ row.entries.map (·.1) ∧ key.head? ≠ some column := by
    intro id row column hcolumn
    have hknown := mem_columns_of_mem_primaryKey hcolumn
    rw [Table.setsToParam_update_iff, ne_eq, ne_eq, key_ofEntity_iff hcolumn]
    simp [hknown, key]
  refine ⟨hsets, ?_, fun hspelled id row column =>
    Table.setsToParam_update_iff_readUpdate? (Table.isQuotable_ofEntity hspelled)⟩
  constructor
  · intro hnone column hcolumn
    -- A row that names this column alone.
    let row : Row := ⟨[(column, .null)], by simp⟩
    by_contra hfirst
    exact hnone .null row column hcolumn
      ((hsets .null row column hcolumn).mpr ⟨by simp [row], hfirst⟩)
  · intro hfirst id row column hcolumn hset
    exact ((hsets id row column hcolumn).mp hset).2 (hfirst column hcolumn)

/-- The lines of an order, which are identified by the order and the product together. -/
def orderLine : Entity where
  name := "LINE-ITEM"
  attributes :=
    [⟨"order_id", "int", [.primary, .foreign], none⟩,
      ⟨"product_id", "int", [.primary, .foreign], none⟩, ⟨"quantity", "int", [], none⟩]

def movedLine : Row :=
  ⟨[("product_id", .number (.integer 9)), ("quantity", .number (.integer 2))], by decide⟩

/-- The second column of a key is set. -/
theorem update_sets_second_key_column :
    let query := (Table.ofEntity orderLine).update (.number (.integer 7)) movedLine
    (createTable orderLine).primaryKey = ["order_id", "product_id"] ∧
      query.SetsToParam "product_id" ∧
      query.text = "UPDATE \"line_item\" SET \"product_id\" = $1, \"quantity\" = $2 " ++
        "WHERE \"order_id\" = $3 RETURNING *" :=
  ⟨by decide +kernel, ⟨1, by decide +kernel⟩, by decide +kernel⟩

end EntityDiagram.Sql
