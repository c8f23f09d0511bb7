import EntityDiagram.Proofs.Sql.Binding

/-! # What the text of a query depends on

The text of a query is made from the table and from little else: the names of a row that are
columns, whether a limit and an offset are given, and the column and the direction of an order. So
two calls that agree on this give the same text. Values, and names that the table does not have,
leave no trace in it.
-/

namespace EntityDiagram.Sql

namespace Table

variable {table : Table}

/-! ## Rows -/

theorem mapIdx_eq_of_names_eq {α : Type} {entries others : List (String × Json)}
    (h : entries.map (·.1) = others.map (·.1)) (write : Nat → String → α) :
    (entries.mapIdx fun index entry => write index entry.1) =
      others.mapIdx fun index entry => write index entry.1 := by
  have hnames : ∀ entries : List (String × Json),
      (entries.mapIdx fun index entry => write index entry.1) =
        (entries.map (·.1)).mapIdx write := by
    intro entries
    simp [List.mapIdx_eq_zipIdx_map, List.zipIdx_map, Function.comp_def]
  rw [hnames, hnames, h]

theorem isEmpty_eq_of_names_eq {entries others : List (String × Json)}
    (h : entries.map (·.1) = others.map (·.1)) : entries.isEmpty = others.isEmpty := by
  rw [← List.isEmpty_map, h, List.isEmpty_map]

theorem tokens_insert_eq {row other : Row}
    (h : (table.knownEntries row).map (·.1) = (table.knownEntries other).map (·.1)) :
    (table.insert row).tokens = (table.insert other).tokens := by
  unfold insert
  generalize table.knownEntries row = entries at h
  generalize table.knownEntries other = others at h
  have hcolumns := congrArg (List.map fun name => [Token.name name]) h
  rw [List.map_map, List.map_map] at hcolumns
  have hslots := mapIdx_eq_of_names_eq h fun index _ => [Token.slot (index + 1)]
  dsimp only
  rw [isEmpty_eq_of_names_eq h]
  split
  · rfl
  · dsimp only [Function.comp_def] at hcolumns ⊢
    rw [hcolumns, hslots]

theorem tokens_update_eq (id otherId : Json) {row other : Row}
    (h : (table.changedEntries row).map (·.1) = (table.changedEntries other).map (·.1)) :
    (table.update id row).tokens = (table.update otherId other).tokens := by
  unfold changedEntries at h
  unfold update
  generalize (table.knownEntries row).filter (fun entry => entry.1 != table.key) = entries at h
  generalize (table.knownEntries other).filter (fun entry => entry.1 != table.key) = others at h
  have hlength : entries.length = others.length := by simpa using congrArg List.length h
  have hitems := mapIdx_eq_of_names_eq h fun index name =>
    [Token.name name, .plain " = ", .slot (index + 1)]
  dsimp only
  rw [isEmpty_eq_of_names_eq h]
  split
  · rfl
  · rw [hitems, hlength]

/-! ## Lists of rows -/

/-- The tokens that bound a list of rows. -/
def pageTokens (limited skipped : Bool) : List Token :=
  (if limited then [.plain " LIMIT ", .slot 1] else []) ++
    if skipped then [.plain " OFFSET ", .slot (if limited then 2 else 1)] else []

def directionWord (down : Bool) : String := if down then "DESC" else "ASC"

/-- The text of a list of rows in the order of a column, up to what bounds the list. -/
def orderedText (table : Table) (column : String) (down : Bool) : String :=
  "SELECT * FROM \"" ++ table.name ++ "\" ORDER BY \"" ++ column ++ "\" " ++ directionWord down

theorem tokens_selectAll {options : ListOptions} {query : Query}
    (h : table.selectAll options = .ok query) :
    ∃ order, table.orderTokens options = .ok order ∧
      query.tokens = [.plain "SELECT * FROM ", .name table.name] ++ order ++
        pageTokens options.limit.isGiven options.offset.isGiven := by
  unfold selectAll at h
  split at h
  · contradiction
  · next order horder =>
      cases h
      refine ⟨order, horder, ?_⟩
      unfold pageTokens
      cases options.limit.isGiven <;> simp

theorem orderTokens_cases {options : ListOptions} {order : List Token}
    (h : table.orderTokens options = .ok order) :
    (table.orderColumn? options.orderBy = none ∧ order = []) ∨
      ∃ column down, table.orderColumn? options.orderBy = some column ∧
        descending options.direction = .ok down ∧
        order = [.plain " ORDER BY ", .name column, .plain (" " ++ directionWord down)] := by
  unfold orderTokens at h
  split at h
  · next hcolumn =>
      cases h
      exact .inl ⟨hcolumn, rfl⟩
  · next column hcolumn =>
      right
      split at h
      · contradiction
      · next hdown =>
          cases h
          exact ⟨column, true, hcolumn, hdown, rfl⟩
      · next hdown =>
          cases h
          exact ⟨column, false, hcolumn, hdown, rfl⟩

theorem orderColumn?_eq_some {orderBy : Json} {column : String}
    (h : table.orderColumn? orderBy = some column) :
    orderBy = .text column ∧ column ∈ table.columns := by
  refine ⟨?_, mem_columns_of_orderColumn? h⟩
  unfold orderColumn? at h
  split at h
  · split at h
    · cases h
      rfl
    · contradiction
  · contradiction

theorem orderColumn?_eq_none {orderBy : Json}
    (h : ∀ column ∈ table.columns, orderBy ≠ .text column) :
    table.orderColumn? orderBy = none := by
  rw [Option.eq_none_iff_forall_ne_some]
  intro column hcolumn
  obtain ⟨horder, hmem⟩ := orderColumn?_eq_some hcolumn
  exact h column hmem horder

/-- The text of a list of rows: its order is that of a column of the table, up or down. -/
theorem text_selectAll_cases {options : ListOptions} {query : Query}
    (h : table.selectAll options = .ok query) :
    let page := render (pageTokens options.limit.isGiven options.offset.isGiven)
    (table.orderColumn? options.orderBy = none ∧
        query.text = "SELECT * FROM \"" ++ table.name ++ "\"" ++ page) ∨
      ∃ column down, table.orderColumn? options.orderBy = some column ∧
        descending options.direction = .ok down ∧
        query.text = table.orderedText column down ++ page := by
  intro page
  obtain ⟨order, horder, htokens⟩ := tokens_selectAll h
  rcases orderTokens_cases horder with ⟨hcolumn, rfl⟩ | ⟨column, down, hcolumn, hdown, rfl⟩
  · refine .inl ⟨hcolumn, ?_⟩
    rw [Query.text, htokens, ← String.toList_inj]
    simp [page, render, Token.render, String.toList_join]
  · refine .inr ⟨column, down, hcolumn, hdown, ?_⟩
    unfold orderedText
    rw [Query.text, htokens, ← String.toList_inj]
    simp [page, render, Token.render, String.toList_join]

/-- Options that ask for the same kind of list: bounds are given or not alike, and the order is the
same or by no column of the table. -/
structure Agree (table : Table) (options others : ListOptions) : Prop where
  limit : options.limit.isGiven = others.limit.isGiven
  offset : options.offset.isGiven = others.offset.isGiven
  orderBy : options.orderBy = others.orderBy ∨
    ∀ column ∈ table.columns, options.orderBy ≠ .text column ∧ others.orderBy ≠ .text column

theorem Agree.orderColumn? {options others : ListOptions} (h : table.Agree options others) :
    table.orderColumn? options.orderBy = table.orderColumn? others.orderBy := by
  rcases h.orderBy with heq | hunknown
  · rw [heq]
  · rw [orderColumn?_eq_none fun column hcolumn => (hunknown column hcolumn).1,
      orderColumn?_eq_none fun column hcolumn => (hunknown column hcolumn).2]

/-- The texts are the same, unless the rows are ordered by a column in two directions. -/
theorem Agree.text_selectAll {options others : ListOptions} {query other : Query}
    (h : table.Agree options others) (hquery : table.selectAll options = .ok query)
    (hother : table.selectAll others = .ok other) :
    query.text = other.text ∨
      ∃ column ∈ table.columns, ∃ down otherDown page,
        descending options.direction = .ok down ∧ descending others.direction = .ok otherDown ∧
        query.text = table.orderedText column down ++ page ∧
        other.text = table.orderedText column otherDown ++ page := by
  have hsame := h.orderColumn?
  rcases text_selectAll_cases hquery with ⟨hnone, htext⟩ | ⟨column, down, hsome, hdown, htext⟩ <;>
    rcases text_selectAll_cases hother with
      ⟨hnone', htext'⟩ | ⟨column', otherDown, hsome', hdown', htext'⟩
  · left
    rw [htext, htext', h.limit, h.offset]
  · simp [hsame, hsome'] at hnone
  · simp [hsame, hnone'] at hsome
  · obtain rfl : column = column' := by
      rw [hsame, hsome'] at hsome
      exact (Option.some.inj hsome).symm
    refine .inr ⟨column, mem_columns_of_orderColumn? hsome, down, otherDown, _, hdown, hdown',
      htext, ?_⟩
    rw [htext', h.limit, h.offset]

end Table

/-- What a caller passes in leaves no trace in the text of a query, but for what the table knows:
which of its columns a row names and in which order, whether bounds are given, and the column and
the direction of an order. -/
theorem text_independent_of_values (table : Table) :
    (∀ row other : Row,
      (row.entries.map (·.1)).filter (· ∈ table.columns) =
        (other.entries.map (·.1)).filter (· ∈ table.columns) →
      (table.insert row).text = (table.insert other).text) ∧
    (∀ (id otherId : Json) (row other : Row),
      (row.entries.map (·.1)).filter (fun name => name ∈ table.columns ∧ name ≠ table.key) =
        (other.entries.map (·.1)).filter (fun name => name ∈ table.columns ∧ name ≠ table.key) →
      (table.update id row).text = (table.update otherId other).text) ∧
    (∀ (options others : ListOptions) (query other : Query), table.Agree options others →
      table.selectAll options = .ok query → table.selectAll others = .ok other →
      query.text = other.text ∨
        ∃ column ∈ table.columns, ∃ down otherDown page,
          Table.descending options.direction = .ok down ∧
          Table.descending others.direction = .ok otherDown ∧
          query.text = table.orderedText column down ++ page ∧
          other.text = table.orderedText column otherDown ++ page) ∧
    ∀ id otherId : Json, (table.selectById id).text = (table.selectById otherId).text ∧
      (table.delete id).text = (table.delete otherId).text := by
  have hnames : ∀ (row : Row) (p : String → Bool),
      (row.entries.filter fun entry => p entry.1).map (·.1) = (row.entries.map (·.1)).filter p :=
    fun row p => List.filter_map.symm
  refine ⟨fun row other h => ?_, fun id otherId row other h => ?_,
    fun options others query other h => h.text_selectAll, fun id otherId => ⟨rfl, rfl⟩⟩
  · rw [← hnames, ← hnames, ← table.knownEntries_eq_filter, ← table.knownEntries_eq_filter] at h
    rw [Query.text, Query.text, Table.tokens_insert_eq h]
  · rw [← hnames, ← hnames, ← table.changedEntries_eq_filter,
      ← table.changedEntries_eq_filter] at h
    rw [Query.text, Query.text, Table.tokens_update_eq id otherId h]

def stockTable : Table := ⟨"stock", ["id", "name", "price"], "id"⟩

def plainRow : Row :=
  ⟨[("name", .text "nut"), ("id", .ofNat 7), ("price", .ofNat 3)], by decide⟩

/-- A row that tries to leave its place with values and names. -/
def hostileRow : Row :=
  ⟨[("x\" = 1; --", .null), ("name", .text "\"; DROP TABLE \"stock"), ("id", .text "$9"),
    ("price", .list [])], by decide⟩

def falling : ListOptions :=
  { limit := .ofNat 5, orderBy := .text "price", direction := .text "desc" }

def sideways : ListOptions :=
  { limit := .text "1; --", offset := .ofNat 0, orderBy := .text "price"
    direction := .text "\"; DROP" }

theorem text_independent_of_hostile_values :
    (stockTable.insert plainRow).text = (stockTable.insert hostileRow).text ∧
      (stockTable.update (.ofNat 7) plainRow).text =
        (stockTable.update (.text "7 OR 1 = 1") hostileRow).text ∧
      (∃ query other, stockTable.selectAll falling = .ok query ∧
        stockTable.selectAll sideways = .ok other ∧
        query.text = "SELECT * FROM \"stock\" ORDER BY \"price\" DESC LIMIT $1" ∧
        ∃ column ∈ stockTable.columns, ∃ down otherDown page,
          Table.descending falling.direction = .ok down ∧
          Table.descending sideways.direction = .ok otherDown ∧
          query.text = stockTable.orderedText column down ++ page ∧
          other.text = stockTable.orderedText column otherDown ++ page) ∧
      (stockTable.selectById .null).text = (stockTable.selectById (.text "$2")).text := by
  obtain ⟨hinsert, hupdate, hselect, hid⟩ := text_independent_of_values stockTable
  have hagree : stockTable.Agree falling sideways := ⟨rfl, rfl, .inl rfl⟩
  have hfalling : stockTable.selectAll falling = .ok
      ⟨[.plain "SELECT * FROM ", .name "stock", .plain " ORDER BY ", .name "price", .plain " DESC",
        .plain " LIMIT ", .slot 1], [.ofNat 5]⟩ := by rfl
  have hsideways : stockTable.selectAll sideways = .ok
      ⟨[.plain "SELECT * FROM ", .name "stock", .plain " ORDER BY ", .name "price", .plain " ASC",
        .plain " LIMIT ", .slot 1], [.text "1; --"]⟩ := by rfl
  refine ⟨hinsert _ _ (by decide), hupdate _ _ _ _ (by decide), ?_, (hid _ _).1⟩
  refine ⟨_, _, hfalling, hsideways, by decide +kernel, ?_⟩
  exact (hselect _ _ _ _ hagree hfalling hsideways).resolve_left (by decide +kernel)

end EntityDiagram.Sql
