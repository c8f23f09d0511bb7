import EntityDiagram.Proofs.Command.Outcome
import EntityDiagram.Proofs.Reading.Size
import EntityDiagram.Proofs.Schema.File

/-! # What commands print

A command that shows a schema, or a part of it, prints one value. It is written in printable ASCII
characters on lines of their own, and a reader of the output gets the value back, whatever
characters the names, labels and comments of the diagram hold.
-/

namespace EntityDiagram

open Json (Fits)

/-! ## Values that are printed -/

theorem Json.fits_ofNat {n : Nat} (h : n < Nat.pow 10 Number.maxDigits) (depth : Nat) :
    Fits depth (.ofNat n) := fits_integer (n := n) h depth

theorem Json.fits_ofTexts (depth : Nat) (texts : List String) : Fits (depth + 1) (.ofTexts texts) :=
  fits_list_map .text texts

theorem Attribute.fits_summary (depth : Nat) (attr : Attribute) :
    Fits (depth + 2) attr.summary := by
  refine .record ?_
  simp only [List.forall_mem_cons]
  exact ⟨.text _, .text _, .bool _, .bool _, .bool _, Json.fits_ofTexts _ _, fits_ofText? _ _,
    by simp⟩

theorem Entity.fits_summary (depth : Nat) (entity : Entity) : Fits (depth + 4) entity.summary := by
  refine .record ?_
  simp only [List.forall_mem_cons]
  exact ⟨.text _, fits_ofText? _ _, fits_list_map (Attribute.fits_summary depth) entity.attributes,
    Json.fits_ofTexts _ _, Json.fits_ofTexts _ _, by simp⟩

theorem Entity.fits_outline {entity : Entity}
    (h : entity.attributes.length < Nat.pow 10 Number.maxDigits) (depth : Nat) :
    Fits (depth + 1) entity.outline := by
  refine .record ?_
  simp only [List.forall_mem_cons]
  exact ⟨.text _, fits_ofText? _ _, Json.fits_ofNat h _, by simp⟩

theorem Relationship.fits_summary (depth : Nat) (relationship : Relationship) :
    Fits (depth + 1) relationship.summary := by
  refine .record ?_
  simp only [List.forall_mem_cons]
  exact ⟨.text _, .text _, .text _, .text _, .text _, .text _, .bool _, .text _, .text _, by simp⟩

namespace Schema

variable {schema : Schema}

theorem counts_le_size (schema : Schema) : schema.entities.length ≤ schema.size ∧
    schema.attributeCount ≤ schema.size ∧ schema.relationships.length ≤ schema.size := by
  unfold size
  omega

theorem length_attributes_le {entity : Entity} (h : entity ∈ schema.entities) :
    entity.attributes.length ≤ schema.attributeCount := by
  rw [attributeCount, List.flatMap_def]
  exact (List.sublist_flatten_of_mem (List.mem_map_of_mem h)).length_le

theorem length_relationshipsOf_le (schema : Schema) (name : Option String) :
    (schema.relationshipsOf name).length ≤ schema.relationships.length := by
  unfold relationshipsOf
  split
  · exact Nat.le_refl _
  · split
    · exact Nat.le_refl _
    · exact List.length_filter_le _ _

theorem fits_summary (h : schema.size < Nat.pow 10 Number.maxDigits) (depth : Nat) :
    Fits (depth + 6) schema.summary := by
  obtain ⟨hentities, hattributes, hrelationships⟩ := schema.counts_le_size
  have hcounts : Fits (depth + 5) (.record
      [("entity_count", .ofNat schema.entities.length),
       ("relationship_count", .ofNat schema.relationships.length),
       ("total_attributes", .ofNat schema.attributeCount)]) := by
    refine .record ?_
    simp only [List.forall_mem_cons]
    exact ⟨Json.fits_ofNat (Nat.lt_of_le_of_lt hentities h) _,
      Json.fits_ofNat (Nat.lt_of_le_of_lt hrelationships h) _,
      Json.fits_ofNat (Nat.lt_of_le_of_lt hattributes h) _, by simp⟩
  refine .record ?_
  simp only [List.forall_mem_cons]
  exact ⟨fits_list_map (Entity.fits_summary depth) schema.entities,
    fits_list_map (Relationship.fits_summary (depth + 3)) schema.relationships, hcounts, by simp⟩

theorem fits_details {name : String} {details : Json} (h : schema.details? name = some details)
    (depth : Nat) : Fits (depth + 5) details := by
  obtain ⟨entity, -, rfl⟩ := Option.map_eq_some_iff.mp h
  refine .record ?_
  simp only [List.forall_mem_cons]
  exact ⟨Entity.fits_summary depth entity,
    fits_list_map (Relationship.fits_summary (depth + 2)) (schema.relationshipsOf (some name)),
    by simp⟩

end Schema

theorem Sql.Table.mem_params_selectAll {table : Table} {options : ListOptions} {query : Query}
    (h : table.selectAll options = .ok query) :
    ∀ value ∈ query.params, value = options.limit ∨ value = options.offset := by
  unfold selectAll at h
  split at h
  · cases h
  · cases h
    intro value hvalue
    rcases List.mem_append.mp hvalue with hvalue | hvalue <;> split at hvalue <;> simp_all

theorem CommandLine.Scanned.fits_integer? (scanned : Scanned) (option : String) (depth : Nat) :
    Fits depth (.ofInt? (scanned.integer? option)) := by
  unfold Scanned.integer?
  cases scanned.value? option with
  | none => exact .null
  | some text =>
      rw [Option.bind_some]
      cases hinteger : Number.integer text with
      | error fault => exact .null
      | ok n => exact Json.fits_integer (Number.natAbs_lt_of_integer hinteger) depth

namespace Command

theorem fits_counted {depth : Nat} {items : List Json} (name : String)
    (hcount : items.length < Nat.pow 10 Number.maxDigits)
    (hitems : ∀ item ∈ items, Fits depth item) : Fits (depth + 2) (counted name items) := by
  refine .record ?_
  simp only [List.forall_mem_cons]
  exact ⟨.list hitems, Json.fits_ofNat hcount _, by simp⟩

theorem fits_queryJson {depth : Nat} (table : Sql.Table) {query : Sql.Query}
    (h : ∀ value ∈ query.params, Fits depth value) : Fits (depth + 3) (queryJson table query) := by
  have htable : Fits (depth + 2) (.record
      [("table_name", .text table.name), ("columns", .ofTexts table.columns),
        ("primary_key", .text table.key)]) := by
    refine .record ?_
    simp only [List.forall_mem_cons]
    exact ⟨.text _, Json.fits_ofTexts _ _, .text _, by simp⟩
  have hquery : Fits (depth + 2) (.record
      [("sql", .text query.text), ("params", .list query.params)]) := by
    refine .record ?_
    simp only [List.forall_mem_cons]
    exact ⟨.text _, .list h, by simp⟩
  refine .record ?_
  simp only [List.forall_mem_cons]
  exact ⟨htable, hquery, by simp⟩

/-- Whether a command prints a value of the schema if it finds what it looks for. -/
def printsJson : Command → Bool
  | parse _ none | entities _ | entity _ _ | relationships _ _ | queries _ _ _ => true
  | parse _ (some _) | validate _ | sql _ _ _ => false

/-- The value that a command prints of a schema, if it prints one. -/
def answer? : Command → Schema → Option Json
  | parse _ none, schema => some schema.summary
  | entities _, schema => some (counted "entities" schema.outlines)
  | entity name _, schema => schema.details? name
  | relationships _ name, schema =>
      some (counted "relationships" ((schema.relationshipsOf name).map (·.summary)))
  | queries name _ options, schema =>
      (schema.find? name).bind fun found =>
        ((Sql.Table.ofEntity found).selectAll options).toOption.map (queryJson (.ofEntity found))
  | parse _ (some _), _ | validate _, _ | sql _ _ _, _ => none

theorem fits_answer {words : List String} {command : Command} {schema : Schema} {value : Json}
    (hread : CommandLine.read words = .ok (.command command))
    (hsize : schema.size < Nat.pow 10 Number.maxDigits) (h : command.answer? schema = some value) :
    Fits Json.maxDepth value := by
  obtain ⟨hentities, hattributes, hrelationships⟩ := schema.counts_le_size
  cases command with
  | validate source => cases h
  | sql source out drop => cases h
  | parse source out =>
      cases out with
      | some path => cases h
      | none =>
          cases h
          exact Schema.fits_summary hsize 194
  | entities source =>
      cases h
      have hcount : schema.outlines.length < Nat.pow 10 Number.maxDigits := by
        rw [Schema.outlines, List.length_map]
        omega
      have hitems : ∀ item ∈ schema.outlines, Fits 198 item := by
        refine List.forall_mem_map.mpr fun entity hentity => Entity.fits_outline ?_ 197
        have hlength := Schema.length_attributes_le hentity
        omega
      exact fits_counted "entities" hcount hitems
  | entity name source => exact Schema.fits_details h 195
  | relationships source name =>
      cases h
      have hcount : ((schema.relationshipsOf name).map Relationship.summary).length <
          Nat.pow 10 Number.maxDigits := by
        have hlength := schema.length_relationshipsOf_le name
        rw [List.length_map]
        omega
      exact fits_counted "relationships" hcount
        (List.forall_mem_map.mpr fun relationship _ => relationship.fits_summary 197)
  | queries name source options =>
      obtain ⟨scanned, column, word, hoptions⟩ := CommandLine.exists_options_of_read hread
      obtain ⟨found, -, hanswer⟩ := Option.bind_eq_some_iff.mp h
      obtain ⟨query, hquery, rfl⟩ := Option.map_eq_some_iff.mp hanswer
      have hselect : (Sql.Table.ofEntity found).selectAll options = .ok query := by
        cases hselected : (Sql.Table.ofEntity found).selectAll options with
        | error error => simp [hselected, Except.toOption] at hquery
        | ok selected =>
            rw [hselected] at hquery
            exact congrArg Except.ok (Option.some.inj hquery)
      refine fits_queryJson _ fun value hvalue => ?_
      rcases Sql.Table.mem_params_selectAll hselect value hvalue with rfl | rfl
      · rw [hoptions]
        exact scanned.fits_integer? "--limit" 197
      · rw [hoptions]
        exact scanned.fits_integer? "--offset" 197

theorem isSome_answer?_iff {words : List String} {command : Command}
    (hread : CommandLine.read words = .ok (.command command)) (hjson : command.printsJson = true)
    (schema : Schema) : (command.answer? schema).isSome = true ↔ command.Finds schema := by
  cases command with
  | validate source => cases hjson
  | sql source out drop => cases hjson
  | parse source out =>
      cases out with
      | some path => cases hjson
      | none => exact iff_of_true rfl trivial
  | entities source => exact iff_of_true rfl trivial
  | relationships source name => exact iff_of_true rfl trivial
  | entity name source => simp [answer?, Finds, Schema.details?]
  | queries name source options =>
      obtain ⟨word, hdirection⟩ := CommandLine.exists_direction_of_read hread
      rw [answer?, Finds]
      cases schema.find? name with
      | none => rfl
      | some found =>
          obtain ⟨query, hquery⟩ := (Sql.Table.ofEntity found).exists_selectAll hdirection
          rw [Option.bind_some, hquery]
          rfl

/-! ## Printing -/

/-- The action prints a value and ends well, or has none and prints nothing. -/
structure Shows (value? : Option Json) (action : Run ExitCode) (session : Session) : Prop where
  value : ∀ value ∈ value?, ∃ after, action session = (.ok 0, after) ∧
    after.standardOutput = session.standardOutput ++ (value.render Json.ascii ++ "\n")
  nothing : value? = none → ∃ after, action session = (.ok 1, after) ∧
    after.standardOutput = session.standardOutput

theorem shows_printJson (value : Json) (session : Session) :
    Shows (some value) (printJson value) session := by
  have hplain : Text.dropSequences (value.render Json.ascii) = value.render Json.ascii := by
    refine Text.dropSequences_of_not_mem fun hmem => ?_
    have hascii := Json.ascii_of_mem_render value _ hmem
    revert hascii
    decide
  refine ⟨?_, fun h => by cases h⟩
  rintro _ ⟨⟩
  refine ⟨_, rfl, ?_⟩
  change session.standardOutput ++ Text.dropSequences (value.render Json.ascii) ++ "\n" = _
  rw [hplain, String.append_assoc]

theorem shows_refuse (message : String) (session : Session) :
    Shows none (refuse message) session :=
  ⟨by rintro _ ⟨⟩, fun _ => ⟨_, refuse_apply message session, rfl⟩⟩

theorem shows_showEntity (name : String) (schema : Schema) (session : Session) :
    Shows (schema.details? name) (showEntity name schema) session := by
  unfold showEntity
  cases schema.details? name with
  | none => exact shows_refuse _ session
  | some details => exact shows_printJson details session

theorem Shows.logAll_bind {value? : Option Json} {action : Run ExitCode}
    (messages : List Log.Message) {session : Session}
    (h : Shows value? action (Session.logAll messages session).2) :
    Shows value? (Session.logAll messages >>= fun _ => action) session := by
  have hlogged := Session.logAll_apply messages session
  have hout : (Session.logAll messages session).2.standardOutput = session.standardOutput :=
    ((Session.logs_logAll fun _ hmessage => hmessage).writesOnly session).standardOutput
  constructor
  · intro value hvalue
    obtain ⟨after, haction, hafter⟩ := h.value value hvalue
    exact ⟨after, (Run.bind_of_ok hlogged).trans haction, hout ▸ hafter⟩
  · intro hnone
    obtain ⟨after, haction, hafter⟩ := h.nothing hnone
    exact ⟨after, (Run.bind_of_ok hlogged).trans haction, hout ▸ hafter⟩

theorem shows_showQueries (name : String) (source : Source) (options : Sql.ListOptions)
    (schema : Schema) (session : Session) :
    Shows ((queries name source options).answer? schema) (showQueries name options schema)
      session := by
  rw [answer?, showQueries]
  cases schema.find? name with
  | none => exact shows_refuse _ session
  | some found =>
      refine .logAll_bind ((Sql.Table.ofEntity found).messages options) ?_
      rw [Option.bind_some]
      cases (Sql.Table.ofEntity found).selectAll options with
      | error error => exact shows_refuse _ _
      | ok query => exact shows_printJson _ _

theorem exists_shows {command : Command} (hjson : command.printsJson = true) :
    ∃ use, command.work = withSchema command.source use ∧
      ∀ schema session, Shows (command.answer? schema) (use schema) session := by
  cases command with
  | validate source => cases hjson
  | sql source out drop => cases hjson
  | parse source out =>
      cases out with
      | some path => cases hjson
      | none => exact ⟨showSchema none, rfl, fun schema => shows_printJson schema.summary⟩
  | entities source =>
      exact ⟨fun schema => printJson (counted "entities" schema.outlines), rfl,
        fun schema => shows_printJson (counted "entities" schema.outlines)⟩
  | entity name source => exact ⟨showEntity name, rfl, shows_showEntity name⟩
  | relationships source name =>
      exact ⟨fun schema => printJson
          (counted "relationships" ((schema.relationshipsOf name).map Relationship.summary)), rfl,
        fun schema => shows_printJson _⟩
  | queries name source options =>
      exact ⟨showQueries name options, rfl, shows_showQueries name source options⟩

end Command

namespace Session

/-- A command that shows something of the schema prints, in printable ASCII characters and line
feeds, a text from which the reader gets the printed value back; if the schema does not have what
the command looks for, it prints nothing. The reader takes integers of at most `Number.maxDigits`
digits, so the text must be too short for a count with more. -/
theorem output_reads_back {session : Session} {words : List String} {command : Command}
    {text : String} (h : session.Serves words command text) (hjson : command.printsJson = true)
    (hread : (Reading.ofText text).result.success = true)
    (hlength : 3 * (text.length + 1) < Nat.pow 10 Number.maxDigits) :
    let schema := (Reading.ofText text).result.schema
    ∃ code after output, session.execute words = (.finished code, after) ∧
      after.standardOutput = session.standardOutput ++ output ∧
      (∀ c ∈ output.toList, c = '\n' ∨ 0x20 ≤ c.toNat ∧ c.toNat ≤ 0x7E) ∧
      (command.Finds schema → code = 0 ∧
        ∃ value, command.answer? schema = some value ∧ Json.parse? output = some value) ∧
      (¬ command.Finds schema → code = 1 ∧ output = "") := by
  intro schema
  obtain ⟨use, hwork, hshows⟩ := Command.exists_shows hjson
  have hshows := hshows schema (session.afterReading command.source text)
  have hquiet := h.writesOnly_afterReading.2.standardOutput
  have hworks : command.work session.ready =
      use schema (session.afterReading command.source text) := by
    rw [hwork]
    exact h.withSchema_of_succeeded hread use
  have hfinds := Command.isSome_answer?_iff h.read hjson schema
  cases hanswer : command.answer? schema with
  | none =>
      rw [hanswer] at hshows hfinds
      obtain ⟨after, haction, hout⟩ := hshows.nothing rfl
      have hnot : ¬ command.Finds schema := fun hfound => by cases hfinds.mpr hfound
      refine ⟨1, after, "", h.execute_of_work (hworks.trans haction), ?_, by simp,
        fun hfound => absurd hfound hnot, fun _ => ⟨rfl, rfl⟩⟩
      rw [hout, hquiet, String.append_empty]
  | some value =>
      rw [hanswer] at hshows hfinds
      obtain ⟨after, haction, hout⟩ := hshows.value value rfl
      have hlayout : ∀ c ∈ "\n".toList, Json.isLayout c = true := by simp [Json.isLayout]
      have hsize := Nat.lt_of_le_of_lt (Reading.size_schema_ofText_le text) hlength
      have hfits := Command.fits_answer h.read hsize hanswer
      refine ⟨0, after, value.render Json.ascii ++ "\n", h.execute_of_work (hworks.trans haction),
        ?_, ?_, fun _ => ⟨rfl, value, rfl, ?_⟩, fun hnot => absurd (hfinds.mp rfl) hnot⟩
      · rw [hout, hquiet]
      · intro c hc
        rw [String.toList_append, List.mem_append] at hc
        rcases hc with hc | hc
        · simpa [Json.ascii] using Json.ascii_of_mem_render value c hc
        · exact .inl (by simpa using hc)
      · exact Json.parse?_render_append Json.isSound_ascii hfits hlayout

theorem output_reads_back_of_hard_name :
    let name := "a\\\x7f😀\x01"
    let text := "erDiagram\n\"" ++ name ++ "\" \x7b\nint id PK \"é\"\n\x7d"
    let session : Session := { web := [("u", .page 200 "OK" text)] }
    let words := ["queries", name, "--url=u", "--limit", "5", "--offset", "-07"]
    let command : Command := .queries name ⟨none, some "u"⟩
      { limit := .number (.integer 5), offset := .number (.integer (-7)) }
    session.Serves words command text ∧
      ∃ value after output, command.answer? (Reading.ofText text).result.schema = some value ∧
        session.execute words = (.finished 0, after) ∧ after.standardOutput = output ∧
        (∀ c ∈ output.toList, c = '\n' ∨ 0x20 ≤ c.toNat ∧ c.toNat ≤ 0x7E) ∧
        Json.parse? output = some value := by
  intro name text session words command
  have hread : CommandLine.read words = .ok (.command command) := by
    let scanned : CommandLine.Scanned :=
      ⟨[("--url", "u"), ("--limit", "5"), ("--offset", "-07")], [], [name]⟩
    have hleading : CommandLine.scanLeading words = .ok (false, words) := by decide +kernel
    have hscan : CommandLine.scan [("--url", .text), ("--limit", .integer), ("--offset", .integer),
        ("--order-by", .text), ("--desc", .flag)] words.tail = .ok scanned := by decide +kernel
    have hlimit : scanned.integer? "--limit" = some 5 := by decide +kernel
    have hoffset : scanned.integer? "--offset" = some (-7) := by decide +kernel
    have hsource : scanned.source none = ⟨none, some "u"⟩ := by decide +kernel
    have hcolumn : scanned.value? "--order-by" = none := by decide +kernel
    rw [CommandLine.read_cons hleading rfl hscan (by decide +kernel) (by decide +kernel)]
    simp only [CommandLine.assemble, scanned, CommandLine.withDiagram, Except.map]
    simp only [scanned] at hlimit hoffset hsource hcolumn
    rw [hlimit, hoffset, hsource, hcolumn]
    rfl
  have hserves : session.Serves words command text := by
    refine ⟨hread, by decide +kernel, by decide +kernel, ?_⟩
    rintro path ⟨⟩
  have hsuccess : (Reading.ofText text).result.success = true := by decide +kernel
  have hlength : 3 * (text.length + 1) < Nat.pow 10 Number.maxDigits :=
    (Number.length_digitsOf_le_iff (by decide)).mp (by decide +kernel)
  have hfinds : command.Finds (Reading.ofText text).result.schema := by
    change (Schema.find? _ _).isSome = true
    decide +kernel
  obtain ⟨code, after, output, hexecute, hout, hascii, hfound, -⟩ :=
    output_reads_back hserves rfl hsuccess hlength
  obtain ⟨rfl, value, hvalue, hparse⟩ := hfound hfinds
  refine ⟨hserves, value, after, output, hvalue, hexecute, ?_, hascii, hparse⟩
  rw [hout]
  exact String.empty_append

end Session

end EntityDiagram
