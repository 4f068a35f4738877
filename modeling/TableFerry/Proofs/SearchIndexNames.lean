import TableFerry.Proofs.IndexNameLengths
/-! How long the names of search indexes are. Their names are checked before they have the prefix, with a reserve of
three characters, and cut with the reserve of ordinary index names: so one length of names is let through that the
prefix makes a character too long. -/

namespace TableFerry.Compiler

variable (c : Compiler)

/-- An ASCII character that is neither blank nor a point. -/
def IsBare (ch : Char) : Prop := ch.toNat < 128 ∧ Text.isBlankChar ch = false ∧ ch ≠ '.'

instance (ch : Char) : Decidable (IsBare ch) := inferInstanceAs (Decidable (_ ∧ _))

theorem IsSuffix.isBare {ch : Char} (suffix : IsSuffix ch) : IsBare ch := by
  have each : ∀ n < 128, IsSuffix (Char.ofNat n) → IsBare (Char.ofNat n) := by decide
  exact Text.forall_ascii (motive := fun ch => IsSuffix ch → IsBare ch) each suffix.isAscii suffix

/-- A text of such characters only. -/
def Bare (name : String) : Prop := ∀ ch ∈ name.toList, IsBare ch

instance (name : String) : Decidable (Bare name) := List.decidableBAll _ name.toList

theorem Bare.isAscii {name : String} (bare : Bare name) : Text.IsAscii name.toList :=
  fun ch member => (bare ch member).1

theorem Bare.plain {name : String} (bare : Bare name) : Text.Plain name :=
  fun ch member => (bare ch member).2

theorem Bare.append {before after : String} (front : Bare before) (back : Bare after) : Bare (before ++ after) := by
  rw [Bare, String.toList_append]
  exact List.forall_mem_append.mpr ⟨front, back⟩

theorem Bare.upper {name : String} (bare : Bare name) : Bare (Text.upper name) := by
  have each : ∀ n < 128, IsBare (Char.ofNat n) → IsBare (Char.ofNat n).toUpper := by decide
  rw [Bare, Text.upper, String.toList_ofList, Text.upperChars_ascii bare.isAscii, List.forall_mem_map]
  intro ch member
  exact Text.forall_ascii (motive := fun ch => IsBare ch → IsBare ch.toUpper) each (bare ch member).1 (bare ch member)

/-- A name with ASCII characters only, and without points. -/
def Undotted (name : String) : Prop := ∀ ch ∈ name.toList, ch.toNat < 128 ∧ ch ≠ '.'

instance (name : String) : Decidable (Undotted name) := List.decidableBAll _ name.toList

theorem Undotted.bare_removeBlanks {name : String} (undotted : Undotted name) : Bare (Text.removeBlanks name) := by
  intro ch member
  rw [Text.removeBlanks, String.toList_ofList, List.mem_filter] at member
  obtain ⟨ascii, single⟩ := undotted ch member.1
  exact ⟨ascii, by simpa using member.2, single⟩

theorem bare_indexPrefix : Bare c.engine.indexPrefix := by
  cases c.engine <;> decide

theorem bare_cutName (drawn reserved : Nat) {full : String} (bare : Bare full) :
    Bare (c.cutName drawn reserved full) := by
  intro ch member
  rcases c.mem_cutName member with kept | rfl | suffix
  · exact bare ch kept
  · decide
  · exact suffix.isBare

/-- The name of a search index before it is cut and behind its prefix. -/
def searchName (table : Table) (column : Column) : String :=
  Text.upper (Text.removeBlanks table.name) ++ "_" ++ Text.removeBlanks column.name

/-- The statement that creates a search index under a name. -/
def searchCreation (table : Table) (column : Column) (written : String) : String :=
  "CREATE SEARCH INDEX " ++ written ++ " ON " ++ c.qualify table.name ++ " (" ++ c.wrap column.name ++ ") FOR JSON"

/-- The name of a search index behind its prefix, cut only if the limit leaves less than three characters. -/
def shownSearchName (drawn : Nat) (table : Table) (column : Column) : String :=
  let full := searchName table column
  if c.maxNameLength < full.length + 3 then c.cutName drawn c.engine.indexPrefix.length full else full

theorem run_searchIndexDdl (table : Table) (column : Column) (draft : Draft) :
    ∃ after, (c.searchIndexDdl table column).run draft = (.ok (c.searchCreation table column
      (c.qualify (c.engine.indexPrefix ++ c.shownSearchName draft.drawn table column))), after) := by
  have exceeds : ((searchName table column).length : Int) > (c.maxNameLength : Int) - 3 ↔
      c.maxNameLength < (searchName table column).length + 3 := by omega
  unfold searchIndexDdl
  dsimp only
  split
  · rename_i exceeding
    obtain ⟨after, ran⟩ := c.run_truncate c.room (searchName table column) table.name draft
    rw [shownSearchName, if_pos (exceeds.mp exceeding)]
    exact ⟨after, Drafting.run_bind ran⟩
  · rename_i short
    rw [shownSearchName, if_neg (exceeds.not.mp short)]
    exact ⟨draft, rfl⟩

theorem bare_searchName {table : Table} {column : Column} (table_undotted : Undotted table.name)
    (column_undotted : Undotted column.name) : Bare (searchName table column) :=
  (table_undotted.bare_removeBlanks.upper.append (by decide)).append column_undotted.bare_removeBlanks

theorem bare_shownSearchName (drawn : Nat) {table : Table} {column : Column} (bare : Bare (searchName table column)) :
    Bare (c.shownSearchName drawn table column) := by
  unfold shownSearchName
  dsimp only
  split
  · exact c.bare_cutName drawn _ bare
  · exact bare

/-- The check leaves no room for the last character of the prefix. -/
theorem length_shownSearchName (oracle : c.engine = .oracle) (drawn : Nat) (table : Table) (column : Column) :
    let length := (c.engine.indexPrefix ++ c.shownSearchName drawn table column).length
    (length ≤ c.maxNameLength ↔ (searchName table column).length + 3 ≠ c.maxNameLength) ∧
      length ≤ c.maxNameLength + 1 := by
  have prefix_length : c.engine.indexPrefix.length = 4 := by rw [oracle]; rfl
  have room := c.room
  intro length
  have total : length = c.engine.indexPrefix.length + (c.shownSearchName drawn table column).length :=
    String.length_append ..
  rw [shownSearchName] at total
  split at total
  · -- the cut leaves room for the whole prefix
    rename_i long
    have exceeds : c.maxNameLength < (searchName table column).length + c.engine.indexPrefix.length + 3 := by omega
    have filled := c.length_cutName drawn room exceeds
    omega
  · omega

theorem length_searchName {table : Table} (table_undotted : Undotted table.name) (column : Column) :
    (searchName table column).length =
      (Text.removeBlanks table.name).length + 1 + (Text.removeBlanks column.name).length := by
  have owner_length : (Text.upper (Text.removeBlanks table.name)).length = (Text.removeBlanks table.name).length :=
    CaseRule.length_fold_ascii .upper table_undotted.bare_removeBlanks.isAscii
  rw [searchName, String.length_append, String.length_append, owner_length]
  rfl

/-- A statement creates a search index with one identifier, and no points in it. -/
def Searches (table : Table) (column : Column) (sql identifier : String) : Prop :=
  ∃ written, sql = c.searchCreation table column written ∧ c.Delimits written identifier ∧ '.' ∉ identifier.toList

theorem searches_shownSearchName {table : Table} {column : Column} (table_undotted : Undotted table.name)
    (column_undotted : Undotted column.name) (drawn : Nat) :
    let name := c.engine.indexPrefix ++ c.shownSearchName drawn table column
    c.Searches table column (c.searchCreation table column (c.qualify name)) (c.foldCase name) ∧
      (c.foldCase name).length = name.length := by
  intro name
  have bare : Bare name :=
    c.bare_indexPrefix.append (c.bare_shownSearchName drawn (bare_searchName table_undotted column_undotted))
  have underscore : '_' ∈ name.toList := c.underscore_mem_indexPrefix _
  have written := c.delimits_qualify bare.isAscii (Text.removeBlanks_ne_empty underscore (by decide))
  rw [bare.plain.removeBlanks] at written
  exact ⟨⟨_, rfl, written, (plain_fold bare.plain).dot_not_mem⟩, c.engine.caseRule.length_fold_ascii bare.isAscii⟩

/-- The search index of a JSON column is among the statements that create a table. -/
theorem gives_createDdl_search (oracle : c.engine = .oracle) (searches : c.searchesJson = true) {table : Table}
    {column : Column} (own : column ∈ table.columns) (json : Text.lower (Text.strip column.typeText) = "json")
    {good : String → Prop} (searched : (c.searchIndexDdl table column).Gives good) :
    (c.createDdl table).Gives fun statements => ∃ sql ∈ statements, good sql := by
  have each : ∀ other ∈ table.columns.filter fun column => Text.lower (Text.strip column.typeText) == "json",
      (c.searchIndexDdl table other).Gives fun sql => other = column → good sql := by
    intro other _ draft sql given same
    rw [same] at given
    exact searched draft sql given
  refine (Drafting.gives_any _).bind ?_
  intro head _
  refine (Drafting.gives_any _).bind ?_
  intro indexes _
  have afterwards : (c.afterwardsDdl table).Gives fun statements => ∃ sql ∈ statements, good sql := by
    unfold afterwardsDdl
    rw [oracle, searches]
    refine (Drafting.gives_mapM_forall₂ each).bind ?_
    intro created paired
    apply Drafting.gives_pure
    obtain ⟨sql, listed, fine⟩ := Drafting.exists_of_forall₂ paired (List.mem_filter.mpr ⟨own, beq_iff_eq.mpr json⟩)
    exact ⟨sql, List.mem_append_left _ listed, fine rfl⟩
  refine afterwards.bind ?_
  rintro statements ⟨sql, listed, fine⟩
  apply Drafting.gives_pure
  exact ⟨sql, List.mem_append_right _ listed, fine⟩

/-- The search index of a JSON column has an identifier that fits, unless the names of the table and the column have
four characters less than the limit between them: then it has one too many, since the limit is checked as if the prefix
had three. -/
theorem searchIndexDdl_fits_iff (c : Compiler) (oracle : c.engine = .oracle) (searches : c.searchesJson = true)
    {table : Table} {column : Column} (own : column ∈ table.columns)
    (json : Text.lower (Text.strip column.typeText) = "json") (table_undotted : Undotted table.name)
    (column_undotted : Undotted column.name) :
    let names := (Text.removeBlanks table.name).length + (Text.removeBlanks column.name).length
    let created (sql : String) := ∃ identifier, c.Searches table column sql identifier ∧
      (identifier.length ≤ c.maxNameLength ↔ names + 4 ≠ c.maxNameLength) ∧ identifier.length ≤ c.maxNameLength + 1
    (∀ draft, ∃ sql after, (c.searchIndexDdl table column).run draft = (.ok sql, after) ∧ created sql) ∧
      (c.createDdl table).Gives fun statements => ∃ sql ∈ statements, created sql := by
  intro names created
  have runs (draft : Draft) :
      ∃ sql after, (c.searchIndexDdl table column).run draft = (.ok sql, after) ∧ created sql := by
    obtain ⟨after, ran⟩ := c.run_searchIndexDdl table column draft
    obtain ⟨written, folded⟩ := c.searches_shownSearchName table_undotted column_undotted draft.drawn
    obtain ⟨fits, bounded⟩ := c.length_shownSearchName oracle draft.drawn table column
    have total := length_searchName table_undotted column
    refine ⟨_, after, ran, _, written, ?_, folded ▸ bounded⟩
    rw [folded, fits]
    omega
  refine ⟨runs, c.gives_createDdl_search oracle searches own json ?_⟩
  intro draft sql given
  obtain ⟨_, after, ran, made⟩ := runs draft
  rw [ran] at given
  exact Except.ok.inj given ▸ made

/-- A table with two JSON columns. -/
def customerOrders : Table :=
  { name := "customer_orders"
    columns := [{ name := "details", typeName := some "json", category := .longVarchar },
      { name := "details_doc", typeName := some "JSON", category := .longVarchar }] }

theorem searchIndexDdl_fits_iff_details :
    let c : Compiler := { engine := .oracle, config := none, version := [12, 2] }
    let details : Column := { name := "details", typeName := some "json", category := .longVarchar }
    (c.createDdl customerOrders).Gives fun statements => ∃ sql ∈ statements, ∃ identifier,
      c.Searches customerOrders details sql identifier ∧ identifier.length ≤ 30 := by
  intro c details
  have short : (Text.removeBlanks customerOrders.name).length + (Text.removeBlanks details.name).length + 4 ≠
      c.maxNameLength := by decide
  have own : details ∈ customerOrders.columns := by decide
  obtain ⟨_, given⟩ := searchIndexDdl_fits_iff c rfl (by decide) own (by decide) (by decide) (by decide)
  intro draft statements run
  obtain ⟨sql, listed, identifier, written, fits, _⟩ := given draft statements run
  exact ⟨sql, listed, identifier, written, fits.mpr short⟩

/-- A name with three characters less than the limit is not cut, and the prefix has four. -/
theorem searchIndexDdl_exceeds_limit :
    let c : Compiler := { engine := .oracle, config := none, version := [12, 2] }
    let document : Column := { name := "details_doc", typeName := some "JSON", category := .longVarchar }
    let sql := "CREATE SEARCH INDEX \"IDX_CUSTOMER_ORDERS_DETAILS_DOC\" ON \"CUSTOMER_ORDERS\" " ++
      "(\"DETAILS_DOC\") FOR JSON"
    c.searchesJson = true ∧ document ∈ customerOrders.columns ∧
    Text.lower (Text.strip document.typeText) = "json" ∧
    Undotted customerOrders.name ∧ Undotted document.name ∧
    ((c.createDdl customerOrders).run {}).1.toOption = some [
      "CREATE TABLE \"CUSTOMER_ORDERS\" (\"DETAILS\" CLOB CHECK (DETAILS IS JSON) NULL, " ++
        "\"DETAILS_DOC\" CLOB CHECK (DETAILS_DOC IS JSON) NULL)",
      "CREATE SEARCH INDEX \"IDX_CUSTOMER_ORDERS_DETAILS\" ON \"CUSTOMER_ORDERS\" (\"DETAILS\") FOR JSON", sql] ∧
    c.Searches customerOrders document sql "IDX_CUSTOMER_ORDERS_DETAILS_DOC" ∧
    c.maxNameLength = 30 ∧ "IDX_CUSTOMER_ORDERS_DETAILS_DOC".length = 31 := by
  intro c document sql
  refine ⟨by decide, by decide, by decide, by decide, by decide, by decide +kernel, ?_, rfl, rfl⟩
  have written : "\"IDX_CUSTOMER_ORDERS_DETAILS_DOC\"" = c.delimited "IDX_CUSTOMER_ORDERS_DETAILS_DOC" := by
    decide +kernel
  exact ⟨_, by decide +kernel, written, by decide⟩

end TableFerry.Compiler
