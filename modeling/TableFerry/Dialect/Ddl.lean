import TableFerry.Dialect.TypeMapping
/-!
The statements that create a table and that drop it, in the order in which they are sent: the table, its
indexes, and what comes after both.
-/
namespace TableFerry.Compiler

def isBlankOption (text : Option String) : Bool :=
  match text with
  | none => true
  | some text => Text.isBlankText text

def keyList (c : Compiler) (separator : String) (table : Table) : String :=
  Text.joinWith separator (table.keyNames.map c.wrap)

/-- The name of the primary key constraint of a table. -/
def keyName (table : Table) : String := Text.removeBlanks table.name ++ "_pkey"

/-- The mark of a primary key behind a single column. -/
def keyModifier (c : Compiler) (column : Column) (table : Table) : String :=
  let alone := column.isKey && table.keyNames.length ≤ 1
  match c.engine with
  | .sqlserver => if alone then "PRIMARY KEY" else ""
  | .kingbase => if alone then "constraint " ++ keyName table ++ " primary key" else ""
  | _ => ""

/-- The entries behind the columns of CREATE TABLE. -/
def tableConstraints (c : Compiler) (table : Table) : List String :=
  match c.engine with
  | .mysql | .sqlite =>
    if table.keyNames.isEmpty then [] else ["PRIMARY KEY (" ++ c.keyList ", " table ++ ")"]
  | .sqlserver =>
    if 1 < table.keyNames.length then ["PRIMARY KEY (" ++ c.keyList ", " table ++ ")"] else []
  | .postgresql =>
    if table.keyNames.isEmpty then []
    else ["CONSTRAINT " ++ c.wrap (keyName table) ++ " PRIMARY KEY (" ++ c.keyList ", " table ++ ")"]
  | .vastbase =>
    if table.keyNames.isEmpty then []
    else
      ["CONSTRAINT " ++ c.wrap (table.name ++ "_pkey") ++ " PRIMARY KEY (" ++ c.keyList "," table ++ ")"]
  | .kingbase =>
    if 1 < table.keyNames.length then
      ["constraint " ++ keyName table ++ " primary key (" ++ c.keyList ", " table ++ ")"]
    else []
  | .oracle => []

def inlineColumnComment (c : Compiler) (column : Column) : String :=
  let comment := column.comment.getD ""
  match c.engine with
  | .mysql => "COMMENT " ++ Literal.quote comment
  | .vastbase => "COMMENT " ++ Literal.quote comment true
  | _ => ""

def inlineTableComment (c : Compiler) (table : Table) : String :=
  let comment := table.comment.getD ""
  match c.engine with
  | .mysql => "COMMENT=" ++ Literal.quote comment
  | .vastbase => "COMMENT " ++ Literal.quote comment true
  | _ => ""

/-- The schema that comments of SQL Server name. -/
def commentSchema (c : Compiler) : String := c.schemaText?.getD "dbo"

def describeProperty (literal schema table : String) : String :=
  s!"EXEC SP_ADDEXTENDEDPROPERTY 'MS_Description', {literal}, 'SCHEMA', '{schema}', 'TABLE', '{table}'"

/-- The statement that sets the comment of a column; empty where a dialect has none. -/
def columnCommentDdl (c : Compiler) (table : Table) (column : Column) : String :=
  let comment := column.comment.getD ""
  let dotted := c.qualify (table.name ++ "." ++ column.name)
  match c.engine with
  | .oracle => s!"COMMENT ON COLUMN {dotted} IS " ++ Literal.quote comment true
  | .kingbase => s!"comment on column {dotted} is " ++ Literal.quote comment true
  | .postgresql =>
    "COMMENT ON COLUMN " ++ c.qualify table.name ++ "." ++ c.wrap column.name ++ " IS " ++
      Literal.quote comment
  | .sqlserver =>
    describeProperty (Literal.national comment) c.commentSchema table.name ++
      s!", 'COLUMN', '{column.name}'"
  | _ => ""

/-- The statement that sets the comment of a table; empty where a dialect has none. -/
def tableCommentDdl (c : Compiler) (table : Table) : String :=
  let comment := table.comment.getD ""
  match c.engine with
  | .oracle => s!"COMMENT ON TABLE {c.qualify table.name} IS " ++ Literal.quote comment true
  | .kingbase => s!"comment on table {c.qualify table.name} is " ++ Literal.quote comment true
  | .postgresql => s!"COMMENT ON TABLE {c.qualify table.name} IS " ++ Literal.quote comment
  | .sqlserver => describeProperty (Literal.national comment) c.commentSchema table.name
  | _ => ""

/-- The definition of a column in CREATE TABLE. -/
def columnDdl (c : Compiler) (column : Column) (table : Table) : Drafting String := do
  let type ← (c.mapType column : Except Fault String)
  let default := Literal.defaultValue column
  let parts := [
    c.wrap column.name,
    type,
    if default = "" then "" else "DEFAULT " ++ default,
    if column.nullable then "NULL" else "NOT NULL",
    if c.engine.commentPlace == .inside && !isBlankOption column.comment then
      c.inlineColumnComment column
    else "",
    c.keyModifier column table]
  pure (Text.joinWith " " (parts.filter (· ≠ "")))

/-- What the target asks to be written behind CREATE TABLE. -/
def tablespaceText (c : Compiler) : Drafting String :=
  match c.destination with
  | none => pure ""
  | some config =>
    if config.tablespace.isBlank then pure ""
    else
      match config.tablespace with
      | .text s => pure (" " ++ Text.strip s)
      | value =>
        throw (.single .wrongShape ("'" ++ value.kindName ++ "' object has no attribute 'strip'"))

/-- CREATE TABLE for a table with at least one column. -/
def structureDdl (c : Compiler) (table : Table) : Drafting String := do
  if !table.isPresent then
    throw (.metadata s!"Table {table.name} has no columns to create" table.name)
  let columns ← table.columns.mapM fun column => c.columnDdl column table
  let entries := columns ++ c.tableConstraints table
  let ddl := "CREATE TABLE " ++ c.qualify table.name ++ " (" ++ Text.joinWith ", " entries ++ ")"
  let comment :=
    if c.engine.commentPlace == .inside && !isBlankOption table.comment then
      " " ++ c.inlineTableComment table
    else ""
  let tablespace ← c.tablespaceText
  pure (ddl ++ comment ++ tablespace)

/-- The indexes of a table that are not made by the engine itself. -/
def ownIndexes (c : Compiler) (table : Table) : List Index :=
  table.indexes.filter fun index => !c.ignoresIndex index

def createIndexDdl (c : Compiler) (table : Table) (index : Index) : Drafting (Option String) := do
  let columns := (index.columns.filter fun name => !Text.isBlankText name).map c.wrap
  if columns.isEmpty then pure none
  else
    let name ← c.createIndexName table index
    pure (some ("CREATE " ++ (if index.unique then "UNIQUE " else "") ++ "INDEX " ++ name ++ " ON " ++
      c.qualify table.name ++ " (" ++ Text.joinWith ", " columns ++ ")"))

def dropIndexDdl (c : Compiler) (table : Table) (index : Index) : String :=
  let drop := "DROP INDEX " ++ c.dropIndexName table index
  match c.engine with
  | .mysql => drop ++ " ON " ++ c.qualify table.name
  | _ => drop

def commentDdl (c : Compiler) (table : Table) : List String :=
  if c.engine.commentPlace == .outside then
    let columns := (table.columns.filter fun column => !isBlankOption column.comment).map
      (c.columnCommentDdl table)
    let whole := if isBlankOption table.comment then [] else [c.tableCommentDdl table]
    (columns ++ whole).filter (· ≠ "")
  else []

/-- Oracle can search JSON columns from version 12.2 on. -/
def searchesJson (c : Compiler) : Bool :=
  match c.version with
  | major :: minor :: _ => 12 < major || (major == 12 && 2 ≤ minor)
  | [major] => 12 < major
  | [] => false

def searchIndexDdl (c : Compiler) (table : Table) (column : Column) : Drafting String := do
  let full := Text.upper (Text.removeBlanks table.name) ++ "_" ++ Text.removeBlanks column.name
  let name ←
    if (full.length : Int) > (c.maxNameLength : Int) - 3 then
      c.truncate full table.name c.engine.indexPrefix.length
    else pure full
  pure ("CREATE SEARCH INDEX " ++ c.qualify (c.engine.indexPrefix ++ name) ++ " ON " ++
    c.qualify table.name ++ " (" ++ c.wrap column.name ++ ") FOR JSON")

/-- Statements that only Oracle needs behind the table: search indexes and the primary key. -/
def afterwardsDdl (c : Compiler) (table : Table) : Drafting (List String) := do
  if c.engine == .oracle then
    let json := table.columns.filter fun column => Text.lower (Text.strip column.typeText) == "json"
    let searches ← if c.searchesJson then json.mapM (c.searchIndexDdl table) else pure []
    let key :=
      if table.keyNames.isEmpty then []
      else ["ALTER TABLE " ++ c.qualify table.name ++ " ADD PRIMARY KEY (" ++ c.keyList "," table ++ ")"]
    pure (searches ++ key)
  else pure []

/-- The statements that create a table. -/
def createDdl (c : Compiler) (table : Table) : Drafting (List String) := do
  let head ← c.structureDdl table
  let indexes ← (c.ownIndexes table).mapM (c.createIndexDdl table)
  let afterwards ← c.afterwardsDdl table
  pure (head :: indexes.filterMap id ++ c.commentDdl table ++ afterwards)

/-- The statements that drop a table, its indexes first. -/
def deleteDdl (c : Compiler) (table : Table) : List String :=
  (c.ownIndexes table).map (c.dropIndexDdl table) ++ ["DROP TABLE " ++ c.qualify table.name]

end TableFerry.Compiler
