import TableFerry.Database.Basic
import TableFerry.Dialect.Tolerance
/-!
Work on one connection: single statements, batches in which some errors are tolerated, numbers, pages of
rows, insertions, and snapshots of tables.
-/
namespace TableFerry.Database

variable {σ : Type}

/-- Runs a statement and gives the first value of its result. -/
def run (db : Database σ) (sql : String) : Job σ Value := do
  Job.note .debug s!"Executing: {sql}"
  db.send (.execute sql)
  Job.answer (db.execute sql)

structure BatchResult where
  executed : Nat := 0
  tolerated : Nat := 0
  deriving DecidableEq, Repr

/-- Whether an error is tolerated, with the log lines that go with the decision. -/
abbrev Tolerance := Fault → Bool × List LogLine

/-- Tolerates nothing. -/
def refuseAll : Tolerance := fun _ => (false, [])

/-- The errors that a compiler tolerates on a table. -/
def toleranceOf (c : Compiler) (table : Option String) : Tolerance := fun fault =>
  (c.tolerates fault, c.toleranceNotes fault table)

/-- Counts a statement that was answered. A tolerated failure is logged and counted as well; any other ends the
batch. -/
def settle (tolerance : Tolerance) (sql : String) (result : BatchResult) :
    Except Fault Unit → Job σ BatchResult
  | .ok _ => pure { result with executed := result.executed + 1 }
  | .error fault => do
    if !fault.kind.isDatabase then throw fault
    let (tolerated, lines) := tolerance fault
    Job.noteAll lines
    if tolerated then
      Job.note .warning s!"Ignored error for statement [{sql}]: {fault.text}"
      pure { result with tolerated := result.tolerated + 1 }
    else throw (.wrap (.ddl (.text sql)) s!"Statement failed: {sql}" fault)

/-- Runs statements in order, each in a savepoint of its own if asked for. -/
def runBatch (db : Database σ) (tolerance : Tolerance) (savepoint : Bool) :
    List String → BatchResult → Job σ BatchResult
  | [], result => pure result
  | sql :: rest, result => do
    let statement : Job σ Unit := do
      let _ ← db.run sql
    let answered ← (if savepoint then db.withSavepoint statement else statement).attempt
    let result ← settle tolerance sql result answered
    runBatch db tolerance savepoint rest result

/-- The whole number that a statement gives; nothing counts as zero. -/
def number (db : Database σ) (sql : String) : Job σ Int := do
  let value ← db.run sql
  if value.truthy then Job.ofExcept value.toWholeOrFault else pure 0

/-- The order of a page. SQL Server cannot cut pages without one. -/
def pageOrder (db : Database σ) (order : List String) : List String :=
  if order.isEmpty && db.dialectName == "mssql" then ["(SELECT NULL)"] else order

/-- The rows of the page with number `index` of a query, counted from zero. -/
def pageOf (db : Database σ) (sql : String) (index size : Nat) (order : List String) :
    Job σ (List Row) := do
  let query : PageQuery := ⟨sql, db.pageOrder order, size, index * size⟩
  db.send (.page query)
  Job.answer (db.page query)

def bindName (i : Nat) : String := "p" ++ toString i

/-- The values of a row for the columns, each under the name of its place. -/
def bindRow (columns : List String) (row : Row) : Row :=
  columns.zipIdx.map fun (column, i) => (bindName i, (row.get? column).getD .null)

def insertText (table : String) (columns : List String) : String :=
  "INSERT INTO " ++ table ++ " (" ++ Text.joinWith ", " columns ++ ") VALUES (" ++
    Text.joinWith ", " ((List.range columns.length).map fun i => ":" ++ bindName i) ++ ")"

/-- Inserts rows whose columns are those of the first one, and gives their number. -/
def insertRows (db : Database σ) (table : String) (rows : List Row) : Job σ Nat := do
  match rows with
  | [] => pure 0
  | first :: _ =>
    let columns := first.names
    let statement := insertText table columns
    let params := rows.map (bindRow columns)
    db.send (.insert statement params)
    Job.answer (db.insert statement params)
    pure params.length

/-- The tables that can be seen in a schema. -/
def listTables (db : Database σ) (schema : Value) : Job σ (List String) := do
  db.send (.tableNames schema)
  Job.answer (db.tableNames schema)

/-- A snapshot of a table under the name it was asked for; there is none if it does not exist or has no
columns. -/
def snapshot (db : Database σ) (table : String) (schema : Value) : Job σ (Option Table) := do
  db.send (.reflect table schema)
  match ← Job.answer (db.reflect table schema) with
  | none => pure none
  | some reflected =>
    if reflected.columns.isEmpty then pure none
    else
      let reflected := { reflected with name := table }
      Job.noteAll reflected.indexNotes
      let table ← Job.ofExcept reflected.toTable.checked
      pure (some table)

end TableFerry.Database
