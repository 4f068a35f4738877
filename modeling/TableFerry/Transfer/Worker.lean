import TableFerry.Config.Strategy
import TableFerry.Database.Provider
import TableFerry.Dialect.Ddl
import TableFerry.Transfer.Mapping
import TableFerry.Transfer.Partition
/-!
One worker moves the tables of its bucket one after the other: it looks at the table on both sides, drops and
creates it on the target, and copies its rows page by page. Every table that is begun ends in one of four
ways, which is announced; errors of other kinds than those of the migration and of databases end the bucket.
-/
namespace TableFerry

/-- Who hears what a worker announces. -/
inductive Listener where
  | recorder
  | reporter
  | logger
  deriving DecidableEq, Repr

namespace Job

variable {σ : Type}

def tell (event : Lifecycle) : Listener → Job σ Unit
  | .recorder => trace (.announced event)
  | .logger => noteAll event.logLines
  | .reporter => do
    let now ← clock
    modify fun world => { world with report := world.report.record now event }

/-- Announces an event to every listener in order. -/
def announce (listeners : List Listener) (event : Lifecycle) : Job σ Unit :=
  listeners.forM (tell event)

end Job

structure Worker (σ : Type) where
  source : Provider σ
  target : Provider σ
  compiler : Compiler
  strategy : Strategy
  bucket : Int := 0
  listeners : List Listener := [.logger]
  inTransaction : Bool := true

namespace Worker

variable {σ : Type}

def announce (w : Worker σ) (event : Lifecycle) : Job σ Unit := Job.announce w.listeners event

/-- The compiler as it writes to the target. -/
def targetCompiler (w : Worker σ) : Compiler := w.compiler.toward (some w.target.config)

/-- Why a table is left alone before anything is asked about it. -/
def reasonToSkip (w : Worker σ) (table : SizedTable) : Option String :=
  if w.strategy.exceeds table.rows then
    some s!"{table.count} rows exceeds the limit of {w.strategy.limit}"
  else if w.strategy.ignores table.name then some "matches an ignored table pattern"
  else none

/-- A snapshot of a table under its name or else under its name in upper case. -/
def findTable (db : Database σ) (name : String) (schema : Value) : Job σ (Option Table) := do
  match ← db.snapshot name schema with
  | some table => pure (some table)
  | none =>
    if Text.upper name ≠ name then db.snapshot (Text.upper name) schema else pure none

def runDdl (w : Worker σ) (table : String) (statements : List String) : Job σ Unit := do
  let _ ← w.target.db.runBatch (Database.toleranceOf w.compiler (some table)) w.compiler.transactional
    statements {}

/-- Drops a table on the target, if there is one, and gives the statements for it. -/
def dropExisting (w : Worker σ) (name : String) (existing : Option Table) : Job σ (List String) := do
  match existing with
  | none => pure []
  | some existing =>
    w.runDdl name (w.targetCompiler.deleteDdl existing)
    pure (w.targetCompiler.deleteDdl existing)

/-- Creates a table on the target and gives the statements for it. -/
def create (w : Worker σ) (source : Table) : Job σ (List String) := do
  let statements ← Job.draft (w.targetCompiler.createDdl source)
  w.runDdl source.name statements
  pure statements

/-- A table that was created and is not found. -/
def notFound (name : String) : Fault :=
  .metadata s!"Table[{name}] was not found in target after creation" name

/-- Drops the table on the target, if there is one, creates it and reads it again. -/
def rebuild (w : Worker σ) (source : Table) (existing : Option Table) : Job σ Table := do
  let dropped ← w.dropExisting source.name existing
  let created ← w.create source
  match ← findTable w.target.db source.name w.target.config.schemaName with
  | none => throw (notFound source.name)
  | some table =>
    w.announce (.created w.bucket source.name (dropped ++ created))
    pure table

/-- The query for the rows of a table, or for their number. -/
def query (columns table : String) (condition : Option String) : String :=
  match condition.filter (· ≠ "") with
  | some condition => s!"select {columns} from {table} where {condition}"
  | none => s!"select {columns} from {table}"

/-- The columns by which pages are ordered: the primary key, or else all that can be ordered. -/
def orderColumns (table : Table) : List String :=
  if table.keyNames.isEmpty then (table.columns.filter (·.isSortable)).map (·.name)
  else table.keyNames

/-- What is needed to copy the rows of a table. -/
structure Copying where
  table : String
  rowQuery : String
  targetName : String
  order : List String
  mapping : Mapping.FieldMapping
  pageSize : Nat

/-- Copies the page with number `page` and gives the number of its rows. -/
def copyPage (w : Worker σ) (copying : Copying) (page pages : Nat) : Job σ Nat := do
  let rows ← w.source.db.pageOf copying.rowQuery page copying.pageSize copying.order
  let inserted ← w.target.db.insertRows copying.targetName (Mapping.mapRows copying.mapping rows)
  w.announce (.pageCopied w.bucket copying.table page pages inserted)
  pure inserted

/-- A failure with the number of the page it came at. -/
def atPage {α : Type} (copying : Copying) (page : Nat) (job : Job σ α) : Job σ α := do
  match ← job.attempt with
  | .ok value => pure value
  | .error fault =>
    if fault.kind.isDatabase then
      throw (.wrap (.dataCopy (.text copying.table) (.int page))
        s!"Table[{copying.table}] data copy failed at page {page}: {fault.text}" fault)
    else throw fault

/-- Copies `left` pages from number `page` on and gives the number of all rows. -/
def copyPages (w : Worker σ) (copying : Copying) (pages : Nat) : Nat → Nat → Nat → Job σ Nat
  | 0, _, copied => pure copied
  | left + 1, page, copied => do
    let inserted ← atPage copying page (w.copyPage copying page pages)
    copyPages w copying pages left (page + 1) (copied + inserted)

/-- How many rows there are to copy: counted anew under a condition or if it is not known. -/
def rowCount (w : Worker σ) (table : SizedTable) (sourceName : String) (condition : Option String) :
    Job σ Int := do
  match condition.filter (· ≠ ""), table.rows with
  | none, some rows => pure rows
  | _, _ => w.source.db.number (query "count(*)" sourceName condition)

/-- What is copied when the source table and the columns that order its rows are written as `sourceName` and
`order`. -/
def copyingOf (w : Worker σ) (source target : Table) (condition : Option String) (sourceName : String)
    (order : List String) : Copying := {
  table := source.name
  rowQuery := query "*" sourceName condition
  targetName := w.targetCompiler.qualify source.name
  order := order
  mapping := Mapping.ofTables w.compiler source target
  pageSize := w.strategy.pageSize }

/-- Empties the target table and copies the pages of `count` rows into it. -/
def fill (w : Worker σ) (copying : Copying) (count : Int) : Job σ Nat := do
  let _ ← w.target.db.run s!"delete from {copying.targetName}"
  if copying.mapping.isEmpty then
    Job.note .warning s!"Table[{copying.table}] shares no columns with the target, no rows copied"
    pure 0
  else
    let pages := pageCount count copying.pageSize
    w.copyPages copying pages pages 0 0

/-- Replaces the rows of the target table by those of the source. -/
def copyRows (w : Worker σ) (table : SizedTable) (source target : Table)
    (condition : Option String) : Job σ Nat := do
  let sourceName ← Job.ofExcept (w.source.qualifiedName source.name)
  let order ← Job.ofExcept ((orderColumns source).mapM w.source.quote)
  Job.noteAll (Mapping.unmatchedNotes source target)
  let copying := w.copyingOf source target condition sourceName order
  atPage copying 0 (w.source.db.withConnection do
    let count ← w.rowCount table sourceName condition
    w.fill copying count)

/-- Moves one table and gives the number of its rows, or nothing if it was skipped. -/
def moveContents (w : Worker σ) (table : SizedTable) (condition : Option String) :
    Job σ (Option Nat) := do
  let name := table.name
  Job.enter .checkSource
  match ← w.source.db.withConnection (findTable w.source.db name w.source.config.schemaName) with
  | none =>
    Job.note .error (s!"Table[{name}] does not exist in source " ++ w.source.config.id.shown)
    w.announce (.skipped w.bucket name "source table does not exist")
    pure none
  | some source =>
    Job.enter .checkTarget
    let existing ← findTable w.target.db name w.target.config.schemaName
    if existing.isSome && w.strategy.buildMode == .skipWhenExist then
      Job.note .info (s!"Table[{name}] already existed in target " ++ w.target.config.id.shown)
      w.announce (.skipped w.bucket name "already exists on target")
      pure none
    else
      Job.enter .rebuild
      let target ← w.rebuild source existing
      if !w.strategy.includeData.truthy then pure (some 0)
      else
        Job.enter .copyData
        let rows ← w.copyRows table source target condition
        Job.enter .done
        pure (some rows)

/-- Runs a job in a savepoint where the target can undo statements on tables. -/
def inSavepoint {α : Type} (w : Worker σ) (job : Job σ α) : Job σ α :=
  if w.compiler.transactional && w.inTransaction then w.target.db.withSavepoint job else job

/-- Ends a table whose transfer failed: as tolerated, as failed, or with the whole bucket. Gives false if the
table failed and the bucket goes on. -/
def endFailed (w : Worker σ) (name : String) (fault : Fault) : Job σ Bool := do
  if !fault.kind.isHandled then throw fault
  let world ← get
  Job.noteAll (w.compiler.toleranceNotes fault (some name))
  if w.compiler.tolerates fault then
    w.announce (.tolerated w.bucket name world.stage fault.text)
    pure true
  else
    w.announce (.failed w.bucket name world.stage fault.text)
    if !w.strategy.continueOnError.truthy then throw fault
    pure false

/-- Takes one table through its course; false means that it failed and the bucket goes on. -/
def moveTable (w : Worker σ) (table : SizedTable) (position total : Int)
    (condition : Option String) : Job σ Bool := do
  let name := table.name
  Job.enter .discover
  w.announce (.started w.bucket name position total)
  match w.reasonToSkip table with
  | some reason =>
    w.announce (.skipped w.bucket name reason)
    pure true
  | none =>
    let started ← Job.clock
    match ← (w.inSavepoint (w.moveContents table condition)).attempt with
    | .error fault => w.endFailed name fault
    | .ok none => pure true
    | .ok (some rows) =>
      let now ← Job.clock
      w.announce (.succeeded w.bucket name position total rows (.real (now.sub started)))
      pure true

/-- Moves the tables from number `position` on and counts those that failed. -/
def moveFrom (w : Worker σ) (total : Int) (condition : Option String) :
    Int → List SizedTable → Job σ Nat
  | _, [] => pure 0
  | position, table :: rest => do
    let ok ← w.moveTable table position total condition
    let failed ← moveFrom w total condition (position + 1) rest
    pure (failed + if ok then 0 else 1)

/-- Moves the tables of the bucket in order and gives the number of those that failed. -/
def moveTables (w : Worker σ) (tables : List SizedTable) (condition : Option String) : Job σ Nat :=
  w.moveFrom tables.length condition 1 tables

end Worker

end TableFerry
