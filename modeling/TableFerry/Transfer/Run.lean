import TableFerry.Transfer.Worker
/-!
Whole runs: finding the tables of the source and their sizes, dealing them to workers, running every bucket in
a transaction of its own, and reporting. A bucket is committed when all its tables were handled and rolled
back when one of them ended it; a run fails when a bucket did.
-/
namespace TableFerry

structure Migration (σ : Type) where
  source : Provider σ
  target : Provider σ
  strategy : Strategy
  compiler : Compiler
  listeners : List Listener := [.logger]

namespace Migration

variable {σ : Type}

/-- The number of workers when all tables are moved. -/
def usualWorkers : Int := 15

/-- A migration into the engine and the server version of the target. -/
def make (source target : Provider σ) (strategy : Strategy) (picks : Nat → Nat)
    (listeners : List Listener) : Job σ (Migration σ) := do
  let version ← target.serverVersion
  let compiler := Compiler.make target.config.engine (some target.config) version picks
  Job.note .debug (s!"Using {compiler.written} for datasource " ++ target.config.id.shown)
  pure ⟨source, target, strategy, compiler, listeners⟩

/-- Gives up both pools of connections. -/
def close (m : Migration σ) : Job σ Unit := do
  m.source.dispose
  m.target.dispose

/-- The names that hold one of the fragments, whatever the case; all names if there are no fragments. -/
def selectNames (names fragments : List String) : List String :=
  if fragments.isEmpty then names
  else
    let fragments := (fragments.filter (· ≠ "")).map Text.lower
    names.filter fun name => fragments.any (Text.hasPiece (Text.lower name) ·)

def sourceTables (m : Migration σ) (fragments : List String) : Job σ (List String) := do
  let names ← m.source.db.listTables m.source.config.schemaName
  pure (selectNames names fragments)

/-- A table with the number of its rows, which stays unknown if they cannot be counted; none if there are too
many. -/
def measure (m : Migration σ) (name : String) : Job σ (Option SizedTable) := do
  let counting : Job σ Int := do
    let quoted ← Job.ofExcept (m.source.qualifiedName name)
    m.source.db.number (Worker.query "count(*)" quoted none)
  match ← counting.attempt with
  | .error fault =>
    if !fault.kind.isDatabase then throw fault
    Job.note .warning s!"Table[{name}] row count failed, size unknown: {fault.text}"
    m.source.db.send .rollback
    Job.answer m.source.db.rollback
    pure (some ⟨name, none⟩)
  | .ok count =>
    if 0 ≤ count && m.strategy.exceeds (some count.toNat) then
      Job.note .warning s!"Table[{name}] has {count} rows, more than {m.strategy.limit}, skipped"
      pure none
    else
      let table ← Job.ofExcept (SizedTable.ofCount name count)
      pure (some table)

/-- The tables of the source that are to be moved, with their sizes. -/
def discover (m : Migration σ) (fragments : List String) : Job σ (List SizedTable) := do
  let tables ← m.source.db.withConnection do
    let names ← m.sourceTables fragments
    let found ← names.mapM m.measure
    pure (found.filterMap id)
  Job.note .info (s!"Discovered {tables.length} table(s) in source " ++ m.source.config.id.shown)
  pure tables

/-- The statements that would create the tables on the target, which is left alone. -/
def preview (m : Migration σ) (fragments : List String) : Job σ (List (String × List String)) :=
  m.source.db.withConnection do
    let names ← m.sourceTables fragments
    let compiler := m.compiler.toward (some m.target.config)
    names.foldlM (fun previews name => do
      match ← m.source.db.snapshot name m.source.config.schemaName with
      | none => pure previews
      | some table =>
        let statements ← Job.draft (compiler.createDdl table)
        pure (putEntry name statements previews)) []

/-- The worker of bucket `index`. It reports to the record of the run besides the listeners of the migration. -/
def worker (m : Migration σ) (index : Nat) : Worker σ := {
  source := m.source
  target := m.target
  compiler := m.compiler
  strategy := m.strategy
  bucket := index
  listeners := m.listeners ++ [.reporter] }

/-- Moves one bucket on a connection and in a transaction of its own. -/
def bucketWork (m : Migration σ) (index : Nat) (bucket : List SizedTable) (condition : Option String) :
    Job σ Unit :=
  m.target.db.withConnection do
    m.target.db.withTransaction do
      let _ ← (m.worker index).moveTables bucket condition

/-- Runs one bucket and announces how it ended. -/
def runBucket (m : Migration σ) (condition : Option String) (index : Nat) (bucket : List SizedTable) :
    Job σ (Except Fault Unit) := do
  Job.note .debug
    (s!"Worker bucket {index}: " ++ (Value.list (bucket.map fun table => .text table.name)).written)
  let result ← (m.bucketWork index bucket condition).attempt
  match result with
  | .ok _ => (m.worker index).announce (.bucketFinished index true none)
  | .error fault => (m.worker index).announce (.bucketFinished index false (some fault.text))
  pure result

/-- The ends of buckets, each under the number of its bucket, in the order in which they came. -/
abbrev Ends := List (Nat × Except Fault Unit)

/-- Runs the buckets one after the other. -/
def inTurn (m : Migration σ) (condition : Option String) (buckets : List (List SizedTable)) : Job σ Ends :=
  buckets.zipIdx.mapM fun (bucket, index) => do
    let result ← m.runBucket condition index bucket
    pure (index, result)

/-- The failures among the ends of buckets, by bucket, in whatever order the buckets ended. -/
def failures (ends : Ends) : List (Nat × String) :=
  (ends.filterMap fun entry =>
    match entry.2 with
    | .ok _ => none
    | .error fault => some (entry.1, fault.text)).mergeSort fun a b => a.1 ≤ b.1

/-- Begins the report of a run. -/
def beginReport : Job σ Unit := do
  let now ← Job.clock
  modify fun world => { world with report := Report.begin now }

/-- Ends the report of a run and gives it. -/
def endReport : Job σ Report := do
  let now ← Job.clock
  modify fun world => { world with report := world.report.finish now }
  pure (← get).report

/-- What is noted before `count` tables go to their buckets. -/
def noteStart (m : Migration σ) (count buckets : Nat) : Job σ Unit := do
  Job.note .info (s!"Migrating {count} table(s) from " ++ m.source.config.id.shown ++ " to " ++
    m.target.config.id.shown ++ s!" with {buckets} worker(s)")
  if buckets ≠ 0 then Job.trace (.pool buckets)

/-- Gives the report when all buckets ended well and fails with it otherwise. -/
def conclude (buckets : Nat) (ends : Ends) : Job σ Report := do
  let report ← endReport
  Job.note .info (s!"Migration finished: {report.countOf .succeeded} succeeded, " ++
    s!"{report.countOf .skipped} skipped, {report.countOf .failed} failed")
  let failed := failures ends
  if failed.isEmpty then pure report
  else
    throw (.single (.runFailed failed report)
      s!"{failed.length} of {buckets} worker bucket(s) failed")

/-- Moves tables with a number of workers on a pool, which runs the buckets and gives their ends. -/
def runOn (m : Migration σ) (pool : List (List SizedTable) → Job σ Ends) (tables : List SizedTable)
    (workers : Int) : Job σ Report := do
  beginReport
  let buckets := partition tables workers
  m.noteStart tables.length buckets.length
  let ends ← pool buckets
  conclude buckets.length ends

/-- Moves tables with a number of workers and gives the report, or fails with it if a bucket failed. -/
def run (m : Migration σ) (tables : List SizedTable) (workers : Int) (condition : Option String) :
    Job σ Report :=
  m.runOn (m.inTurn condition) tables workers

/-- A report of one table that was skipped before any worker saw it. -/
def reportSkipped (m : Migration σ) (name reason : String) : Job σ Report := do
  beginReport
  Job.announce (m.listeners ++ [.reporter]) (.skipped 0 name reason)
  endReport

/-- The first of the tables that has the requested name, whatever its case. -/
def requested? (names : List String) (name : String) : Option String :=
  (selectNames names [name]).find? fun candidate => Text.lower candidate == Text.lower name

/-- Moves one table, or only its rows under a condition. -/
def migrateTable (m : Migration σ) (name : String) (condition : Option String) : Job σ Report := do
  let names ← m.source.db.listTables m.source.config.schemaName
  match requested? names name with
  | none =>
    Job.note .error (s!"Table[{name}] does not exist in source " ++ m.source.config.id.shown)
    m.reportSkipped name "source table does not exist"
  | some found =>
    match ← m.source.db.withConnection (m.measure found) with
    | none => m.reportSkipped found s!"exceeds the limit of {m.strategy.limit} rows"
    | some table => m.run [table] 1 condition

/-- Moves the tables whose names hold one of the fragments. -/
def migrateMatching (m : Migration σ) (fragments : List String) (workers : Int) : Job σ Report := do
  if fragments.isEmpty then
    throw (.configuration "sync_table_list needs at least one table name")
  let tables ← m.discover fragments
  m.run tables workers none

def migrateAll (m : Migration σ) (workers : Int) : Job σ Report := do
  let tables ← m.discover []
  m.run tables workers none

end Migration

end TableFerry
