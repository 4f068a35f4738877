import TableFerry.Command.Options
import TableFerry.Config.Settings
import TableFerry.Transfer.Run
/-!
The program behind the command line: it reads the settings, moves the selected tables or shows the statements
that would create them, and ends with a status and what it printed.
-/
namespace TableFerry.Command

variable {σ : Type}

/-- What the program is given: files by their plain path, the environment, a database for every written URL,
and random choices. -/
structure Surroundings (σ : Type) where
  files : String → Option (List Nat)
  environment : Placeholder.Environment
  connect : String → Job σ (Database σ)
  picks : Nat → Nat

/-- The status with which the program ends and the lines it printed. -/
structure Ending where
  status : Int
  printed : List String := []
  deriving DecidableEq, Repr

/-- The lines of a log that are shown under the options. -/
def shownLines (options : Options) (log : List LogLine) : List LogLine :=
  linesFrom ((Level.ofName? options.logLevel).getD .info) log

def logStrategy (source target : Datasource) (strategy : Strategy) : Job σ Unit := do
  Job.note .info ("Source: " ++ source.written)
  Job.note .info ("Target: " ++ target.written)
  Job.note .info ("Strategy: " ++ (Value.record strategy.toMapping).written)

def fragments (options : Options) : List String :=
  if isGiven options.table then options.table.toList
  else if isGiven options.tables then splitNames (options.tables.getD "")
  else []

/-- Shows the statements that would create the selected tables. -/
def dryRun (m : Migration σ) (options : Options) : Job σ Ending := do
  let previews ← m.preview (fragments options)
  Job.note .info s!"Dry run: DDL for {previews.length} table(s), target untouched"
  pure ⟨0, previews.flatMap fun preview =>
    ("-- " ++ preview.1) :: preview.2.map fun statement => statement ++ ";"⟩

/-- A number of workers, zero meaning the usual one. -/
def workersOr (options : Options) (usual : Int) : Int :=
  match options.workers with
  | some n => if n = 0 then usual else n
  | none => usual

def sync (m : Migration σ) (options : Options) : Job σ Report :=
  if isGiven options.table then m.migrateTable (options.table.getD "") options.condition
  else if isGiven options.tables then
    m.migrateMatching (splitNames (options.tables.getD "")) (workersOr options 1)
  else m.migrateAll (workersOr options Migration.usualWorkers)

def migrate (around : Surroundings σ) (options : Options) : Job σ Ending := do
  let (settings, line) ← Job.ofExcept (Settings.load around.files around.environment options.config)
  Job.noteAll [line]
  let source ← Job.ofExcept (settings.datasource (.text (options.source.getD "")))
  let target ← Job.ofExcept (settings.datasource (.text (options.target.getD "")))
  let strategy ← Job.ofExcept (strategy settings.strategy options)
  logStrategy source target strategy
  let source ← Provider.create source strategy.debug usualPoolSize around.connect
  let target ← Provider.create target strategy.debug usualPoolSize around.connect
  let m ← Migration.make source target strategy around.picks [.logger]
  let ending : Job σ Ending :=
    if options.dryRun then dryRun m options
    else do
      let report ← sync m options
      pure ⟨if report.ok then 0 else 1, [report.exportText]⟩
  let result ← ending.attempt
  m.close
  Job.ofExcept result

/-- Runs the program with options that were checked. Errors of the migration and of databases are logged and
end it with status one; a run that failed still prints its report. -/
def execute (around : Surroundings σ) (options : Options) : Job σ Ending := do
  match ← (migrate around options).attempt with
  | .ok ending => pure ending
  | .error fault =>
    match fault.kind with
    | .runFailed _ report =>
      Job.note .error ("Migration failed: " ++ fault.text)
      pure ⟨1, [report.exportText]⟩
    | kind =>
      if kind.isHandled then
        Job.note .error ("Fatal error: " ++ fault.text)
        pure ⟨1, []⟩
      else throw fault

/-- Options that were read and checked. -/
def readOptions (words : List String) : Except Exit Options := do
  let options ← parse words
  check options
  pure options

end TableFerry.Command
