import TableFerry.Json.Printer
import TableFerry.Log
/-!
What happens to the tables of a run: the events that workers announce, the log lines that go with them, and
the report that gathers the outcome of every table and every failed bucket.
-/
namespace TableFerry

open Number (Double)

inductive Stage where
  | discover
  | checkSource
  | checkTarget
  | rebuild
  | copyData
  | done
  deriving DecidableEq, Repr

namespace Stage

def name : Stage → String
  | discover => "discover"
  | checkSource => "check_source"
  | checkTarget => "check_target"
  | rebuild => "rebuild"
  | copyData => "copy_data"
  | done => "done"

def all : List Stage := [discover, checkSource, checkTarget, rebuild, copyData, done]

def ofName? (name : String) : Option Stage := all.find? (·.name == name)

end Stage

inductive Status where
  | succeeded
  | skipped
  | tolerated
  | failed
  deriving DecidableEq, Repr

def Status.name : Status → String
  | succeeded => "succeeded"
  | skipped => "skipped"
  | tolerated => "tolerated"
  | failed => "failed"

/-- What a worker announces about one table or about its bucket. An error is announced by its text; a bucket
that failed may lack one. -/
inductive Lifecycle where
  | started (bucket : Int) (table : String) (position total : Int)
  | skipped (bucket : Int) (table reason : String)
  | created (bucket : Int) (table : String) (statements : List String)
  | pageCopied (bucket : Int) (table : String) (page pages rows : Int)
  | succeeded (bucket : Int) (table : String) (position total rows : Int) (elapsed : Value)
  | tolerated (bucket : Int) (table : String) (stage : Stage) (error : String)
  | failed (bucket : Int) (table : String) (stage : Stage) (error : String)
  | bucketFinished (bucket : Int) (committed : Bool) (error : Option String)

namespace Lifecycle

/-- Seconds with two places, whatever kind of number they are given as. -/
def secondsText : Value → String
  | .real d => d.fixed 2
  | .int n => (Double.ofInt n).fixed 2
  | value => value.shown

/-- The log lines of an event. -/
def logLines : Lifecycle → List LogLine
  | started .. => []
  | skipped _ table reason => [⟨.info, s!"Table[{table}] skipped: {reason}"⟩]
  | created _ table statements =>
    ⟨.info, s!"Table[{table}] created with {statements.length} statement(s)"⟩ ::
      statements.map fun sql => ⟨.debug, s!"Table[{table}] DDL: {sql}"⟩
  | pageCopied _ table page pages rows =>
    [⟨.debug, s!"Table[{table}] page {page + 1}/{pages} copied ({rows} rows)"⟩]
  | succeeded _ table position total rows elapsed =>
    [⟨.info, s!"Table[{table}] ({position}/{total}) transfer succeed, {rows} rows in " ++
      secondsText elapsed ++ "s"⟩]
  | tolerated _ table stage error =>
    [⟨.warning, s!"Table[{table}] tolerated error during {stage.name}: {error}"⟩]
  | failed _ table stage error =>
    [⟨.error, s!"Table[{table}] transfer failed during {stage.name}: {error}"⟩]
  | bucketFinished bucket committed error =>
    if committed then [⟨.info, s!"Worker bucket {bucket} committed"⟩]
    else [⟨.error, s!"Worker bucket {bucket} rolled back: " ++ error.getD "None"⟩]

/-- The name of an event and its arguments in order. -/
def parts : Lifecycle → String × List Value
  | started bucket table position total =>
    ("table_started", [.int bucket, .text table, .int position, .int total])
  | skipped bucket table reason => ("table_skipped", [.int bucket, .text table, .text reason])
  | created bucket table statements =>
    ("table_created", [.int bucket, .text table, .list (statements.map .text)])
  | pageCopied bucket table page pages rows =>
    ("page_copied", [.int bucket, .text table, .int page, .int pages, .int rows])
  | succeeded bucket table position total rows elapsed =>
    ("table_succeeded", [.int bucket, .text table, .int position, .int total, .int rows, elapsed])
  | tolerated bucket table stage error =>
    ("table_tolerated", [.int bucket, .text table, .text stage.name, .text error])
  | failed bucket table stage error =>
    ("table_failed", [.int bucket, .text table, .text stage.name, .text error])
  | bucketFinished bucket committed error =>
    ("bucket_finished", [.int bucket, .bool committed] ++ (error.map Value.text).toList)

end Lifecycle

/-- Entries by key in the order in which the keys first came. -/
def putEntry {κ α : Type} [DecidableEq κ] (key : κ) (value : α) : List (κ × α) → List (κ × α)
  | [] => [(key, value)]
  | (k, old) :: rest => if k = key then (k, value) :: rest else (k, old) :: putEntry key value rest

structure Outcome where
  table : String
  status : Status
  bucket : Int
  rows : Int
  stage : Stage
  reason : Option String
  elapsed : Double
  deriving DecidableEq, Repr

/-- The record of a run: when it began and ended, the last outcome of every table, the error of every failed
bucket, and the tables that are under way with the time of their start. -/
structure Report where
  startedAt : Double
  finishedAt : Option Double := none
  outcomes : List (String × Outcome) := []
  bucketErrors : List (Int × String) := []
  underWay : List (String × Double) := []
  deriving DecidableEq, Repr, Inhabited

namespace Report

def begin (now : Double) : Report := { startedAt := now }

/-- Keeps an outcome; its duration counts from the start that was announced for the table, if one was. -/
def keep (report : Report) (now : Double) (outcome : Outcome) : Report :=
  let elapsed :=
    match report.underWay.lookup outcome.table with
    | some started => now.sub started
    | none => outcome.elapsed
  { report with
    underWay := report.underWay.filter (·.1 ≠ outcome.table)
    outcomes := putEntry outcome.table { outcome with elapsed := elapsed } report.outcomes }

def outcome (bucket : Int) (table : String) (status : Status) : Outcome :=
  ⟨table, status, bucket, 0, .done, none, Double.zero false⟩

/-- The report after an event at the time `now`. -/
def record (report : Report) (now : Double) : Lifecycle → Report
  | .started _ table _ _ => { report with underWay := putEntry table now report.underWay }
  | .skipped bucket table reason =>
    report.keep now { outcome bucket table .skipped with reason := some reason }
  | .created .. => report
  | .pageCopied .. => report
  | .succeeded bucket table _ _ rows _ =>
    report.keep now { outcome bucket table .succeeded with rows := rows }
  | .tolerated bucket table stage error =>
    report.keep now { outcome bucket table .tolerated with stage := stage, reason := some error }
  | .failed bucket table stage error =>
    report.keep now { outcome bucket table .failed with stage := stage, reason := some error }
  | .bucketFinished bucket committed error =>
    if committed then report
    else { report with bucketErrors := putEntry bucket (error.getD "None") report.bucketErrors }

def finish (report : Report) (now : Double) : Report := { report with finishedAt := some now }

def sortNames (names : List String) : List String := names.mergeSort fun a b => a ≤ b

/-- The tables that ended with a status, in the order of their names. -/
def tablesWith (report : Report) (status : Status) : List String :=
  sortNames ((report.outcomes.filter (·.2.status == status)).map (·.1))

def rowsCopied (report : Report) : Int := report.outcomes.foldl (fun total entry => total + entry.2.rows) 0

def ok (report : Report) : Bool :=
  report.bucketErrors.isEmpty && (report.tablesWith .failed).isEmpty

def countOf (report : Report) (status : Status) : Nat :=
  (report.outcomes.filter (·.2.status == status)).length

/-- The outcomes in the order of their tables. -/
def sortedOutcomes (report : Report) : List Outcome :=
  (report.outcomes.map (·.2)).mergeSort fun a b => a.table ≤ b.table

end Report

def Outcome.toFields (outcome : Outcome) : Value :=
  .record [
    ("table", .text outcome.table),
    ("status", .text outcome.status.name),
    ("bucket", .int outcome.bucket),
    ("rows_copied", .int outcome.rows),
    ("stage", .text outcome.stage.name),
    ("reason", .ofOption outcome.reason),
    ("elapsed", .real (outcome.elapsed.roundTo 3))]

namespace Report

/-- The end of the run, or the present while it has none. -/
def endAt (report : Report) (now : Double) : Double :=
  match report.finishedAt with
  | some finished => if finished.isZero then now else finished
  | none => now

def summary (report : Report) (now : Double) : Value :=
  .record [
    ("duration", .real (((report.endAt now).sub report.startedAt).roundTo 3)),
    ("tables", .int report.outcomes.length),
    ("succeeded", .int (report.countOf .succeeded)),
    ("skipped", .int (report.countOf .skipped)),
    ("tolerated", .int (report.countOf .tolerated)),
    ("failed", .int (report.countOf .failed)),
    ("rows_copied", .int report.rowsCopied),
    ("failed_buckets", .record (report.bucketErrors.map fun entry => (toString entry.1, .text entry.2))),
    ("outcomes", .list (report.sortedOutcomes.map (·.toFields)))]

def outcomeLine (outcome : Outcome) : String :=
  s!"{outcome.table}: {outcome.status.name} ({outcome.rows} rows)" ++
    (match outcome.reason with
      | none => ""
      | some reason => if reason = "" then "" else " - " ++ reason)

/-- One line per table and one of totals. -/
def exportText (report : Report) : String :=
  Text.joinWith "\n" (report.sortedOutcomes.map outcomeLine ++
    [s!"Total: {report.countOf .succeeded} succeeded, {report.countOf .skipped} skipped, " ++
      s!"{report.countOf .tolerated} tolerated, {report.countOf .failed} failed, " ++
      s!"{report.rowsCopied} rows"])

/-- The summary as indented JSON, or as lines of text for any other format. -/
def exportAs (report : Report) (now : Double) (format : String) : String :=
  if format = "json" then Json.indented (report.summary now) else report.exportText

end Report

end TableFerry
