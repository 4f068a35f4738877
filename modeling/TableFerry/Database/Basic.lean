import TableFerry.Dialect.Drafting
import TableFerry.Schema.Reflected
/-!
Databases as things that answer requests. A database is given by how it answers each kind of request from a
state; nothing else is assumed about it. A job sends requests and leaves a trace of everything it sent and
announced, in order.
-/
namespace TableFerry

open Number (Double)

abbrev Row := Fields

/-- One page of the rows of a query. -/
structure PageQuery where
  sql : String
  order : List String
  limit : Nat
  offset : Nat
  deriving DecidableEq, Repr, Inhabited

/-- What is sent to a database. -/
inductive Request where
  | connect
  | close
  | dispose
  | tableNames (schema : Value)
  | reflect (table : String) (schema : Value)
  | execute (sql : String)
  | begin
  | commit
  | rollback
  | savepoint
  | release
  | rollbackTo
  | page (query : PageQuery)
  | insert (statement : String) (rows : List Row)
  deriving Inhabited

inductive Event where
  | sent (label : String) (request : Request)
  | announced (event : Lifecycle)
  | pool (size : Nat)
  | engine (url : String) (options : Fields)

/-- An answer is a value or a fault, and a new state. -/
abbrev Answer (σ α : Type) := σ → Except Fault α × σ

/-- How a database with states `σ` answers. A table that does not exist reflects as none; opening and closing a
savepoint changes the state and always succeeds. -/
structure Database (σ : Type) where
  label : String
  dialectName : String
  versionInfo : Value
  connect : Answer σ Unit
  tableNames : Value → Answer σ (List String)
  reflect : String → Value → Answer σ (Option ReflectedTable)
  execute : String → Answer σ Value
  page : PageQuery → Answer σ (List Row)
  insert : String → List Row → Answer σ Unit
  begin : Answer σ Unit
  commit : Answer σ Unit
  rollback : Answer σ Unit
  savepoint : σ → σ
  release : σ → σ
  rollbackTo : σ → σ

/-- The state of a job: that of the databases, what was drawn and logged, what was sent and announced, the
report of the run under way, and the stage of the table under way. -/
structure World (σ : Type) where
  state : σ
  now : σ → Double
  draft : Draft := {}
  trace : List Event := []
  report : Report := Report.begin (Double.zero false)
  stage : Stage := .discover

abbrev Job (σ : Type) := ExceptT Fault (StateM (World σ))

namespace Job

variable {σ α : Type}

def clock : Job σ Double := do
  let world ← get
  pure (world.now world.state)

def trace (event : Event) : Job σ Unit :=
  modify fun world => { world with trace := world.trace ++ [event] }

def note (level : Level) (text : String) : Job σ Unit :=
  modify fun world =>
    { world with draft := { world.draft with log := world.draft.log ++ [⟨level, text⟩] } }

def noteAll (lines : List LogLine) : Job σ Unit :=
  modify fun world => { world with draft := { world.draft with log := world.draft.log ++ lines } }

def enter (stage : Stage) : Job σ Unit := modify fun world => { world with stage := stage }

/-- Runs a drafting computation on the draws and the log of the job. -/
def draft (drafting : Drafting α) : Job σ α := fun world =>
  let (result, draft) := drafting.run world.draft
  (result, { world with draft := draft })

def answer (f : Answer σ α) : Job σ α := fun world =>
  let (result, state) := f world.state
  (result, { world with state := state })

def change (f : σ → σ) : Job σ Unit := modify fun world => { world with state := f world.state }

/-- Runs a job and gives its fault as a value. -/
def attempt (job : Job σ α) : Job σ (Except Fault α) := fun world =>
  let (result, world) := job.run world
  (.ok result, world)

def ofExcept (result : Except Fault α) : Job σ α := fun world => (result, world)

end Job

namespace Database

variable {σ α : Type}

def send (db : Database σ) (request : Request) : Job σ Unit := Job.trace (.sent db.label request)

/-- Runs a job on a connection, which is closed afterwards in any case. A connection that is refused is not
traced. -/
def withConnection (db : Database σ) (job : Job σ α) : Job σ α := do
  Job.answer db.connect
  db.send .connect
  let result ← job.attempt
  db.send .close
  Job.ofExcept result

/-- Runs a job between `enter` and `leave`, or `undo` if it fails. -/
def bracket (db : Database σ) (enter leave undo : Request) (onEnter onLeave onUndo : σ → σ)
    (job : Job σ α) : Job σ α := do
  db.send enter
  Job.change onEnter
  match ← job.attempt with
  | .ok value =>
    db.send leave
    Job.change onLeave
    pure value
  | .error fault =>
    db.send undo
    Job.change onUndo
    throw fault

/-- Runs a job in a transaction, which is committed if the job succeeds and rolled back if it fails. If that is
refused, then the fault with which it is takes the place of the result. -/
def withTransaction (db : Database σ) (job : Job σ α) : Job σ α := do
  db.send .begin
  Job.answer db.begin
  match ← job.attempt with
  | .ok value =>
    db.send .commit
    Job.answer db.commit
    pure value
  | .error fault =>
    db.send .rollback
    Job.answer db.rollback
    throw fault

def withSavepoint (db : Database σ) (job : Job σ α) : Job σ α :=
  db.bracket .savepoint .release .rollbackTo db.savepoint db.release db.rollbackTo job

end Database

end TableFerry
