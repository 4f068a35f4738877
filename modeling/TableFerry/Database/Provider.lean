import TableFerry.Database.Session
import TableFerry.Database.SourceName
import TableFerry.Url
/-!
Providers of connections: a datasource together with the database behind it, the URL and the options with
which a pool of connections is made, and names as the database expects them in queries.
-/
namespace TableFerry

structure Provider (σ : Type) where
  config : Datasource
  db : Database σ

namespace Datasource

/-- The URL of a datasource with the driver of its engine, if it names none, and with its user. -/
def connectUrl (config : Datasource) : Except Fault Url := do
  let invalid (cause : String) : Fault :=
    .configuration ("Invalid URL for datasource " ++ config.id.shown ++ ": " ++ cause)
      [("datasource", config.id)]
  match config.url with
  | .text text =>
    match Url.read text with
    | .error .unreadable => throw (invalid "Could not parse SQLAlchemy URL from given URL string")
    | .error (.badPort port) => throw (NotWhole.badText port).fault
    | .ok url =>
      let url :=
        if url.driver.toList.contains '+' then url else { url with driver := config.engine.driver }
      if config.engine = .sqlite then pure url
      else
        match config.user with
        | .text user => pure { url with username := some user, password := config.password }
        | _ => throw (.single .wrongType "username must be a string")
  | value => throw (invalid ("Expected string or URL object, got " ++ value.written))

/-- The options of a pool of connections. -/
def poolOptions (config : Datasource) (debug : Value) (size : Value) : Fields :=
  [("echo", debug), ("pool_pre_ping", .bool true)] ++
    (if config.engine = .sqlite then []
     else [("pool_size", size), ("max_overflow", size), ("pool_recycle", .int 3600)]) ++
    (if config.engine = .oracle && config.bufferRows.truthy then [("arraysize", config.bufferRows)] else [])

end Datasource

/-- The usual size of a pool of connections. -/
def usualPoolSize : Value := .int 10

namespace Provider

variable {σ α : Type}

/-- Makes a pool for a datasource; `connect` finds the database behind a written URL. -/
def create (config : Datasource) (debug size : Value) (connect : String → Job σ (Database σ)) :
    Job σ (Provider σ) := do
  let url ← Job.ofExcept config.connectUrl
  Job.note .info
    ("Creating connection pool for datasource " ++ config.id.shown ++ " (" ++ config.engine.name ++ ")")
  Job.trace (.engine url.render (config.poolOptions debug size))
  let db ← connect url.render
  pure ⟨config, db⟩

/-- The version numbers of the server; none when they cannot be read. -/
def serverVersion (provider : Provider σ) : Job σ (List Int) := do
  match ← (provider.db.withConnection (pure ())).attempt with
  | .ok _ =>
    match provider.db.versionInfo with
    | .list items => pure (items.filterMap Compiler.wholeNumber?)
    | _ => pure []
  | .error fault =>
    if !fault.kind.isDatabase then throw fault
    Job.note .warning ("Could not read server version of " ++ provider.config.id.shown ++ ": " ++ fault.text)
    pure []

def quote (provider : Provider σ) (name : String) : Except Fault String :=
  match SourceName.quote? provider.db.dialectName name with
  | some quoted => .ok quoted
  | none => .error (.single .emptyName "string index out of range")

/-- The name of a table as the database expects it, under the schema if there is one. -/
def qualifiedName (provider : Provider σ) (table : String) : Except Fault String := do
  if provider.config.schemaName.truthy then
    let schema ← provider.quote provider.config.schemaName.shown
    let table ← provider.quote table
    pure (schema ++ "." ++ table)
  else provider.quote table

def dispose (provider : Provider σ) : Job σ Unit := do
  provider.db.send .dispose
  Job.note .debug ("Disposed connection pool for datasource " ++ provider.config.id.shown)

def written (provider : Provider σ) : String :=
  "DataSourceProvider(" ++ provider.config.id.written ++ ", " ++ provider.db.dialectName ++ ")"

end Provider

end TableFerry
