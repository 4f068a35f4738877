import TableFerry.Fault
import TableFerry.Text.Case
/-!
Datasources: the engines that can be reached and the description of one database, checked when it is made.
-/
namespace TableFerry

inductive Engine where
  | mysql
  | oracle
  | sqlserver
  | postgresql
  | vastbase
  | kingbase
  | sqlite
  deriving DecidableEq, Repr, Inhabited

namespace Engine

/-- The name of an engine in configurations. -/
def name : Engine → String
  | mysql => "mysql"
  | oracle => "oracle"
  | sqlserver => "sqlserver"
  | postgresql => "postgresql"
  | vastbase => "vastbase"
  | kingbase => "kingbase8"
  | sqlite => "sqlite"

/-- The driver for an engine when the URL names none. -/
def driver : Engine → String
  | mysql => "mysql+pymysql"
  | oracle => "oracle+oracledb"
  | sqlserver => "mssql+pymssql"
  | postgresql | vastbase | kingbase => "postgresql+psycopg2"
  | sqlite => "sqlite"

/-- A second name that configurations may use. -/
def longName : Engine → String
  | vastbase => "vast_base"
  | kingbase => "king_base_v8"
  | engine => engine.name

def all : List Engine := [mysql, oracle, sqlserver, postgresql, vastbase, kingbase, sqlite]

def ofName? (name : String) : Option Engine :=
  all.find? fun engine => engine.name == name || engine.longName == name

/-- The engine that a configuration names, whatever the case and the blanks around it. -/
def ofValue (value : Value) : Except Fault Engine :=
  let unsupported (key : String) : Except Fault Engine :=
    match ofName? (Text.lower (Text.strip key)) with
    | some engine => .ok engine
    | none =>
      .error (.configuration ("Unsupported database type: " ++ value.shown)
        [("supported", .list (all.map fun engine => .text engine.name))])
  match value with
  | .text s => unsupported s
  | value =>
    if value.truthy then
      .error (.single .wrongShape ("not the name of an engine: " ++ value.written))
    else unsupported ""

end Engine

/-- A value is blank when there is none or nothing but blanks in its text. -/
def Value.isBlank : Value → Bool
  | null => true
  | value => Text.isBlankText value.shown

/-- Words that stand for true. -/
def isTruthWord (s : String) : Bool :=
  let word := Text.lower (Text.strip s)
  word == "1" || word == "true" || word == "yes"

/-- One database: where it is, who uses it and how it is written to. The values are kept as they were given. -/
structure Datasource where
  id : Value
  url : Value
  user : Value
  password : Value
  engine : Engine
  schemaName : Value := .null
  encoding : Value := .null
  tablespace : Value := .null
  bufferRows : Value := .null
  extendedMode : Value := .bool false
  deriving Inhabited

namespace Datasource

/-- Other spellings of the names of the fields. -/
def aliases : List (String × String) := [
  ("dbUrl", "url"), ("db_url", "url"), ("userName", "user"), ("username", "user"),
  ("dbType", "db_type"), ("type", "db_type"), ("schemaName", "schema_name"), ("schema", "schema_name"),
  ("tbSpaceDdl", "tablespace_ddl"), ("bufferRows", "buffer_rows"), ("extendedMode", "extended_mode")]

def fieldNames : List String := [
  "id", "url", "user", "password", "db_type", "schema_name", "encoding", "tablespace_ddl", "buffer_rows",
  "extended_mode"]

def requiredNames : List String := ["id", "url", "user", "password", "db_type"]

def fieldName (name : String) : String := (aliases.lookup name).getD name

/-- The fields under their own names; of two for one field the last holds. -/
def normalized (fields : Fields) : Fields :=
  Fields.ofPairs (fields.map fun field => (fieldName field.1, field.2))

def get (fields : Fields) (name : String) (default : Value := .null) : Value :=
  (fields.get? name).getD default

def refuseBlank (id : Value) (name : String) (value : Value) : Except Fault Unit :=
  if value.isBlank then
    .error (.configuration s!"DbConfig.{name} must not be blank" [("datasource", id), ("field", .text name)])
  else .ok ()

/-- Refuses a number of buffered rows that is not positive. -/
def checkBufferRows (id bufferRows : Value) : Except Fault Unit :=
  match bufferRows with
  | .null => .ok ()
  | value => do
    let rows ← value.toWholeOrFault
    if rows ≤ 0 then
      .error (.configuration ("DbConfig.buffer_rows must be positive, got " ++ value.shown)
        [("datasource", id)])
    else .ok ()

/-- A datasource with the values as they are; blank texts, unknown engines and buffers that are not positive
are refused, in this order. -/
def ofFields (fields : Fields) : Except Fault Datasource := do
  let id := get fields "id"
  for name in ["id", "url", "user", "password"] do
    refuseBlank id name (get fields name)
  let engine ← Engine.ofValue (get fields "db_type")
  let bufferRows := get fields "buffer_rows"
  checkBufferRows id bufferRows
  pure {
    id := id
    url := get fields "url"
    user := get fields "user"
    password := get fields "password"
    engine := engine
    schemaName := get fields "schema_name"
    encoding := get fields "encoding"
    tablespace := get fields "tablespace_ddl"
    bufferRows := bufferRows
    extendedMode := get fields "extended_mode" (.bool false) }

/-- A datasource made of given fields only, whose names must be known and complete. -/
def ofArguments (fields : Fields) : Except Fault Datasource :=
  match fields.names.find? fun name => !fieldNames.contains name with
  | some name => .error (.single .wrongType ("unexpected argument '" ++ name ++ "'"))
  | none =>
    match requiredNames.find? fun name => (fields.get? name).isNone with
    | some name => .error (.single .wrongType ("missing argument '" ++ name ++ "'"))
    | none => ofFields fields

def writtenNames (names : List String) : String := (Value.list (names.map .text)).written

/-- The number of buffered rows as a number; none for an absent or empty one. -/
def readBufferRows (value : Value) : Except Fault Value :=
  match value with
  | .null => .ok .null
  | .text "" => .ok .null
  | value => do
    let rows ← value.toWholeOrFault
    pure (.int rows)

def readTruth : Value → Value
  | .text s => .bool (isTruthWord s)
  | value => value

/-- A datasource from a mapping of a configuration file, in which fields may have other spellings and
numbers and truth values may be texts. -/
def ofMapping (mapping : Fields) : Except Fault Datasource := do
  let fields := normalized mapping
  let id := get fields "id"
  let unknown := (fields.names.filter fun name => !fieldNames.contains name).mergeSort fun a b => a ≤ b
  if !unknown.isEmpty then
    throw (.configuration ("Unknown datasource keys: " ++ writtenNames unknown) [("datasource", id)])
  let missing := requiredNames.filter fun name => (fields.get? name).isNone
  if !missing.isEmpty then
    throw (.configuration ("Missing datasource keys: " ++ writtenNames missing) [("datasource", id)])
  let bufferRows ← readBufferRows (get fields "buffer_rows")
  let engine ← Engine.ofValue (get fields "db_type")
  let fields := Fields.put "buffer_rows" bufferRows fields
  let fields := Fields.put "extended_mode" (readTruth (get fields "extended_mode" (.bool false))) fields
  ofFields (Fields.put "db_type" (.text engine.name) fields)

/-- A mapping is needed; any other value has no fields. -/
def ofValue : Value → Except Fault Datasource
  | .record mapping => ofMapping mapping
  | value => .error (.single .wrongShape ("not a mapping of datasource fields: " ++ value.written))

/-- The fields of a datasource by name; the password only if it is asked for. -/
def toMapping (source : Datasource) (masked : Bool) : Fields := [
  ("id", source.id),
  ("url", source.url),
  ("user", source.user),
  ("password", if masked then .text "***" else source.password),
  ("db_type", .text source.engine.name),
  ("schema_name", source.schemaName),
  ("encoding", source.encoding),
  ("tablespace_ddl", source.tablespace),
  ("buffer_rows", source.bufferRows),
  ("extended_mode", source.extendedMode)]

def written (source : Datasource) : String :=
  "DbConfig(id=" ++ source.id.written ++ ", db_type=" ++ source.engine.name ++ ", url=" ++
    source.url.written ++ ")"

/-- The schema to write to, unless it is blank. -/
def schema? (source : Datasource) : Option Value :=
  if source.schemaName.isBlank then none else some source.schemaName

end Datasource

end TableFerry
