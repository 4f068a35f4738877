import TableFerry.Config.Datasource
import TableFerry.Pattern.Matcher
import TableFerry.Schema.Table
/-!
The policy of a run: what to do with tables that exist, which tables to leave out, and how rows are copied.
-/
namespace TableFerry

inductive BuildMode where
  | deleteAndRebuild
  | skipWhenExist
  deriving DecidableEq, Repr, Inhabited

namespace BuildMode

def name : BuildMode → String
  | deleteAndRebuild => "delete_and_rebuild"
  | skipWhenExist => "skip_when_exist"

def all : List BuildMode := [deleteAndRebuild, skipWhenExist]

def ofValue (value : Value) : Except Fault BuildMode :=
  let key := Text.lower (Text.strip value.shown)
  match all.find? (·.name == key) with
  | some mode => .ok mode
  | none =>
    .error (.configuration ("Unknown build mode: " ++ value.shown)
      [("supported", .list (all.map fun mode => .text mode.name))])

end BuildMode

/-- A pattern of table names, as written and as read. -/
structure NamePattern where
  text : String
  compiled : Pattern.Compiled
  deriving Inhabited

namespace NamePattern

def ofText (text : String) : Except Fault NamePattern :=
  match Pattern.compile text.toList with
  | .ok compiled => .ok ⟨text, compiled⟩
  | .error fault =>
    if fault.mistake = .tooManyRepeats then .error (.single .tooLarge fault.mistake.message)
    else
      .error (.configuration ("Invalid ignored table pattern '" ++ text ++ "': " ++
        fault.message text.toList))

/-- A pattern covers a name when it takes the whole of it. -/
def covers (pattern : NamePattern) (name : String) : Bool := pattern.compiled.matchesAll name.toList

end NamePattern

structure Strategy where
  buildMode : BuildMode := .deleteAndRebuild
  maxRows : Option Nat := none
  includeData : Value := .bool true
  ignored : List NamePattern := []
  continueOnError : Value := .bool true
  pageSize : Nat := 5000
  debug : Value := .bool false
  pageSize_pos : 0 < pageSize := by decide
  deriving Inhabited

namespace Strategy

def defaultMaxRows : Nat := 500000

def aliases : List (String × String) := [
  ("buildType", "build_mode"), ("build_type", "build_mode"), ("maxRecordCount", "max_record_count"),
  ("includeData", "include_data"), ("ignoredTableNames", "ignored_table_patterns"),
  ("ignored_table_names", "ignored_table_patterns"), ("continueWhenError", "continue_when_error"),
  ("pageSize", "page_size")]

def fieldNames : List String := [
  "build_mode", "max_record_count", "include_data", "ignored_table_patterns", "continue_when_error",
  "page_size", "debug"]

def fieldName (name : String) : String := (aliases.lookup name).getD name

/-- The names in a value that holds several of them. -/
def patternItems : Value → Except Fault (List Value)
  | .list items => .ok items
  | .tuple items => .ok items
  | .text s => .ok (s.toList.map fun c => .text (String.ofList [c]))
  | .record fields => .ok (fields.map fun field => .text field.1)
  | value =>
    if value.truthy then
      .error (.single .wrongType ("not a list of patterns: " ++ value.written))
    else .ok []

def readPattern : Value → Except Fault NamePattern
  | .text s => NamePattern.ofText s
  | value => .error (.single .wrongType ("not a pattern: " ++ value.written))

/-- A number that is already whole. -/
def wholeField (value : Value) : Except Fault Int :=
  match value with
  | .int n => .ok n
  | .bool b => .ok (if b then 1 else 0)
  | value =>
    .error (.single .wrongType ("not a whole number: " ++ value.written))

/-- The policy that fields describe; unset fields keep their usual values. Refused are, in this order, an
unknown build mode, patterns that are no list, a page size below one, a limit below minus one and a pattern
that cannot be read. -/
def ofFields (fields : Fields) : Except Fault Strategy := do
  let get (name : String) (default : Value) : Value := (fields.get? name).getD default
  let buildMode ← BuildMode.ofValue (get "build_mode" (.text BuildMode.deleteAndRebuild.name))
  let patterns ← patternItems (get "ignored_table_patterns" (.list []))
  let pageSize ← wholeField (get "page_size" (.int 5000))
  if hp : pageSize < 1 then
    throw (.configuration s!"page_size must be at least 1, got {pageSize}")
  else
    let limit ← wholeField (get "max_record_count" (.int (-1)))
    if limit < -1 then
      throw (.configuration s!"max_record_count must be -1 or non-negative, got {limit}")
    else
      let ignored ← patterns.mapM readPattern
      pure {
        buildMode := buildMode
        maxRows := if limit = -1 then none else some limit.toNat
        includeData := get "include_data" (.bool true)
        ignored := ignored
        continueOnError := get "continue_when_error" (.bool true)
        pageSize := pageSize.toNat
        debug := get "debug" (.bool false)
        pageSize_pos := by omega }

/-- A policy made of given fields only, whose names must be known. -/
def ofArguments (fields : Fields) : Except Fault Strategy :=
  match fields.names.find? fun name => !fieldNames.contains name with
  | some name => .error (.single .wrongType ("unexpected argument '" ++ name ++ "'"))
  | none => ofFields fields

/-- As `ofArguments`, with the usual limit on the number of rows unless another is given. -/
def usual (fields : Fields) : Except Fault Strategy :=
  ofArguments (Fields.ofPairs (("max_record_count", .int defaultMaxRows) :: fields))

/-- Applies a conversion to a field if it is set. -/
def convert (name : String) (f : Value → Except Fault Value) (fields : Fields) : Except Fault Fields :=
  match fields.get? name with
  | none => .ok fields
  | some value => do
    let converted ← f value
    pure (Fields.put name converted fields)

def readWhole (value : Value) : Except Fault Value := do
  let n ← value.toWholeOrFault
  pure (.int n)

/-- The fields under their own names; the first unknown one is refused. -/
def normalized : Fields → Fields → Except Fault Fields
  | found, [] => .ok found
  | found, (name, value) :: rest =>
    let name := fieldName name
    if fieldNames.contains name then normalized (Fields.put name value found) rest
    else .error (.configuration ("Unknown strategy key: " ++ name))

/-- A policy from a mapping of a configuration file, in which fields may have other spellings, numbers and
truth values may be texts and a single pattern may stand for a list. -/
def ofMapping (mapping : Fields) : Except Fault Strategy := do
  let fields ← normalized [] mapping
  let fields ← convert "max_record_count" readWhole fields
  let fields ← convert "page_size" readWhole fields
  let truth (value : Value) : Except Fault Value := pure (Datasource.readTruth value)
  let fields ← convert "include_data" truth fields
  let fields ← convert "continue_when_error" truth fields
  let fields ← convert "debug" truth fields
  let single (value : Value) : Except Fault Value :=
    match value with
    | .text s => pure (.list [.text s])
    | value => pure value
  let fields ← convert "ignored_table_patterns" single fields
  ofFields fields

def ofValue : Value → Except Fault Strategy
  | .record mapping => ofMapping mapping
  | value =>
    if value.truthy then
      .error (.single .wrongShape ("not a mapping of strategy fields: " ++ value.written))
    else ofMapping []

/-- The limit on rows, in which minus one stands for none. -/
def limit (strategy : Strategy) : Int :=
  match strategy.maxRows with
  | some n => n
  | none => -1

/-- Whether a number of rows is known and above the limit. -/
def exceeds (strategy : Strategy) (rows : Option Nat) : Bool :=
  match strategy.maxRows, rows with
  | some most, some n => most < n
  | _, _ => false

def ignores (strategy : Strategy) (name : String) : Bool := strategy.ignored.any (·.covers name)

def skips (strategy : Strategy) (table : SizedTable) : Bool :=
  strategy.exceeds table.rows || strategy.ignores table.name

def toMapping (strategy : Strategy) : Fields := [
  ("build_mode", .text strategy.buildMode.name),
  ("max_record_count", .int strategy.limit),
  ("include_data", strategy.includeData),
  ("ignored_table_patterns", .list (strategy.ignored.map fun pattern => .text pattern.text)),
  ("continue_when_error", strategy.continueOnError),
  ("page_size", .int strategy.pageSize),
  ("debug", strategy.debug)]

end Strategy

end TableFerry
