import TableFerry.Dialect.Drafting
import TableFerry.Dialect.Literal
import TableFerry.Dialect.Rules
import TableFerry.Text.Encoding
/-!
The compiler of one dialect for one target, and its names: names are freed of blanks, folded and delimited
part by part, put under the schema of the target, and index names are made of the table and its columns and
cut to the length that the dialect admits.
-/
namespace TableFerry

/-- How many bytes an ideograph takes in an encoding; none stands for UTF-8. -/
def encodingWidth (encoding : Value) : Except Fault Int :=
  let width (name : String) : Except Fault Int :=
    match Text.ideographWidth? name with
    | some width => .ok width
    | none =>
      .error (.single .unusableEncoding
        ("encoding with '" ++ name ++ "' codec failed (UnicodeError: undefined encoding)"))
  match encoding with
  | .text "" => width "utf-8"
  | .text name => width name
  | value =>
    if value.truthy then
      .error (.single .wrongType
        ("encode() argument 'encoding' must be str, not " ++ value.kindName))
    else width "utf-8"

/-- Compiles statements for an engine. `config` decides widths, `destination` the schema and the tablespace;
`picks` gives the random characters by the number of the draw. -/
structure Compiler where
  engine : Engine
  config : Option Datasource
  version : List Int := []
  extended : Bool := false
  picks : Nat → Nat := fun _ => 0
  destination : Option Datasource := config

namespace Compiler

/-- A compiler for an engine; only Oracle has an extended mode, which the datasource sets. -/
def make (engine : Engine) (config : Option Datasource) (version : List Int) (picks : Nat → Nat)
    (extended : Option Bool := none) : Compiler :=
  let own := (config.map fun config => config.extendedMode.truthy).getD false
  { engine := engine
    config := config
    version := version
    extended := engine == .oracle && extended.getD own
    picks := picks }

/-- The same compiler writing to another target, if one is given. -/
def toward (c : Compiler) (target : Option Datasource) : Compiler :=
  { c with destination := target.orElse fun _ => c.destination }

def written (c : Compiler) : String :=
  s!"{c.engine.compilerName}(case={c.engine.caseRule.name}, comments={c.engine.commentPlace.name})"

def maxNameLength (c : Compiler) : Nat := c.engine.maxNameLength c.extended

def transactional (c : Compiler) : Bool := c.engine.transactionalDdl

/-- A name between the marks of the dialect. -/
def delimit (c : Compiler) (part : String) : String :=
  c.engine.delimiters.1 ++ part ++ c.engine.delimiters.2

def foldCase (c : Compiler) (name : String) : String := c.engine.caseRule.fold name

/-- A name without blanks, folded, each part between points in delimiters. -/
def wrap (c : Compiler) (name : String) : String :=
  let plain := Text.removeBlanks name
  if plain = "" then ""
  else Text.joinWith "." ((Text.splitAt '.' (c.foldCase plain)).map c.delimit)

/-- The schema of the target as it was given, unless it is blank. -/
def schema? (c : Compiler) : Option Value := c.destination.bind (·.schema?)

/-- The schema that stands in front of names. -/
def schemaText? (c : Compiler) : Option String :=
  match c.schema? with
  | some value => if value.truthy then some value.shown else none
  | none => none

/-- A name under the schema of the target. -/
def qualify (c : Compiler) (name : String) : String :=
  match c.schemaText? with
  | some schema => c.wrap (schema ++ "." ++ name)
  | none => c.wrap name

/-- As `qualify`; a missing name shows under a schema and is empty without one. -/
def qualifyOption (c : Compiler) (name : Option String) : String :=
  match name with
  | some name => c.qualify name
  | none =>
    match c.schemaText? with
    | some schema => c.wrap (schema ++ ".None")
    | none => ""

/-- The first `keep` characters, or all but the last if `keep` is negative. -/
def cut (keep : Int) (cs : List Char) : List Char :=
  if keep < 0 then cs.take (cs.length - keep.natAbs) else cs.take keep.toNat

def suffixAlphabet : List Char := "abcdefghijklmnopqrstuvwxyz0123456789".toList

def suffixChar (pick : Nat) : Char := suffixAlphabet.getD (pick % 36) 'a'

/-- Cuts a name so that an underscore, two random characters and `reserved` more still fit. -/
def truncate (c : Compiler) (name table : String) (reserved : Int) : Drafting String := do
  let first ← Drafting.next
  let second ← Drafting.next
  let kept := cut ((c.maxNameLength : Int) - (reserved + 3)) name.toList
  let shorter :=
    String.ofList (kept ++ ['_', suffixChar (c.picks first), suffixChar (c.picks second)])
  Drafting.note .warning (s!"Table[{table}] index[{name}] name length was greater than " ++
    s!"{c.maxNameLength}, the name was replaced with {shorter}")
  pure shorter

/-- The index name before it is cut: the prefix of the dialect and the parts that are not blank. -/
def fullIndexName (c : Compiler) (table : String) (columns : List String) : String :=
  c.engine.indexPrefix ++
    Text.joinWith "_" (((table :: columns).map Text.removeBlanks).filter (· ≠ ""))

/-- The name of an index on columns of a table; `label` is how the table shows in the log. -/
def indexName (c : Compiler) (label table : String) (columns : List String) : Drafting String :=
  let name := c.fullIndexName table columns
  let reserved := c.engine.indexPrefix.length
  if (name.length : Int) > (c.maxNameLength : Int) - reserved then c.truncate name label reserved
  else pure name

/-- The name under which an index is created. Oracle folds its parts first; KingBase takes it bare. -/
def createIndexName (c : Compiler) (table : Table) (index : Index) : Drafting String := do
  let owner := index.tableOr table.name
  match c.engine with
  | .kingbase => c.indexName owner owner index.columns
  | .oracle =>
    let owner := Text.upper owner
    let name ← c.indexName owner owner (index.columns.map Text.upper)
    pure (c.qualify name)
  | _ =>
    let name ← c.indexName owner owner index.columns
    pure (c.qualify name)

/-- The name under which an index is dropped. -/
def dropIndexName (c : Compiler) (table : Table) (index : Index) : String :=
  match c.engine with
  | .mysql => c.wrap index.nameText
  | .sqlserver => c.qualify (index.tableOr table.name ++ "." ++ index.name.getD "None")
  | _ => c.qualifyOption index.name

/-- Indexes that the engine makes by itself. -/
def ignoresIndex (c : Compiler) (index : Index) : Bool :=
  match c.engine with
  | .mysql => Text.upper index.nameText == "PRIMARY"
  | .oracle => Text.hasPiece (Text.lower index.nameText) "primary"
  | .sqlserver =>
    let name := Text.lower index.nameText
    Text.hasPiece name "pk" || Text.hasStart name "sys_"
  | .sqlite => Text.hasStart (Text.lower index.nameText) "sqlite_autoindex"
  | .postgresql | .vastbase | .kingbase => Text.hasPiece (Text.lower index.nameText) "_pkey"

/-- How many bytes an ideograph takes in the encoding of the target. -/
def charWidth (c : Compiler) : Except Fault Int :=
  encodingWidth ((c.config.map (·.encoding)).getD .null)

end Compiler

end TableFerry
