import TableFerry.Scripted.Database
/-!
Reading scripts from values: the tables of a database as its catalogue gives them, the rules for its
statements, and errors with what caused them. A nested error may refer to one that it is part of by the number
of levels between the two.
-/
namespace TableFerry

open Number (Double)

namespace Value

/-- The value of a field; there is none in a value that is no record. -/
def field? : Value → String → Option Value
  | .record fields, name => fields.lookup name
  | _, _ => none

/-- The value of a field, null if there is none. -/
def field (value : Value) (name : String) : Value := (value.field? name).getD .null

theorem sizeOf_lookup {fields : List (String × Value)} {name : String} {value : Value}
    (found : fields.lookup name = some value) : sizeOf value < sizeOf fields := by
  induction fields with
  | nil => simp at found
  | cons entry rest ih =>
    obtain ⟨key, other⟩ := entry
    simp only [List.lookup_cons] at found
    split at found
    · obtain rfl := Option.some.inj found
      simp only [List.cons.sizeOf_spec, Prod.mk.sizeOf_spec]
      omega
    · have := ih found
      simp only [List.cons.sizeOf_spec]
      omega

theorem sizeOf_field? {value inner : Value} {name : String} (found : value.field? name = some inner) :
    sizeOf inner < sizeOf value := by
  cases value <;> simp only [field?, reduceCtorEq] at found
  have := sizeOf_lookup found
  simp only [record.sizeOf_spec]
  omega

def given? : Value → Option Value
  | null => none
  | value => some value

def items : Value → List Value
  | list items => items
  | tuple items => items
  | _ => []

def textOr (value : Value) (default : String := "") : String := value.text?.getD default

def texts (value : Value) : List String := value.items.map (·.textOr)

/-- Fields from a record, or from a list of pairs in which a later value takes the place of an earlier one. -/
def toFields : Value → Fields
  | record fields => fields
  | value =>
    Fields.ofPairs (value.items.map fun pair =>
      ((pair.items.getD 0 null).textOr, pair.items.getD 1 null))

def toDouble : Value → Double
  | real d => d
  | value => Double.ofInt (value.whole?.getD 0)

mutual

/-- The same value with tuples in place of lists. -/
def withTuples : Value → Value
  | list items => tuple (withTuplesIn items)
  | value => value

def withTuplesIn : List Value → List Value
  | [] => []
  | item :: items => withTuples item :: withTuplesIn items

end

end Value

namespace ErrorNode

def kindOf (j : Value) : ErrorKind :=
  match (j.field "kind").textOr with
  | "sa" => .database
  | "ddl" => .ddl (j.field "statement")
  | "copy" => .dataCopy (j.field "table") (j.field "page")
  | "metadata" => .metadata (j.field "table")
  | "config" => .configuration []
  | _ => .native

/-- The arguments of an error; only errors of a driver have other arguments than their message. -/
def argsOf (j : Value) : List Value :=
  match kindOf j, j.field "args" with
  | .native, .list args => args.map (·.withTuples)
  | _, _ => [((j.field "message").given?).getD (.text "")]

end ErrorNode

namespace Fault

/-- Errors found so far, each with the tag that its description has. -/
abbrev Found := Array (ErrorNode × Value)

/-- What a link is that describes no error of its own. -/
def plainLink (above : List Nat) (value : Value) : Link :=
  match value.field? "up" with
  | some levels => .error (above.getD (levels.whole?.getD 0).toNat 0)
  | none => .value value

def describesError (value : Value) : Bool :=
  match value with
  | .record fields => (fields.lookup "up").isNone
  | _ => false

/-- Adds the errors of a description and gives the number of the outermost; `above` holds the numbers of the
errors that it is part of, the nearest first. -/
def readNode (j : Value) (above : List Nat) (found : Found) : Nat × Found :=
  let index := found.size
  let found := found.push (default, .null)
  let link (name : String) (found : Found) : Link × Found :=
    match _h : j.field? name with
    | none => (.absent, found)
    | some value =>
      if describesError value then
        let (inner, found) := readNode value (index :: above) found
        (.error inner, found)
      else (plainLink (index :: above) value, found)
  let (cause, found) := link "cause" found
  let (origin, found) := link "orig" found
  let node : ErrorNode := {
    kind := ErrorNode.kindOf j
    args := ErrorNode.argsOf j
    pgcode := j.field "pgcode"
    sqlstate := j.field "sqlstate"
    cause := cause
    origin := origin }
  (index, found.setIfInBounds index (node, j.field "tag"))
termination_by sizeOf j
decreasing_by exact Value.sizeOf_field? _h

/-- The fault that a value describes, and the tags of its errors. -/
def readTagged (j : Value) : Fault × List Value :=
  let found := (readNode j [] #[]).2.toList
  ({ nodes := found.map (·.1) }, found.map (·.2))

def ofValue (j : Value) : Fault := (readTagged j).1

end Fault

def ReflectedType.ofValue (j : Value) : ReflectedType :=
  { unknown := (j.field "null_type").truthy
    visitName := j.field "visit_name"
    className := (j.field "class").textOr "FakeType"
    length := j.field "length"
    precision := j.field "precision"
    scale := j.field "scale"
    displayWidth := j.field "display_width"
    timezone := (j.field "timezone").truthy
    unsigned := (j.field "unsigned").truthy }

def ReflectedColumn.ofValue (j : Value) : ReflectedColumn :=
  { name := (j.field "name").textOr
    type := ReflectedType.ofValue (j.field "type")
    nullable := (j.field? "nullable").getD (.bool true)
    default := j.field "default"
    comment := (j.field "comment").text? }

def ReflectedIndex.ofValue (j : Value) : ReflectedIndex :=
  { name := (j.field "name").text?
    columnNames := (j.field "column_names").items.map (·.text?)
    unique := j.field "unique" }

def ReflectedTable.ofValue (j : Value) : ReflectedTable :=
  { name := (j.field "name").textOr
    columns := (j.field "columns").items.map ReflectedColumn.ofValue
    keyNames := (j.field "pk").texts
    indexes := (j.field "indexes").items.map ReflectedIndex.ofValue
    comment := (j.field "comment").text? }

def ScriptRule.ofValue (j : Value) : ScriptRule :=
  { piece := (j.field "match").textOr
    times := (j.field "times").whole?
    remove := (j.field "remove").text?
    add := (j.field "add").given?.map ReflectedTable.ofValue
    scalar := (j.field "scalar").given?
    rows := (j.field "rows").given?.map fun rows => rows.items.map (·.toFields)
    tick := (j.field "tick").given?.map (·.toDouble)
    error := (j.field "error").given?.map Fault.ofValue }

def Script.ofValue (label : String) (j : Value) : Script :=
  { label := label
    dialectName := (j.field "dialect").textOr "sqlite"
    version := j.field "version"
    tables := (j.field "tables").items.map ReflectedTable.ofValue
    rules := (j.field "rules").items.map ScriptRule.ofValue
    noComments := (j.field "no_comments").truthy
    connectError := (j.field "connect_error").given?.map Fault.ofValue }

/-- Scripts by URL, from a list of triples of a URL, a label and a script. -/
def Scripts.knownOf (j : Value) : List (String × Script) :=
  j.items.map fun entry =>
    ((entry.items.getD 0 .null).textOr,
      Script.ofValue ((entry.items.getD 1 .null).textOr) (entry.items.getD 2 .null))

end TableFerry
