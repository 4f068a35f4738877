import TableFerry.Schema.Table
import TableFerry.Text.Word
/-!
What a database catalogue says about a table, and the table that is made of it: type names and sizes,
defaults without the quoting of the engine, and indexes that can be built from plain columns.
-/
namespace TableFerry

/-- A column type as the catalogue gives it. A number may be missing or be something else than a number. -/
structure ReflectedType where
  unknown : Bool := false
  visitName : Value := .null
  className : String := "FakeType"
  length : Value := .null
  precision : Value := .null
  scale : Value := .null
  displayWidth : Value := .null
  timezone : Bool := false
  unsigned : Bool := false
  deriving Inhabited

structure ReflectedColumn where
  name : String
  type : ReflectedType
  nullable : Value := .bool true
  default : Value := .null
  comment : Option String := none
  deriving Inhabited

/-- An index; a member that is an expression has no column name. -/
structure ReflectedIndex where
  name : Option String
  columnNames : List (Option String)
  unique : Value := .null
  deriving Inhabited

/-- The comment is missing on an engine that keeps none. -/
structure ReflectedTable where
  name : String
  columns : List ReflectedColumn
  keyNames : List String := []
  indexes : List ReflectedIndex := []
  comment : Option String := none
  deriving Inhabited

namespace ReflectedType

/-- The name of a type as the source engine reports it. -/
def typeName (type : ReflectedType) : String :=
  if type.unknown then "OTHER"
  else
    let name := Text.upper (if type.visitName.truthy then type.visitName.shown else type.className)
    let name := if type.timezone && Text.hasStart name "TIMESTAMP" then "TIMESTAMP WITH TIME ZONE" else name
    if type.unsigned then name ++ " UNSIGNED" else name

/-- A whole number; a truth value counts as one. -/
def integer? : Value → Option Int
  | .int n => some n
  | .bool b => some (if b then 1 else 0)
  | _ => none

/-- Size and digits: the length, or the precision with the scale, or the display width. -/
def sizeAndDigits (type : ReflectedType) : Option Int × Option Int :=
  match integer? type.length with
  | some length => (some length, none)
  | none =>
    match integer? type.precision with
    | some precision => (some precision, integer? type.scale)
    | none => (integer? type.displayWidth, none)

end ReflectedType

namespace Default

def isCastChar (c : Char) : Bool := Text.isWordChar c || Text.isBlankChar c

/-- A cast `::name`, the name being words and blanks. -/
def isCast : List Char → Bool
  | ':' :: ':' :: name => !name.isEmpty && name.all isCastChar
  | _ => false

/-- Takes off parentheses while one opens the text and one closes it. -/
def stripOuter (cs : List Char) : List Char :=
  if cs.head? = some '(' ∧ cs.getLast? = some ')' then
    stripOuter (Text.stripChars (cs.drop 1).dropLast)
  else cs
termination_by cs.length
decreasing_by
  rename_i outer
  have shorter := Text.length_stripChars_le (cs.drop 1).dropLast
  have present : 0 < cs.length := by
    cases cs with
    | nil => simp at outer
    | cons _ _ => simp
  simp only [List.length_dropLast, List.length_drop] at shorter
  omega

/-- What stands between an opening quote and the last quote, behind which only a cast may follow. -/
def quotedInside? (cs : List Char) : Option (List Char) :=
  match cs with
  | '\'' :: rest =>
    let after := (rest.reverse.takeWhile (· ≠ '\'')).reverse
    if after.length < rest.length && (after.isEmpty || isCast after) then
      some (rest.take (rest.length - after.length - 1))
    else none
  | _ => none

/-- The text without a cast at its end. -/
def dropCast (cs : List Char) : List Char :=
  let name := (cs.reverse.takeWhile isCastChar).reverse
  let before := cs.take (cs.length - name.length)
  match before.reverse with
  | ':' :: ':' :: rest => if name.isEmpty then cs else rest.reverse
  | _ => cs

/-- A reflected default as plain text. There is none for NULL and for the next value of a sequence. -/
def normalize (default : String) : Option String :=
  let value := Text.strip default
  if value = "" || Text.upper value = "NULL" then none
  else if Text.hasStart (Text.lower value) "nextval(" then none
  else
    let cs := stripOuter value.toList
    some (String.ofList
      (match quotedInside? cs with
        | some inside => Text.replacePair '\'' '\'' ['\''] inside
        | none => dropCast cs))

end Default

namespace ReflectedColumn

def default? (column : ReflectedColumn) : Option String :=
  match column.default with
  | .null => none
  | value => Default.normalize value.shown

/-- The column of a table whose primary key is `keyNames`. -/
def toColumn (column : ReflectedColumn) (table : String) (keyNames : List String) : Column :=
  let typeName := column.type.typeName
  let (size, digits) := column.type.sizeAndDigits
  { name := column.name
    typeName := some typeName
    category := Category.ofDeclared typeName size
    size := size
    digits := digits
    nullable := column.nullable.truthy
    default := column.default?
    comment := column.comment
    isKey := keyNames.contains column.name
    table := some table }

end ReflectedColumn

namespace ReflectedIndex

/-- The names of the members that are plain columns. -/
def plainColumns (index : ReflectedIndex) : List String :=
  (index.columnNames.filterMap id).filter (· ≠ "")

/-- An index with a name and at least one plain column; any other cannot be built again. -/
def toIndex? (index : ReflectedIndex) (table : String) : Option Index :=
  match index.name with
  | none => none
  | some name =>
    if name = "" || index.plainColumns.isEmpty then none
    else some ⟨some name, some table, index.plainColumns, index.unique.truthy⟩

end ReflectedIndex

namespace ReflectedTable

/-- The lines about indexes that are left out. -/
def indexNotes (table : ReflectedTable) : List LogLine :=
  (table.indexes.filter fun index => (index.toIndex? table.name).isNone).map fun index =>
    ⟨.debug, s!"Table[{table.name}] skipping index " ++ index.name.getD "None" ++ " without plain columns"⟩

/-- The table that a catalogue entry describes. -/
def toTable (table : ReflectedTable) : Table :=
  { name := table.name
    columns := table.columns.map (·.toColumn table.name table.keyNames)
    indexes := table.indexes.filterMap (·.toIndex? table.name)
    keyNames := table.keyNames
    comment := table.comment }

end ReflectedTable

end TableFerry
