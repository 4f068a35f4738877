import TableFerry.Fault
import TableFerry.Schema.DeclaredType
/-!
Tables as read from a database: columns, indexes, primary key, and the number of rows where it is known.
-/
namespace TableFerry

structure Column where
  name : String
  typeName : Option String
  category : Category
  size : Option Int := none
  digits : Option Int := none
  nullable : Bool := true
  default : Option String := none
  comment : Option String := none
  isKey : Bool := false
  table : Option String := none
  deriving DecidableEq, Repr, Inhabited

namespace Column

def typeText (column : Column) : String := column.typeName.getD ""

def isJson (column : Column) : Bool :=
  let name := Text.lower (Text.strip column.typeText)
  name == "json" || name == "jsonb"

def isSortable (column : Column) : Bool := column.category.isSortable

end Column

structure Index where
  name : Option String
  table : Option String
  columns : List String
  unique : Bool := false
  deriving DecidableEq, Repr, Inhabited

namespace Index

def nameText (index : Index) : String := index.name.getD ""

/-- The table an index belongs to: its own word for it, or `table` if it has none. -/
def tableOr (index : Index) (table : String) : String :=
  match index.table with
  | some own => if own = "" then table else own
  | none => table

end Index

structure Table where
  name : String
  columns : List Column
  indexes : List Index := []
  keyNames : List String := []
  comment : Option String := none
  deriving DecidableEq, Repr, Inhabited

namespace Table

/-- The first name that stands in the list a second time. -/
def firstRepeated? (seen : List String) : List String → Option String
  | [] => none
  | name :: names => if seen.contains name then some name else firstRepeated? (name :: seen) names

/-- A table is refused when two of its columns have one name. -/
def checked (table : Table) : Except Fault Table :=
  match firstRepeated? [] (table.columns.map (·.name)) with
  | some name => .error (.metadata s!"Duplicate column '{name}' in table '{table.name}'" table.name)
  | none => .ok table

/-- A table counts as present only with at least one column. -/
def isPresent (table : Table) : Bool := !table.columns.isEmpty

/-- The first column with a name, whatever its case. -/
def column? (table : Table) (name : String) : Option Column :=
  table.columns.find? fun column => Text.lower column.name == Text.lower name

def keyColumns (table : Table) : List Column := table.columns.filter (·.isKey)

end Table

/-- A table of the source with the number of its rows, if that is known. -/
structure SizedTable where
  name : String
  rows : Option Nat
  deriving DecidableEq, Repr, Inhabited

namespace SizedTable

/-- The count in which minus one stands for an unknown number. -/
def count (table : SizedTable) : Int :=
  match table.rows with
  | some n => n
  | none => -1

def ofCount (name : String) (count : Int) : Except Fault SizedTable :=
  if count < -1 then .error (.single .badValue s!"Invalid record count {count} for {name}")
  else .ok ⟨name, if count = -1 then none else some count.toNat⟩

end SizedTable

end TableFerry
