import TableFerry.Database.Basic
import TableFerry.Dialect.Compiler
/-!
How the columns of a source table go to those of the target: by name, whatever its case.
-/
namespace TableFerry.Mapping

/-- Delimited target columns by the source columns in lower case. -/
abbrev FieldMapping := List (String × String)

/-- The columns of the source that the target has not. -/
def unmatched (source target : Table) : List Column :=
  source.columns.filter fun column => (target.column? column.name).isNone

def unmatchedNotes (source target : Table) : List LogLine :=
  (unmatched source target).map fun column =>
    ⟨.warning, s!"Table[{source.name}] column {column.name} has no match in target, " ++
      "its values will not be copied"⟩

/-- The target column of every source column that has one; of equal names in lower case the last holds. -/
def ofTables (c : Compiler) (source target : Table) : FieldMapping :=
  source.columns.foldl (fun mapping column =>
    match target.column? column.name with
    | some twin => putEntry (Text.lower column.name) (c.wrap twin.name) mapping
    | none => mapping) []

/-- The values of a row under the names of their target columns. -/
def mapRow (mapping : FieldMapping) (row : Row) : Row :=
  row.foldl (fun mapped field =>
    match mapping.lookup (Text.lower field.1) with
    | some name => Fields.put name field.2 mapped
    | none => mapped) []

def mapRows (mapping : FieldMapping) (rows : List Row) : List Row := rows.map (mapRow mapping)

end TableFerry.Mapping
