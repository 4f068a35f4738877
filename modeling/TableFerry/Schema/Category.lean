/-!
Categories of column types: what is left of a declared type when the engine it comes from is forgotten.
-/
namespace TableFerry

inductive Category where
  | bit
  | boolean
  | tinyint
  | smallint
  | integer
  | bigint
  | real
  | double
  | decimal
  | numeric
  | char
  | varchar
  | longVarchar
  | longNVarchar
  | binary
  | varbinary
  | longVarbinary
  | blob
  | date
  | time
  | timeWithZone
  | timestampWithOffset
  | timestamp
  | other
  deriving DecidableEq, Repr, Inhabited

namespace Category

def name : Category → String
  | bit => "BIT"
  | boolean => "BOOLEAN"
  | tinyint => "TINYINT"
  | smallint => "SMALLINT"
  | integer => "INTEGER"
  | bigint => "BIGINT"
  | real => "REAL"
  | double => "DOUBLE"
  | decimal => "DECIMAL"
  | numeric => "NUMERIC"
  | char => "CHAR"
  | varchar => "VARCHAR"
  | longVarchar => "LONGVARCHAR"
  | longNVarchar => "LONGNVARCHAR"
  | binary => "BINARY"
  | varbinary => "VARBINARY"
  | longVarbinary => "LONGVARBINARY"
  | blob => "BLOB"
  | date => "DATE"
  | time => "TIME"
  | timeWithZone => "TIME_WITH_TIMEZONE"
  | timestampWithOffset => "DATETIMEOFFSET"
  | timestamp => "TIMESTAMP"
  | other => "OTHER"

def all : List Category := [
  bit, boolean, tinyint, smallint, integer, bigint, real, double, decimal, numeric, char, varchar,
  longVarchar, longNVarchar, binary, varbinary, longVarbinary, blob, date, time, timeWithZone,
  timestampWithOffset, timestamp, other]

def ofName? (name : String) : Option Category := all.find? (·.name == name)

def isCharacter : Category → Bool
  | char | varchar => true
  | _ => false

def isLongText : Category → Bool
  | longVarchar | longNVarchar => true
  | _ => false

def isBinary : Category → Bool
  | binary | varbinary | longVarbinary | blob => true
  | _ => false

/-- Whether rows can be ordered by such a column on every engine. -/
def isSortable (category : Category) : Bool :=
  !(category.isLongText || category.isBinary || category == other)

end Category

end TableFerry
