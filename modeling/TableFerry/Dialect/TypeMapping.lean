import TableFerry.Dialect.Compiler
/-!
The concrete type of a column in each dialect. Every category has one; columns of no known category keep
their declared type.
-/
namespace TableFerry.Compiler

/-- A size that is given and not zero. -/
def givenSize (size : Option Int) : Option Int := size.filter (· ≠ 0)

/-- A type alone, with its size, or with size and digits; digits may be asked to be positive. -/
def sized (type : String) (size digits : Option Int) (positiveDigits : Bool := false) : String :=
  match givenSize size with
  | none => type
  | some size =>
    match digits with
    | some digits =>
      if digits > 0 || !positiveDigits then s!"{type}({size},{digits})" else s!"{type}({size})"
    | none => s!"{type}({size})"

/-- Digits of a number, none meaning zero. -/
def digitsOrZero (column : Column) : Option Int := some (column.digits.getD 0)

/-- The declared type, or another name if there is none. -/
def declaredOr (column : Column) (other : String) : String :=
  if column.typeText = "" then other else column.typeText

def mysqlType (column : Column) : String :=
  match column.category with
  | .bit | .boolean => "TINYINT(1)"
  | .tinyint => "TINYINT"
  | .smallint => "SMALLINT"
  | .integer => "INT"
  | .bigint => "BIGINT"
  | .real => "FLOAT"
  | .double => "DOUBLE"
  | .decimal | .numeric =>
    match givenSize column.size with
    | none => "DECIMAL(65,30)"
    | some _ => sized "DECIMAL" column.size (digitsOrZero column)
  | .char => s!"CHAR({(givenSize column.size).getD 1})"
  | .varchar =>
    match givenSize column.size with
    | some size => s!"VARCHAR({size})"
    | none => if Text.upper column.typeText = "TINYTEXT" then "TINYTEXT" else "LONGTEXT"
  | .longVarchar | .longNVarchar => if column.isJson then "JSON" else "LONGTEXT"
  | .binary => s!"BINARY({(givenSize column.size).getD 1})"
  | .varbinary => s!"VARBINARY({(givenSize column.size).getD 255})"
  | .longVarbinary | .blob => "LONGBLOB"
  | .date => "DATE"
  | .time | .timeWithZone => "TIME"
  | .timestamp | .timestampWithOffset => "DATETIME"
  | .other => sized (Text.upper (declaredOr column "TEXT")) column.size column.digits

def postgresqlType (column : Column) : String :=
  match column.category with
  | .bit | .boolean => "BOOLEAN"
  | .tinyint | .smallint => "SMALLINT"
  | .integer => "INTEGER"
  | .bigint => "BIGINT"
  | .real => "REAL"
  | .double => "DOUBLE PRECISION"
  | .decimal | .numeric => sized "NUMERIC" column.size (digitsOrZero column)
  | .char => sized "CHAR" column.size none
  | .varchar => sized "VARCHAR" column.size none
  | .date => "DATE"
  | .time => "TIME"
  | .timeWithZone => "TIMETZ"
  | .timestampWithOffset => "TIMESTAMPTZ"
  | .timestamp => "TIMESTAMP"
  | .binary | .varbinary | .longVarbinary | .blob => "BYTEA"
  | .longVarchar | .longNVarchar => if column.isJson then "JSONB" else "TEXT"
  | .other => sized (Text.upper (declaredOr column "TEXT")) column.size column.digits

def sqliteType (column : Column) : String :=
  match column.category with
  | .bit | .boolean | .tinyint | .smallint | .integer | .bigint => "INTEGER"
  | .real | .double => "REAL"
  | .decimal | .numeric => sized "NUMERIC" column.size (digitsOrZero column)
  | .char | .varchar => sized "VARCHAR" column.size none
  | .binary | .varbinary | .longVarbinary | .blob => "BLOB"
  | .longVarchar | .longNVarchar | .date | .time | .timeWithZone | .timestampWithOffset
  | .timestamp => "TEXT"
  | .other => Text.upper (declaredOr column "TEXT")

def vastbaseType (column : Column) : String :=
  let declared :=
    let type := Text.strip column.typeText
    sized (if type = "" then "TEXT" else type) column.size column.digits true
  match column.category with
  | .bit | .boolean | .tinyint => "TINYINT"
  | .smallint => "SMALLINT"
  | .integer => "INTEGER"
  | .bigint => "BIGINT"
  | .double => "DOUBLE"
  | .decimal => sized "DECIMAL" column.size (digitsOrZero column)
  | .numeric => sized "NUMERIC" column.size (digitsOrZero column)
  | .date => "DATE"
  | .longVarbinary | .blob => "BLOB"
  | .char | .varchar => if (givenSize column.size).isNone then "TEXT" else declared
  | .longVarchar | .longNVarchar => if column.isJson then "TEXT" else declared
  | _ => declared

def kingbaseType (column : Column) : String :=
  let type := Text.strip column.typeText
  let typeOr (other : String) : String := if type = "" then other else type
  match column.category with
  | .double => "DOUBLE PRECISION"
  | .decimal => sized "DECIMAL" column.size (digitsOrZero column)
  | .longVarbinary | .blob => "BLOB"
  | .varchar => sized "VARCHAR" column.size none
  | .longVarchar | .longNVarchar => if column.isJson then "JSON" else typeOr "TEXT"
  | .date => "DATE"
  | .time => "TIME"
  | .timestamp => if Text.upper type = "DATETIME" then "DATETIME" else typeOr "TIMESTAMP"
  | _ =>
    if Text.hasPiece (Text.upper type) "UNSIGNED" then type
    else sized (typeOr "TEXT") column.size column.digits true

/-- Oracle stretches sized text by the width of characters, up to a limit. -/
def oracleType (c : Compiler) (column : Column) : Except Fault String :=
  match column.category with
  | .bit | .boolean => .ok "NUMBER(1,0)"
  | .tinyint | .smallint => .ok "NUMBER(3,0)"
  | .integer => .ok "INTEGER"
  | .bigint => .ok "NUMBER(20,0)"
  | .real | .double => .ok "FLOAT(24)"
  | .decimal | .numeric =>
    match givenSize column.size with
    | none => .ok "NUMBER"
    | some _ => .ok (sized column.category.name column.size (digitsOrZero column))
  | .date | .time | .timeWithZone | .timestampWithOffset => .ok "DATE"
  | .timestamp => .ok "TIMESTAMP"
  | .char | .varchar =>
    let limit : Int := if c.extended then 32767 else 4000
    match givenSize column.size with
    | none => .ok s!"VARCHAR2({limit})"
    | some size => do
      let width ← c.charWidth
      pure s!"VARCHAR2({min (size * width) limit})"
  | .binary | .varbinary | .longVarbinary | .blob => .ok "BLOB"
  | .longVarchar | .longNVarchar =>
    if column.isJson then
      .ok ("CLOB CHECK (" ++ Text.upper (Text.removeBlanks column.name) ++ " IS JSON)")
    else .ok "CLOB"
  | .other => .ok (sized (Text.upper (declaredOr column "CLOB")) column.size column.digits)

/-- SQL Server stretches sized text likewise and takes the unbounded type above its limit. -/
def sqlserverType (c : Compiler) (column : Column) : Except Fault String :=
  match column.category with
  | .bit | .boolean => .ok "BIT"
  | .tinyint => .ok "TINYINT"
  | .smallint => .ok "SMALLINT"
  | .integer => .ok "INT"
  | .bigint => .ok "BIGINT"
  | .real => .ok "FLOAT(24)"
  | .double => .ok "FLOAT(53)"
  | .decimal | .numeric =>
    match givenSize column.size with
    | none => .ok "DECIMAL(38,10)"
    | some _ => .ok (sized "DECIMAL" column.size (digitsOrZero column))
  | .timeWithZone | .timestampWithOffset => .ok "DATETIMEOFFSET(3)"
  | .timestamp => .ok "DATETIME"
  | .date => .ok "DATE"
  | .time => .ok "TIME"
  | .char | .varchar =>
    match givenSize column.size with
    | none => .ok "NVARCHAR(MAX)"
    | some size => do
      let width ← c.charWidth
      let length := size * width
      pure (if length > 4000 then "NVARCHAR(MAX)" else s!"NVARCHAR({length})")
  | .binary | .varbinary => .ok "VARBINARY(MAX)"
  | .longVarbinary | .blob => .ok "IMAGE"
  | .longVarchar | .longNVarchar =>
    if column.isJson then
      let name := Text.removeBlanks column.name
      let constraint := "json_" ++ Text.removeBlanks (column.table.getD "") ++ "_" ++ name
      .ok s!"NVARCHAR(4000) CONSTRAINT {constraint} CHECK (ISJSON([{name}]) = 1)"
    else .ok "NVARCHAR(MAX)"
  | .other => .ok (Text.upper (declaredOr column "NVARCHAR(MAX)"))

def mapType (c : Compiler) (column : Column) : Except Fault String :=
  match c.engine with
  | .mysql => .ok (mysqlType column)
  | .oracle => oracleType c column
  | .sqlserver => sqlserverType c column
  | .postgresql => .ok (postgresqlType column)
  | .vastbase => .ok (vastbaseType column)
  | .kingbase => .ok (kingbaseType column)
  | .sqlite => .ok (sqliteType column)

end TableFerry.Compiler
