import TableFerry.Schema.Category
import TableFerry.Text.Case
import TableFerry.Text.Digit
import TableFerry.Text.Search
/-!
Declared types such as `decimal(10, 2)` or `timestamp(6) with time zone`: the words of the type, the numbers
of its first parenthesis, and the category both belong to.
-/
namespace TableFerry

/-- The words of a declared type, joined by single spaces, with its precision and scale. -/
structure DeclaredType where
  base : String
  precision : Option Nat
  scale : Option Nat
  deriving DecidableEq, Repr

namespace DeclaredType

def skipBlanks (cs : List Char) : List Char := cs.dropWhile Text.isBlankChar

/-- The numbers behind an opening parenthesis, if it holds one or two of them and is closed. -/
def numbersAt? (cs : List Char) : Option (Nat × Option Nat) :=
  let first := cs.takeWhile Text.isDigit
  if first.isEmpty then none
  else
    let rest := cs.drop first.length
    match rest with
    | ')' :: _ => some (Text.digitsValue first, none)
    | _ =>
      match skipBlanks rest with
      | ',' :: rest =>
        let rest := skipBlanks rest
        let second := rest.takeWhile Text.isDigit
        if second.isEmpty then none
        else match rest.drop second.length with
          | ')' :: _ => some (Text.digitsValue first, some (Text.digitsValue second))
          | _ => none
      | _ => none

/-- The numbers of the first parenthesis that holds numbers only. -/
def findNumbers? : List Char → Option (Nat × Option Nat)
  | [] => none
  | c :: cs =>
    if c = '(' then (numbersAt? cs).orElse fun _ => findNumbers? cs else findNumbers? cs

/-- Puts a blank in place of every parenthesis with what it holds; one that is never closed stays. -/
def blankParentheses : List Char → List Char
  | [] => []
  | c :: cs =>
    if c = '(' && cs.contains ')' then
      ' ' :: blankParentheses ((cs.dropWhile (· ≠ ')')).drop 1)
    else c :: blankParentheses cs
termination_by cs => cs.length
decreasing_by
  · have h : (cs.dropWhile (· ≠ ')')).length ≤ cs.length :=
      (List.dropWhile_sublist _).length_le
    simp only [List.length_drop, List.length_cons]
    omega
  · simp

def parse (text : String) : DeclaredType :=
  let cs := text.toList
  let numbers := findNumbers? cs
  { base := Text.joinWith " " ((Text.words (blankParentheses cs)).map String.ofList)
    precision := numbers.map (·.1)
    scale := numbers.bind (·.2) }

end DeclaredType

/-- Names of types, in lower case and without numbers, with their categories. -/
def knownTypes : List (String × Category) := [
  ("bit", .bit), ("bool", .bit), ("boolean", .boolean), ("tinyint", .tinyint), ("smallint", .smallint),
  ("mediumint", .integer), ("int", .integer), ("integer", .integer), ("bigint", .bigint),
  ("float", .real), ("real", .real), ("double", .double), ("double precision", .double),
  ("decimal", .decimal), ("numeric", .numeric), ("char", .char), ("enum", .char), ("set", .char),
  ("varchar", .varchar), ("tinytext", .varchar), ("text", .longVarchar), ("mediumtext", .longVarchar),
  ("longtext", .longVarchar), ("json", .longVarchar), ("binary", .binary), ("varbinary", .varbinary),
  ("tinyblob", .varbinary), ("blob", .longVarbinary), ("mediumblob", .longVarbinary),
  ("longblob", .longVarbinary), ("date", .date), ("year", .date), ("time", .time),
  ("datetime", .timestamp), ("timestamp", .timestamp),
  ("int2", .smallint), ("int4", .integer), ("int8", .bigint), ("float4", .real), ("float8", .double),
  ("double_precision", .double), ("character", .char), ("character varying", .varchar),
  ("jsonb", .longVarchar), ("bytea", .longVarbinary), ("timestamp without time zone", .timestamp),
  ("timestamp with time zone", .timestamp), ("timestamptz", .timestamp),
  ("time with time zone", .timeWithZone), ("timetz", .timeWithZone),
  ("clob", .longVarchar),
  ("number", .decimal), ("binary_float", .real), ("binary_double", .double), ("varchar2", .varchar),
  ("nvarchar2", .varchar), ("nchar", .char), ("nclob", .longNVarchar), ("long", .longVarchar),
  ("raw", .varbinary),
  ("nvarchar", .varchar), ("ntext", .longNVarchar), ("image", .longVarbinary), ("money", .decimal),
  ("datetime2", .timestamp), ("smalldatetime", .timestamp),
  ("datetimeoffset", .timestampWithOffset)]

namespace Category

def firstWord (base : String) : String := String.ofList (base.toList.takeWhile (· ≠ ' '))

/-- The category of the words of a type: by all of them, by the first, or as some kind of timestamp. -/
def ofWords (base : String) : Category :=
  match (knownTypes.lookup base).orElse fun _ => knownTypes.lookup (firstWord base) with
  | some category => category
  | none => if Text.hasStart base "timestamp" then timestamp else other

/-- The category of a declared type. A size given beside it comes before the one written in it; a tiny
integer of size one is a bit. -/
def ofDeclared (typeName : String) (size : Option Int) : Category :=
  if typeName = "" then other
  else
    let declared := DeclaredType.parse (Text.lower typeName)
    let size := size.orElse fun _ => declared.precision.map Int.ofNat
    if declared.base = "tinyint" && size == some 1 then bit else ofWords declared.base

end Category

end TableFerry
