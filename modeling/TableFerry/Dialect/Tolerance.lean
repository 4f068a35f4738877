import TableFerry.Dialect.Compiler
import TableFerry.Text.Digit
/-!
Errors of a target that do not matter: a table or an index that is there already, or is not there to be
dropped. Each dialect tells them from others by its own signs.
-/
namespace TableFerry.Compiler

def toleratedStates : List String := ["42P07", "42703", "42704"]

def toleratedMysql : List Int := [1050, 1061, 1091]

def toleratedSqlserver : List Int := [2714, 3701]

def emptyTextCode : String := "ORA-01400"

def toleratedOracle : List String := ["ORA-01418", "ORA-00955", "ORA-00942"]

def toleratedSqlite : List String := ["already exists", "no such index"]

def wholeNumber? : Value → Option Int
  | .int n => some n
  | .bool b => some (if b then 1 else 0)
  | _ => none

/-- The number of three to five digits behind an opening parenthesis and in front of a comma. -/
def numberAt? (cs : List Char) : Option Int :=
  let digits := cs.takeWhile Text.isDigit
  if 3 ≤ digits.length && digits.length ≤ 5 && (cs.drop digits.length).head? == some ',' then
    some (Text.digitsValue digits)
  else none

def numbersInText : List Char → List Int
  | [] => []
  | c :: cs => (if c = '(' then (numberAt? cs).toList else []) ++ numbersInText cs

/-- The numbers among the arguments of an error: those that are numbers and those that begin a tuple. -/
def argumentNumbers (args : List Value) : List Int :=
  args.filterMap wholeNumber? ++ args.filterMap fun arg =>
    match arg with
    | .tuple (first :: _) => wholeNumber? first
    | _ => none

/-- Whether the dialect tolerates an error; the text of the whole fault is looked at only where the driver
gives no code. -/
def tolerates (c : Compiler) (fault : Fault) : Bool :=
  match c.engine with
  | .mysql =>
    match fault.rootNode.args with
    | first :: _ => toleratedMysql.any fun code => first.same (.int code)
    | [] => false
  | .sqlserver =>
    (argumentNumbers fault.rootNode.args ++ numbersInText fault.fullText.toList).any
      toleratedSqlserver.contains
  | .postgresql | .vastbase | .kingbase =>
    match fault.stateCode with
    | .text state => toleratedStates.contains state
    | _ => false
  | .oracle =>
    let message := Text.upper fault.fullText
    Text.hasPiece message emptyTextCode || toleratedOracle.any (Text.hasPiece message ·)
  | .sqlite =>
    let message := Text.lower fault.fullText
    toleratedSqlite.any (Text.hasPiece message ·)

/-- The log lines that go with a tolerated error. -/
def toleranceNotes (c : Compiler) (fault : Fault) (table : Option String) : List LogLine :=
  let label := table.getD "None"
  if !c.tolerates fault then []
  else
    match c.engine with
    | .postgresql | .vastbase | .kingbase =>
      [⟨.debug, s!"Table[{label}] tolerated SQLSTATE {fault.stateCode.shown}: {fault.text}"⟩]
    | .oracle =>
      if Text.hasPiece (Text.upper fault.fullText) emptyTextCode then
        [⟨.error, s!"Table[{label}] has empty strings in NOT NULL columns, please check: {fault.text}"⟩]
      else []
    | _ => []

end TableFerry.Compiler
