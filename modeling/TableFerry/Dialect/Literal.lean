import TableFerry.Schema.Table
/-!
Text literals and default values in statements.
-/
namespace TableFerry.Literal

def doubleQuotes (cs : List Char) : List Char :=
  cs.flatMap fun c => if c = '\'' then ['\'', '\''] else [c]

/-- A text between single quotes, with every quote in it written twice. Semicolons can be left out. -/
def quote (text : String) (dropSemicolons : Bool := false) : String :=
  let cs := text.toList
  let cs := if dropSemicolons then cs.filter (· ≠ ';') else cs
  String.ofList ('\'' :: doubleQuotes cs ++ ['\''])

/-- A quoted text that is marked when it is not ASCII alone. -/
def national (text : String) : String :=
  if Text.isAsciiText text then quote text else "N" ++ quote text

/-- A column default as it stands in a statement: nothing for a blank one, quoted if it is a text. -/
def defaultValue (column : Column) : String :=
  match column.default with
  | none => ""
  | some value =>
    if Text.isBlankText value then ""
    else if Text.hasPiece (Text.upper value) "CURRENT_TIMESTAMP" then value
    else if !Text.isAsciiText value || value.toList.any Text.isAsciiLetter then quote value
    else value

end TableFerry.Literal
