import TableFerry.Value
/-!
Writing values as JSON in ASCII, on one line or with two spaces of indentation per level.
-/
namespace TableFerry.Json

open Number (Double)

def unitEscape (n : Nat) : List Char := '\\' :: 'u' :: Text.hexDigits 4 n

/-- A character inside a JSON string. Characters above the first plane take two escapes. -/
def stringChar (c : Char) : List Char :=
  let n := c.toNat
  if c = '"' then ['\\', '"']
  else if c = '\\' then ['\\', '\\']
  else if c = '\n' then ['\\', 'n']
  else if c = '\r' then ['\\', 'r']
  else if c = '\t' then ['\\', 't']
  else if n = 8 then ['\\', 'b']
  else if n = 12 then ['\\', 'f']
  else if 0x20 ≤ n && n < 0x7f then [c]
  else if n < 0x10000 then unitEscape n
  else
    let above := n - 0x10000
    unitEscape (0xd800 + above / 0x400) ++ unitEscape (0xdc00 + above % 0x400)

def stringText (s : String) : String :=
  String.ofList ('"' :: s.toList.flatMap stringChar ++ ['"'])

def realText : Double → String
  | .nan => "NaN"
  | .infinite negative => if negative then "-Infinity" else "Infinity"
  | d => d.shortest

mutual

def compact : Value → String
  | .null => "null"
  | .bool b => if b then "true" else "false"
  | .int n => toString n
  | .real d => realText d
  | .text s => stringText s
  | .list items => "[" ++ Text.joinWith "," (compactItems items) ++ "]"
  | .tuple items => "[" ++ Text.joinWith "," (compactItems items) ++ "]"
  | .record fields => "\x7b" ++ Text.joinWith "," (compactFields fields) ++ "\x7d"

def compactItems : List Value → List String
  | [] => []
  | item :: items => compact item :: compactItems items

def compactFields : List (String × Value) → List String
  | [] => []
  | (name, value) :: fields => (stringText name ++ ":" ++ compact value) :: compactFields fields

end

def newLine (level : Nat) : String := "\n" ++ String.ofList (List.replicate (2 * level) ' ')

/-- Items on lines of their own one level deeper, or nothing between the brackets. -/
def block (opening closing : String) (level : Nat) (items : List String) : String :=
  if items.isEmpty then opening ++ closing
  else opening ++ newLine (level + 1) ++ Text.joinWith ("," ++ newLine (level + 1)) items ++
    newLine level ++ closing

mutual

def indentedAt (level : Nat) : Value → String
  | .null => "null"
  | .bool b => if b then "true" else "false"
  | .int n => toString n
  | .real d => realText d
  | .text s => stringText s
  | .list items => block "[" "]" level (indentedItems (level + 1) items)
  | .tuple items => block "[" "]" level (indentedItems (level + 1) items)
  | .record fields => block "\x7b" "\x7d" level (indentedFields (level + 1) fields)

def indentedItems (level : Nat) : List Value → List String
  | [] => []
  | item :: items => indentedAt level item :: indentedItems level items

def indentedFields (level : Nat) : List (String × Value) → List String
  | [] => []
  | (name, value) :: fields =>
    (stringText name ++ ": " ++ indentedAt level value) :: indentedFields level fields

end

def indented (value : Value) : String := indentedAt 0 value

end TableFerry.Json
