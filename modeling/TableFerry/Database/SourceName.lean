import TableFerry.Text.Case
import TableFerry.Text.Search
/-!
Names in queries on the source: bare where the source reads them as they are, and in double quotes elsewhere.
-/
namespace TableFerry.SourceName

/-- Words that SQLite keeps for itself. -/
def sqliteWords : List String := [
  "add", "after", "all", "alter", "analyze", "and", "as", "asc", "attach", "autoincrement",
  "before", "begin", "between", "by", "cascade", "case", "cast", "check", "collate", "column",
  "commit", "conflict", "constraint", "create", "cross", "current_date", "current_time",
  "current_timestamp", "database", "default", "deferrable", "deferred", "delete", "desc", "detach",
  "distinct", "drop", "each", "else", "end", "escape", "except", "exclusive", "exists", "explain",
  "fail", "false", "for", "foreign", "from", "full", "glob", "group", "having", "if", "ignore",
  "immediate", "in", "index", "indexed", "initially", "inner", "insert", "instead", "intersect",
  "into", "is", "isnull", "join", "key", "left", "like", "limit", "match", "natural", "not",
  "notnull", "null", "of", "offset", "on", "or", "order", "outer", "plan", "pragma", "primary",
  "query", "raise", "references", "reindex", "rename", "replace", "restrict", "right", "rollback",
  "row", "select", "set", "table", "temp", "temporary", "then", "to", "transaction", "trigger",
  "true", "union", "unique", "update", "using", "vacuum", "values", "view", "virtual", "when",
  "where"]

/-- Words that PostgreSQL keeps for itself. -/
def postgresqlWords : List String := [
  "all", "analyse", "analyze", "and", "any", "array", "as", "asc", "asymmetric", "authorization",
  "between", "binary", "both", "case", "cast", "check", "collate", "column", "constraint", "create",
  "cross", "current_catalog", "current_date", "current_role", "current_schema", "current_time",
  "current_timestamp", "current_user", "default", "deferrable", "desc", "distinct", "do", "else",
  "end", "except", "false", "fetch", "for", "foreign", "freeze", "from", "full", "grant", "group",
  "having", "ilike", "in", "initially", "inner", "intersect", "into", "is", "isnull", "join",
  "leading", "left", "like", "limit", "localtime", "localtimestamp", "natural", "new", "not",
  "notnull", "null", "of", "off", "offset", "old", "on", "only", "or", "order", "outer", "over",
  "overlaps", "placing", "primary", "references", "returning", "right", "select", "session_user",
  "similar", "some", "symmetric", "table", "then", "to", "trailing", "true", "union", "unique",
  "user", "using", "variadic", "verbose", "when", "where", "window", "with"]

def reservedWords (dialectName : String) : List String :=
  if dialectName = "sqlite" then sqliteWords
  else if dialectName = "postgresql" then postgresqlWords
  else []

/-- Characters of bare names: ASCII letters with the two letters that fold to one of them, digits, the
underscore and the dollar sign. -/
def isBareChar (c : Char) : Bool :=
  Text.isAsciiLetter c || Text.isAsciiDigit c || c = '_' || c = '$' || c.toNat = 0x131 || c.toNat = 0x17f

/-- A name that can stand without quotes; a line break at its end does not count. -/
def isBare (dialectName name : String) : Bool :=
  let cs := name.toList
  let body := if cs.getLast? == some '\n' then cs.dropLast else cs
  !body.isEmpty && body.all isBareChar && Text.lower name == name &&
    !(reservedWords dialectName).contains (Text.lower name) &&
    !(cs.head?.any fun c => Text.isAsciiDigit c || c = '$')

/-- A name between double quotes, those in it written twice. PostgreSQL's driver needs percent signs twice
as well. -/
def delimited (dialectName name : String) : String :=
  String.ofList ('"' :: (name.toList.flatMap fun c =>
    if c = '"' then ['"', '"']
    else if c = '%' && dialectName == "postgresql" then ['%', '%']
    else [c]) ++ ['"'])

/-- A name as the source expects it; there is none for an empty name. -/
def quote? (dialectName name : String) : Option String :=
  if name = "" then none
  else some (if isBare dialectName name then name else delimited dialectName name)

end TableFerry.SourceName
