import TableFerry.Config.Datasource
/-!
What differs between the dialects of SQL: the case of names, the marks around them, where comments and index
names go, how long a name may be and whether statements on tables can be undone.
-/
namespace TableFerry

inductive CaseRule where
  | upper
  | lower
  | remain
  deriving DecidableEq, Repr

namespace CaseRule

def name : CaseRule → String
  | upper => "upper"
  | lower => "lower"
  | remain => "remain"

def fold : CaseRule → String → String
  | upper, s => Text.upper s
  | lower, s => Text.lower s
  | remain, s => s

end CaseRule

/-- Comments stand inside CREATE TABLE or in statements of their own. -/
inductive CommentPlace where
  | inside
  | outside
  deriving DecidableEq, Repr

def CommentPlace.name : CommentPlace → String
  | inside => "internal"
  | outside => "external"

namespace Engine

def caseRule : Engine → CaseRule
  | oracle => .upper
  | postgresql | vastbase | kingbase => .lower
  | mysql | sqlserver | sqlite => .remain

/-- The marks in front of and behind a name. -/
def delimiters : Engine → String × String
  | mysql => ("\x60", "\x60")
  | sqlserver => ("[", "]")
  | _ => ("\"", "\"")

def commentPlace : Engine → CommentPlace
  | mysql | vastbase => .inside
  | _ => .outside

def indexPrefix : Engine → String
  | vastbase | kingbase => "idx_"
  | _ => "IDX_"

/-- How many characters a name may have; the extended mode of Oracle admits far more. -/
def maxNameLength (engine : Engine) (extended : Bool) : Nat :=
  match engine with
  | mysql => 64
  | postgresql => 63
  | oracle => if extended then 32767 else 30
  | _ => 128

/-- Whether statements on tables can be undone up to a savepoint. -/
def transactionalDdl : Engine → Bool
  | sqlserver | postgresql | vastbase | kingbase => true
  | mysql | oracle | sqlite => false

/-- The name under which the rules of an engine are shown. -/
def compilerName : Engine → String
  | mysql => "MySqlDdlCompiler"
  | oracle => "OracleDdlCompiler"
  | sqlserver => "SqlServerDdlCompiler"
  | postgresql => "PostgreSqlDdlCompiler"
  | vastbase => "VastBaseDdlCompiler"
  | kingbase => "KingBaseDdlCompiler"
  | sqlite => "SqliteDdlCompiler"

end Engine

end TableFerry
