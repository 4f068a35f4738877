/-!
Log lines and their levels.
-/
namespace TableFerry

inductive Level where
  | debug
  | info
  | warning
  | error
  deriving DecidableEq, Repr

namespace Level

def name : Level → String
  | debug => "DEBUG"
  | info => "INFO"
  | warning => "WARNING"
  | error => "ERROR"

def rank : Level → Nat
  | debug => 0
  | info => 1
  | warning => 2
  | error => 3

def all : List Level := [debug, info, warning, error]

def ofName? (name : String) : Option Level := all.find? (·.name == name)

end Level

structure LogLine where
  level : Level
  text : String
  deriving DecidableEq, Repr

/-- The lines of a log that are at least as grave as `least`. -/
def linesFrom (least : Level) (log : List LogLine) : List LogLine :=
  log.filter fun line => least.rank ≤ line.level.rank

end TableFerry
