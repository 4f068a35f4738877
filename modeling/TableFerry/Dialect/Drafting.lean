import TableFerry.Fault
/-!
Drafting statements: a computation that may fail, that draws random characters where names have to be cut,
and that leaves log lines.
-/
namespace TableFerry

/-- How many random characters were drawn, and the log so far. -/
structure Draft where
  drawn : Nat := 0
  log : List LogLine := []
  deriving Inhabited

abbrev Drafting := ExceptT Fault (StateM Draft)

namespace Drafting

def note (level : Level) (text : String) : Drafting Unit :=
  modify fun draft => { draft with log := draft.log ++ [⟨level, text⟩] }

/-- The number of the next draw. -/
def next : Drafting Nat := do
  let draft ← get
  set { draft with drawn := draft.drawn + 1 }
  pure draft.drawn

end Drafting

end TableFerry
