import TableFerry.Database.Basic
/-!
Databases that answer from a script: tables that can be reflected, and rules that say what a statement gives,
how it changes the tables and the clock, and whether it fails. Nothing is undone by a rollback.
-/
namespace TableFerry

open Number (Double)

/-- What happens when a statement holds a piece of text. A rule with a number of times wears out. -/
structure ScriptRule where
  piece : String
  times : Option Int := none
  remove : Option String := none
  add : Option ReflectedTable := none
  scalar : Option Value := none
  rows : Option (List Row) := none
  tick : Option Double := none
  error : Option Fault := none
  deriving Inhabited

structure Script where
  label : String
  dialectName : String := "sqlite"
  version : Value := .null
  tables : List ReflectedTable := []
  rules : List ScriptRule := []
  noComments : Bool := false
  connectError : Option Fault := none
  deriving Inhabited

/-- Scripts with a common clock. -/
structure Scripts where
  clock : Double
  scripts : List Script := []
  deriving Inhabited

/-- What the rules give for one statement. -/
structure Reply where
  scalar : Option Value := none
  rows : Option (List Row) := none
  ticks : List Double := []
  error : Option Fault := none

namespace ScriptRule

def applies (rule : ScriptRule) (statement : String) : Bool :=
  rule.times != some 0 && Text.hasPiece statement rule.piece

def changeTables (rule : ScriptRule) (tables : List ReflectedTable) : List ReflectedTable :=
  let kept :=
    match rule.remove with
    | some name => tables.filter (·.name ≠ name)
    | none => tables
  kept ++ rule.add.toList

end ScriptRule

namespace Script

/-- Goes through rules in order; the first scalar and the first rows hold, and an error ends the search. -/
def tryRules (statement : String) :
    List ScriptRule → List ReflectedTable → Reply → List ScriptRule × List ReflectedTable × Reply
  | [], tables, reply => ([], tables, reply)
  | rule :: rest, tables, reply =>
    if rule.applies statement then
      let worn := { rule with times := rule.times.map (· - 1) }
      let tables := rule.changeTables tables
      let reply := { reply with
        scalar := reply.scalar.orElse fun _ => rule.scalar
        rows := reply.rows.orElse fun _ => rule.rows
        ticks := reply.ticks ++ rule.tick.toList }
      match rule.error with
      | some fault => (worn :: rest, tables, { reply with error := some fault })
      | none =>
        let (rules, tables, reply) := tryRules statement rest tables reply
        (worn :: rules, tables, reply)
    else
      let (rules, tables, reply) := tryRules statement rest tables reply
      (rule :: rules, tables, reply)

def reflected? (script : Script) (name : String) : Option ReflectedTable :=
  (script.tables.find? (·.name == name)).map fun table =>
    if script.noComments then { table with comment := none } else table

end Script

namespace Scripts

def script (s : Scripts) (index : Nat) : Script := s.scripts.getD index default

/-- The reply of a script to a statement, and what it changes. -/
def reply (index : Nat) (statement : String) : Answer Scripts Reply := fun s =>
  let script := s.script index
  let (rules, tables, reply) := Script.tryRules statement script.rules script.tables {}
  let changed : Scripts := {
    clock := reply.ticks.foldl Double.add s.clock
    scripts := s.scripts.set index { script with rules := rules, tables := tables } }
  match reply.error with
  | some fault => (.error fault, changed)
  | none => (.ok reply, changed)

def mapAnswer {α β : Type} (f : α → β) (answer : Answer Scripts α) : Answer Scripts β := fun s =>
  let (result, s) := answer s
  (result.map f, s)

/-- The database of a script. -/
def database (s : Scripts) (index : Nat) : Database Scripts where
  label := (s.script index).label
  dialectName := (s.script index).dialectName
  versionInfo := (s.script index).version
  connect := fun s =>
    match (s.script index).connectError with
    | some fault => (.error fault, s)
    | none => (.ok (), s)
  tableNames := fun _ s => (.ok ((s.script index).tables.map (·.name)), s)
  reflect := fun table _ s => (.ok ((s.script index).reflected? table), s)
  execute := fun sql => mapAnswer (fun reply => reply.scalar.getD .null) (reply index sql)
  page := fun query =>
    mapAnswer (fun reply => ((reply.rows.getD []).drop query.offset).take query.limit)
      (reply index query.sql)
  insert := fun statement _ => mapAnswer (fun _ => ()) (reply index statement)
  begin := fun s => (.ok (), s)
  commit := fun s => (.ok (), s)
  rollback := fun s => (.ok (), s)
  savepoint := id
  release := id
  rollbackTo := id

/-- Puts a new copy of a script in place and gives its database. -/
def openScript (script : Script) : Job Scripts (Database Scripts) := do
  let world ← get
  let index := world.state.scripts.length
  let state := { world.state with scripts := world.state.scripts ++ [script] }
  set { world with state := state }
  pure (state.database index)

/-- The database behind a URL: that of the script known for it, or an empty one. -/
def connect (known : List (String × Script)) (url : String) : Job Scripts (Database Scripts) :=
  openScript ((known.lookup url).getD { label := url })

/-- The world in which a job on scripts begins. -/
def world (s : Scripts) : World Scripts :=
  { state := s, now := fun s => s.clock, report := Report.begin s.clock }

end Scripts

end TableFerry
