import TableFerry.Transfer.Report
/-!
Errors and what caused them. A fault is a set of errors that refer to each other by number, together with the
one that was raised; references may form chains and cycles. The main definition is `Fault.rootCause`, the
error at the bottom of the chain, which alone decides whether a fault is tolerated.
-/
namespace TableFerry

/-- What kind of thing went wrong. `native` errors come from a driver and `database` errors from the layer
above it; the next five are the migration's own. The last seven tell what was wrong with a value: its content,
its type, a text or a mapping asked of something else, an empty name, an encoding that writes nothing, bytes
that are no text, or a number beyond every limit. -/
inductive ErrorKind where
  | native
  | database
  | configuration (details : Fields)
  | metadata (table : Value)
  | ddl (statement : Value)
  | dataCopy (table page : Value)
  | runFailed (failures : List (Nat × String)) (report : Report)
  | badValue
  | wrongType
  | wrongShape
  | emptyName
  | unusableEncoding
  | undecodable
  | tooLarge
  deriving Inhabited

namespace ErrorKind

/-- The errors of the migration itself. -/
def isMigration : ErrorKind → Bool
  | configuration _ | metadata _ | ddl _ | dataCopy _ _ | runFailed _ _ => true
  | _ => false

def isDatabase : ErrorKind → Bool
  | database => true
  | _ => false

/-- The errors that a worker takes as the end of one table; all others end its bucket. -/
def isHandled (kind : ErrorKind) : Bool := kind.isMigration || kind.isDatabase

end ErrorKind

/-- What an error refers to: nothing, another error by number, or a value that is no error. -/
inductive Link where
  | absent
  | value (v : Value)
  | error (index : Nat)
  deriving Inhabited

/-- Whether a link counts as set. -/
def Link.truthy : Link → Bool
  | absent => false
  | value v => v.truthy
  | error _ => true

structure ErrorNode where
  kind : ErrorKind
  args : List Value
  pgcode : Value := .null
  sqlstate : Value := .null
  cause : Link := .absent
  origin : Link := .absent
  deriving Inhabited

namespace ErrorNode

/-- The text of an error: its one argument, or all of them as a tuple. -/
def text (node : ErrorNode) : String :=
  match node.args with
  | [] => ""
  | [one] => one.shown
  | all => (Value.tuple all).written

/-- The number of the error behind this one: the one its cause refers to, or its origin if it has no cause. -/
def next? (node : ErrorNode) : Option Nat :=
  match if node.cause.truthy then node.cause else node.origin with
  | .error index => some index
  | _ => none

end ErrorNode

structure Fault where
  nodes : List ErrorNode
  entry : Nat := 0
  deriving Inhabited

namespace Fault

def node? (fault : Fault) (index : Nat) : Option ErrorNode := fault.nodes[index]?

/-- The error behind error `index`, if that is one of the fault. -/
def next? (fault : Fault) (index : Nat) : Option Nat := do
  let node ← fault.node? index
  let next ← node.next?
  let _ ← fault.node? next
  pure next

/-- Follows the links from `current` until there is none or until an error comes up that is in `seen`. -/
def follow (fault : Fault) : Nat → List Nat → Nat → Nat
  | 0, _, current => current
  | fuel + 1, seen, current =>
    if seen.contains current then current
    else
      match fault.next? current with
      | some next => follow fault fuel (current :: seen) next
      | none => current

/-- The end of the chain that starts at error `index`, or the first error met twice. -/
def rootFrom (fault : Fault) (index : Nat) : Nat := fault.follow (fault.nodes.length + 1) [] index

def rootCause (fault : Fault) : Nat := fault.rootFrom fault.entry

def textAt (fault : Fault) (index : Nat) : String := ((fault.node? index).map (·.text)).getD ""

/-- The text of the error that was raised. -/
def text (fault : Fault) : String := fault.textAt fault.entry

/-- The text of the error and that of its root cause when it is another one. -/
def fullText (fault : Fault) : String :=
  if fault.rootCause = fault.entry then fault.text
  else fault.text ++ " " ++ fault.textAt fault.rootCause

def rootNode (fault : Fault) : ErrorNode := (fault.node? fault.rootCause).getD default

def kind (fault : Fault) : ErrorKind := ((fault.node? fault.entry).map (·.kind)).getD .native

/-- The state code of the root cause. -/
def stateCode (fault : Fault) : Value :=
  if fault.rootNode.pgcode.truthy then fault.rootNode.pgcode else fault.rootNode.sqlstate

def single (kind : ErrorKind) (message : String) : Fault :=
  { nodes := [{ kind := kind, args := [.text message] }] }

/-- A new error in front of a fault, which becomes its cause. -/
def wrap (kind : ErrorKind) (message : String) (fault : Fault) : Fault :=
  { nodes := fault.nodes ++ [{ kind := kind, args := [.text message], cause := .error fault.entry }]
    entry := fault.nodes.length }

def configuration (message : String) (details : Fields := []) : Fault :=
  single (.configuration details) message

def metadata (message table : String) : Fault := single (.metadata (.text table)) message

end Fault

/-- The fault of a value that cannot be taken as a whole number. -/
def NotWhole.fault : NotWhole → Fault
  | badText s =>
    .single .badValue ("invalid literal for int() with base 10: " ++
      String.ofList ((Text.quoted s).toList.take 200))
  | notANumber => .single .badValue "cannot convert float NaN to integer"
  | infinite => .single .tooLarge "cannot convert float infinity to integer"
  | wrongKind kind =>
    .single .wrongType
      ("int() argument must be a string, a bytes-like object or a real number, not " ++ "'" ++ kind ++ "'")

def Value.toWholeOrFault (value : Value) : Except Fault Int :=
  match value.toWhole with
  | .ok n => .ok n
  | .error cause => .error cause.fault

end TableFerry
