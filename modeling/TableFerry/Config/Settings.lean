import TableFerry.Config.Placeholder
import TableFerry.Config.Strategy
import TableFerry.Json.Reader
import TableFerry.Text.Utf8
/-!
The settings of the program: datasources by their identifiers and the policy of runs, read from a JSON file
whose texts may hold placeholders.
-/
namespace TableFerry

structure Settings where
  datasources : List (Value × Datasource)
  strategy : Strategy

namespace Settings

/-- Values that cannot be identifiers. -/
def isCollection : Value → Bool
  | .list _ | .record _ => true
  | _ => false

/-- Whether two identifiers are one: they are equal, or both are the number that equals nothing. -/
def sameId : Value → Value → Bool
  | .real .nan, .real .nan => true
  | a, b => a.same b

def find? (datasources : List (Value × Datasource)) (id : Value) : Option Datasource :=
  (datasources.find? fun entry => sameId entry.1 id).map (·.2)

def noIdentifier (id : Value) : Fault :=
  .single .wrongType ("not an identifier: " ++ id.written)

/-- Identifiers in order, if all are texts or all are numbers. -/
def sortedIds? (ids : List Value) : Option (List Value) :=
  match ids.mapM Value.text? with
  | some names => some ((names.mergeSort fun a b => a ≤ b).map .text)
  | none =>
    match ids.mapM Value.whole? with
    | some _ => some (ids.mergeSort fun a b => a.whole?.getD 0 ≤ b.whole?.getD 0)
    | none => if ids.length ≤ 1 then some ids else none

/-- The datasource with an identifier. -/
def datasource (settings : Settings) (id : Value) : Except Fault Datasource :=
  if isCollection id then .error (noIdentifier id)
  else
    match find? settings.datasources id with
    | some source => .ok source
    | none =>
      match sortedIds? (settings.datasources.map (·.1)) with
      | some ids =>
        .error (.configuration ("Unknown datasource id: " ++ id.shown) [("known", .list ids)])
      | none => .error (.single .wrongType "identifiers without an order")

/-- The entries of a value that is gone through one by one. -/
def entries : Value → Except Fault (List Value)
  | .list items => .ok items
  | .tuple items => .ok items
  | .text s => .ok (s.toList.map fun c => .text (String.ofList [c]))
  | .record fields => .ok (fields.map fun field => .text field.1)
  | value => .error (.single .wrongType ("not a list of datasources: " ++ value.written))

/-- Adds the datasources of a list one after the other; no identifier may come twice. -/
def addAll : List (Value × Datasource) → List Value → Except Fault (List (Value × Datasource))
  | found, [] => .ok found
  | found, entry :: rest => do
    let source ← Datasource.ofValue entry
    if isCollection source.id then throw (noIdentifier source.id)
    if (find? found source.id).isSome then
      throw (.configuration ("Duplicate datasource id: " ++ source.id.shown))
    addAll (found ++ [(source.id, source)]) rest

/-- The settings that a value describes: an object, or only its list of datasources. -/
def ofValue (environment : Placeholder.Environment) (raw : Value) : Except Fault Settings :=
  let read (fields : Fields) : Except Fault Settings := do
    let datasources ← addAll [] (← entries ((fields.get? "datasources").getD (.list [])))
    let strategy ← Strategy.ofValue ((fields.get? "strategy").getD .null)
    pure ⟨datasources, strategy⟩
  match Placeholder.resolve environment raw with
  | .list items => read [("datasources", .list items)]
  | .record fields => read fields
  | _ => .error (.configuration "Configuration must be a JSON object or a list of datasources")

/-- Line ends of every kind as single line feeds. -/
def unifyLines : List Char → List Char
  | '\r' :: '\n' :: cs => '\n' :: unifyLines cs
  | '\r' :: cs => '\n' :: unifyLines cs
  | c :: cs => c :: unifyLines cs
  | [] => []

/-- The shortest form of a path: no empty steps and none to the same place. -/
def plainPath (path : String) : String :=
  let slashes := path.toList.takeWhile (· = '/')
  let root := if slashes.length = 2 then "//" else if slashes.isEmpty then "" else "/"
  let steps := (Text.splitAt '/' path).filter fun step => step ≠ "" && step ≠ "."
  if root = "" && steps.isEmpty then "." else root ++ Text.joinWith "/" steps

def environmentName : String := "MIGRATOR_CONFIG"

/-- The settings in a file, given by its path or by the environment; `files` gives the bytes of a file by its
plain path. -/
def load (files : String → Option (List Nat)) (environment : Placeholder.Environment)
    (path : Option String) : Except Fault (Settings × LogLine) :=
  let path := (path.filter (· ≠ "")).orElse fun _ =>
    (environment.lookup environmentName).filter (· ≠ "")
  match path with
  | none =>
    .error (.configuration s!"No configuration file given and {environmentName} is not set")
  | some path =>
    let path := plainPath path
    match files path with
    | none => .error (.configuration s!"Configuration file not found: {path}")
    | some bytes =>
      match Text.decodeUtf8? bytes with
      | none => .error (.single .undecodable "invalid UTF-8")
      | some chars =>
        let chars := unifyLines chars
        match Json.read chars with
        | .error fault =>
          .error (.configuration (s!"Invalid JSON in {path}: " ++ fault.message chars))
        | .ok raw => do
          let settings ← ofValue environment raw
          pure (settings,
            ⟨.info, s!"Loaded {settings.datasources.length} datasource(s) from {path}"⟩)

end Settings

end TableFerry
