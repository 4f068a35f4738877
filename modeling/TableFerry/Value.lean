import TableFerry.Number.Decimal
import TableFerry.Text.Digit
import TableFerry.Text.Quoted
import TableFerry.Text.Search
/-!
Loosely typed values: what a configuration file, a row of a table or the arguments of a driver error may
hold. A record keeps its fields in the order of their first appearance.
-/
namespace TableFerry

open Number (Double)

inductive Value where
  | null
  | bool (b : Bool)
  | int (n : Int)
  | real (d : Double)
  | text (s : String)
  | list (items : List Value)
  | tuple (items : List Value)
  | record (fields : List (String × Value))
  deriving Inhabited, Repr

/-- Fields by name, in the order of their first appearance. -/
abbrev Fields := List (String × Value)

namespace Fields

def get? (fields : Fields) (name : String) : Option Value := fields.lookup name

/-- Gives a field its value; a new field comes last, a known one keeps its place. -/
def put (name : String) (value : Value) : Fields → Fields
  | [] => [(name, value)]
  | (key, old) :: rest => if key = name then (key, value) :: rest else (key, old) :: put name value rest

def ofPairs (pairs : List (String × Value)) : Fields :=
  pairs.foldl (fun fields pair => put pair.1 pair.2 fields) []

def names (fields : Fields) : List String := fields.map (·.1)

end Fields

namespace Value

def ofOption : Option String → Value
  | none => null
  | some s => text s

/-- Empty, zero and absent values count as false. -/
def truthy : Value → Bool
  | null => false
  | bool b => b
  | int n => n != 0
  | real d => !d.isZero
  | text s => s != ""
  | list items => !items.isEmpty
  | tuple items => !items.isEmpty
  | record fields => !fields.isEmpty

mutual

/-- The written form in which texts stand in quotes. -/
def written : Value → String
  | null => "None"
  | bool b => if b then "True" else "False"
  | int n => toString n
  | real d => d.shortest
  | text s => Text.quoted s
  | list items => "[" ++ Text.joinWith ", " (writtenItems items) ++ "]"
  | tuple items =>
    match writtenItems items with
    | [one] => "(" ++ one ++ ",)"
    | all => "(" ++ Text.joinWith ", " all ++ ")"
  | record fields => "\x7b" ++ Text.joinWith ", " (writtenFields fields) ++ "\x7d"

def writtenItems : List Value → List String
  | [] => []
  | item :: items => item.written :: writtenItems items

def writtenFields : List (String × Value) → List String
  | [] => []
  | (name, value) :: fields => (Text.quoted name ++ ": " ++ value.written) :: writtenFields fields

end

/-- The plain form: a text is itself. -/
def shown : Value → String
  | text s => s
  | value => value.written

/-- The whole number a value is equal to, if any. -/
def whole? : Value → Option Int
  | bool b => some (if b then 1 else 0)
  | int n => some n
  | real d => if d.isWhole then d.truncate? else none
  | _ => none

mutual

/-- Equality in which numbers of every kind are compared by value. -/
def same : Value → Value → Bool
  | null, null => true
  | text a, text b => a == b
  | list as, list bs => sameItems as bs
  | tuple as, tuple bs => sameItems as bs
  | record as, record bs => as.length == bs.length && sameFields as bs
  | a, b =>
    match a.whole?, b.whole? with
    | some m, some n => m == n
    | none, none =>
      match a, b with
      | real x, real y => x.same y
      | _, _ => false
    | _, _ => false

def sameItems : List Value → List Value → Bool
  | [], [] => true
  | a :: as, b :: bs => same a b && sameItems as bs
  | _, _ => false

def sameFields : List (String × Value) → List (String × Value) → Bool
  | [], _ => true
  | (name, a) :: as, bs =>
    (match bs.lookup name with
      | some b => same a b
      | none => false) && sameFields as bs

end

def text? : Value → Option String
  | text s => some s
  | _ => none

end Value

/-- Why a value cannot be taken as a whole number. -/
inductive NotWhole where
  | badText (s : String)
  | notANumber
  | infinite
  | wrongKind (kind : String)
  deriving DecidableEq, Repr

namespace Value

/-- The name of the kind of a value, as conversion errors show it. -/
def kindName : Value → String
  | null => "NoneType"
  | bool _ => "bool"
  | int _ => "int"
  | real _ => "float"
  | text _ => "str"
  | list _ => "list"
  | tuple _ => "tuple"
  | record _ => "dict"

/-- The value as a whole number: numbers lose their fraction, texts are read. -/
def toWhole : Value → Except NotWhole Int
  | bool b => .ok (if b then 1 else 0)
  | int n => .ok n
  | real .nan => .error .notANumber
  | real d =>
    match d.truncate? with
    | some n => .ok n
    | none => .error .infinite
  | text s =>
    match Text.readInteger? s with
    | some n => .ok n
    | none => .error (.badText s)
  | value => .error (.wrongKind value.kindName)

end Value

end TableFerry
