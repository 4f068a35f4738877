import TableFerry.Text.Utf8
import TableFerry.Text.Word
import TableFerry.Value
/-!
Database URLs: reading one into its parts and writing the parts back.
-/
namespace TableFerry

structure Url where
  driver : String
  username : Option String
  password : Value
  host : Option String
  port : Option Int
  database : Option String
  query : List (String × List String)
  deriving Inhabited

namespace Url

/-- The bytes of a text in which a percent sign with two hexadecimal digits stands for a byte. -/
def percentBytes : List Char → List Nat
  | '%' :: a :: b :: cs =>
    match Text.hexValue? a, Text.hexValue? b with
    | some high, some low => (16 * high + low) :: percentBytes cs
    | _, _ => 37 :: percentBytes (a :: b :: cs)
  | c :: cs => c.toNat :: percentBytes cs
  | [] => []

/-- Decodes every run of ASCII characters on its own; `run` holds the current one, the last first. -/
def decodeFrom (run : List Char) : List Char → List Char
  | [] => Text.decodeUtf8Replacing (percentBytes run.reverse)
  | c :: cs =>
    if c.toNat < 128 then decodeFrom (c :: run) cs
    else Text.decodeUtf8Replacing (percentBytes run.reverse) ++ c :: decodeFrom [] cs

def decode (cs : List Char) : String := String.ofList (decodeFrom [] cs)

/-- A field of a query: a plus sign is a space there. -/
def decodeField (cs : List Char) : String := decode (cs.map fun c => if c = '+' then ' ' else c)

def addField (query : List (String × List String)) (name value : String) : List (String × List String) :=
  match query with
  | [] => [(name, [value])]
  | (key, values) :: rest =>
    if key = name then (key, values ++ [value]) :: rest else (key, values) :: addField rest name value

/-- The fields of a query; those without a value are left out. -/
def readQuery (cs : List Char) : List (String × List String) :=
  (Text.splitWhere (· == '&') cs).foldl (fun query field =>
    let name := field.takeWhile (· ≠ '=')
    let value := field.drop (name.length + 1)
    if value.isEmpty then query else addField query (decodeField name) (decodeField value)) []

/-- Cuts behind the last character that satisfies `p`, which is in neither part. -/
def cutLast? (p : Char → Bool) (cs : List Char) : Option (List Char × List Char) :=
  let after := (cs.reverse.takeWhile (!p ·)).reverse
  if after.length < cs.length then
    some (cs.take (cs.length - after.length - 1), after)
  else none

/-- User name and password in front of the host, and the rest. -/
def readUser (cs : List Char) : Option (List Char) × Option (List Char) × List Char :=
  let run := cs.takeWhile fun c => c ≠ ':' && c ≠ '/'
  let rest := cs.drop run.length
  let withinRun :=
    match cutLast? (· == '@') run with
    | some (user, after) => (some user, none, after ++ rest)
    | none => (none, none, cs)
  match rest with
  | ':' :: rest =>
    let password := rest.takeWhile (· ≠ '@')
    match rest.drop password.length with
    | '@' :: rest => (some run, some password, rest)
    | _ => withinRun
  | _ => withinRun

/-- The host, in brackets or up to a colon, a slash or a question mark, and the rest. -/
def readHost (cs : List Char) : Option (List Char) × List Char :=
  let plain :=
    let host := cs.takeWhile fun c => c ≠ '/' && c ≠ ':' && c ≠ '?'
    (if host.isEmpty then none else some host, cs.drop host.length)
  match cs with
  | '[' :: inner =>
    let run := inner.takeWhile fun c => c ≠ '/' && c ≠ '?'
    match cutLast? (· == ']') run with
    | some (host, after) =>
      if host.isEmpty then plain else (some host, after ++ inner.drop run.length)
    | none => plain
  | _ => plain

inductive ReadFault where
  | unreadable
  | badPort (text : String)
  deriving DecidableEq, Repr

/-- The parts of a URL text. What follows the last part that can be read is left out. -/
def read (text : String) : Except ReadFault Url :=
  let cs := text.toList
  let driver := cs.takeWhile fun c => Text.isWordChar c || c = '+'
  match driver, cs.drop driver.length with
  | [], _ => .error .unreadable
  | _, ':' :: '/' :: '/' :: cs =>
    let (username, password, cs) := readUser cs
    let (host, cs) := readHost cs
    let (port, cs) :=
      match cs with
      | ':' :: cs =>
        let port := cs.takeWhile fun c => c ≠ '/' && c ≠ '?'
        (some port, cs.drop port.length)
      | cs => (none, cs)
    let (database, cs) :=
      match cs with
      | '/' :: cs =>
        let database := cs.takeWhile (· ≠ '?')
        (some database, cs.drop database.length)
      | cs => (none, cs)
    let query :=
      match cs with
      | '?' :: cs => readQuery (cs.takeWhile (· ≠ '\n'))
      | _ => []
    let url (port : Option Int) : Url := {
      driver := String.ofList driver
      username := username.map decode
      password := (password.map fun cs => Value.text (decode cs)).getD .null
      host := host.map String.ofList
      port := port
      database := database.map String.ofList
      query := query }
    match port with
    | none => .ok (url none)
    | some port =>
      match Text.readInteger? (String.ofList port) with
      | some n => .ok (url (some n))
      | none => .error (.badPort (String.ofList port))
  | _, _ => .error .unreadable

def isPlain (c : Char) : Bool :=
  Text.isAsciiLetter c || Text.isAsciiDigit c || c = '_' || c = '.' || c = '-' || c = '~'

def percentByte (b : Nat) : List Char :=
  '%' :: (Text.hexDigits 2 b).map Char.toUpper

/-- Percent encoding of all but plain characters and those that `also` admits. -/
def encode (also : Char → Bool) (s : String) : String :=
  String.ofList (s.toList.flatMap fun c =>
    if isPlain c || also c then [c] else (Text.utf8Bytes c).flatMap percentByte)

def encodePart (s : String) : String := encode (fun c => c = ' ' || c = '+') s

def encodeField (s : String) : String :=
  String.ofList ((encode (· = ' ') s).toList.map fun c => if c = ' ' then '+' else c)

def render (url : Url) : String :=
  let user :=
    match url.username with
    | none => ""
    | some name =>
      encodePart name ++
        (match url.password with
          | .null => ""
          | password => ":" ++ encodePart password.shown) ++ "@"
  let host :=
    match url.host with
    | none => ""
    | some host => if host.toList.contains ':' then "[" ++ host ++ "]" else host
  let port :=
    match url.port with
    | none => ""
    | some port => ":" ++ toString port
  let database :=
    match url.database with
    | none => ""
    | some database => "/" ++ database
  let fields := (url.query.mergeSort fun a b => a.1 ≤ b.1).flatMap fun field =>
    field.2.map fun value => encodeField field.1 ++ "=" ++ encodeField value
  url.driver ++ "://" ++ user ++ host ++ port ++ database ++
    (if fields.isEmpty then "" else "?" ++ Text.joinWith "&" fields)

end Url

end TableFerry
