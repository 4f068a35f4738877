import TableFerry.Value
/-!
Reading JSON text into values. Of a text that is not JSON the first mistake and its offset are reported. A
whole number stays whole, every other number is a double; of equal names in an object the last value holds.
The three names of numbers that JSON lacks are read as well.
-/
namespace TableFerry.Json

open Number (Double)

inductive Mistake where
  | value
  | name
  | colon
  | comma
  | extraData
  | unterminatedString
  | badEscape
  | badUnicodeEscape
  | controlCharacter
  | byteOrderMark
  deriving DecidableEq, Repr

def Mistake.message : Mistake → String
  | value => "Expecting value"
  | name => "Expecting property name enclosed in double quotes"
  | colon => "Expecting ':' delimiter"
  | comma => "Expecting ',' delimiter"
  | extraData => "Extra data"
  | unterminatedString => "Unterminated string starting at"
  | badEscape => "Invalid \\escape"
  | badUnicodeEscape => "Invalid \\uXXXX escape"
  | controlCharacter => "Invalid control character at"
  | byteOrderMark => "Unexpected UTF-8 BOM (decode using utf-8-sig)"

/-- A mistake and the number of characters in front of it. -/
structure SyntaxFault where
  mistake : Mistake
  offset : Nat
  deriving DecidableEq, Repr

/-- The mistake with its line and column in `source`, both counted from one. -/
def SyntaxFault.message (fault : SyntaxFault) (source : List Char) : String :=
  let before := source.take fault.offset
  let line := before.count '\n' + 1
  let column := (before.reverse.takeWhile (· ≠ '\n')).length + 1
  s!"{fault.mistake.message}: line {line} column {column} (char {fault.offset})"

/-- What is left to read and the offset at which it starts. -/
structure Cursor where
  offset : Nat
  rest : List Char

def isSpace (c : Char) : Bool := c = ' ' || c = '\t' || c = '\n' || c = '\r'

def Cursor.skipSpaces (cursor : Cursor) : Cursor :=
  let spaces := cursor.rest.takeWhile isSpace
  ⟨cursor.offset + spaces.length, cursor.rest.drop spaces.length⟩

def hexNumber? (cs : List Char) : Option Nat :=
  cs.foldl (fun n? c => n?.bind fun n => (Text.hexValue? c).map (16 * n + ·)) (some 0)

/-- The character of a code unit; half of a surrogate pair stands for no character. -/
def unitChar (n : Nat) : Char :=
  if 0xd800 ≤ n && n ≤ 0xdfff then Char.ofNat 0xfffd else Char.ofNat n

def simpleEscape? : Char → Option Char
  | '"' => some '"'
  | '\\' => some '\\'
  | '/' => some '/'
  | 'b' => some (Char.ofNat 8)
  | 'f' => some (Char.ofNat 12)
  | 'n' => some '\n'
  | 'r' => some '\r'
  | 't' => some '\t'
  | _ => none

/-- The low half written right behind a high half, if one follows with something after it. -/
def lowHalf? (cs : List Char) : Except Unit (Option Nat) :=
  match cs with
  | '\\' :: 'u' :: a :: b :: c :: d :: _ :: _ =>
    match hexNumber? [a, b, c, d] with
    | none => .error ()
    | some n => .ok (if 0xdc00 ≤ n && n ≤ 0xdfff then some n else none)
  | _ => .ok none

/-- The rest of a string that was opened at offset `start`; `done` holds what was read, the last first. -/
def stringFrom (start : Nat) : Nat → List Char → Nat → List Char → Except SyntaxFault (String × Cursor)
  | 0, _, _, _ => .error ⟨.unterminatedString, start⟩
  | _ + 1, _, _, [] => .error ⟨.unterminatedString, start⟩
  | fuel + 1, done, offset, c :: cs =>
    if c = '"' then .ok (String.ofList done.reverse, ⟨offset + 1, cs⟩)
    else if c.toNat < 0x20 then .error ⟨.controlCharacter, offset⟩
    else if c ≠ '\\' then stringFrom start fuel (c :: done) (offset + 1) cs
    else
      match cs with
      | [] => .error ⟨.unterminatedString, start⟩
      | 'u' :: cs =>
        match cs with
        | a :: b :: x :: d :: more :: tail =>
          let cs := more :: tail
          match hexNumber? [a, b, x, d] with
          | none => .error ⟨.badUnicodeEscape, offset + 1⟩
          | some n =>
            if 0xd800 ≤ n && n ≤ 0xdbff then
              match lowHalf? cs with
              | .error _ => .error ⟨.badUnicodeEscape, offset + 7⟩
              | .ok none => stringFrom start fuel (unitChar n :: done) (offset + 6) cs
              | .ok (some low) =>
                let c := Char.ofNat (0x10000 + (n - 0xd800) * 0x400 + (low - 0xdc00))
                stringFrom start fuel (c :: done) (offset + 12) (cs.drop 6)
            else stringFrom start fuel (unitChar n :: done) (offset + 6) cs
        | _ => .error ⟨.badUnicodeEscape, offset + 1⟩
      | e :: cs =>
        match simpleEscape? e with
        | some c => stringFrom start fuel (c :: done) (offset + 2) cs
        | none => .error ⟨.badEscape, offset⟩

def readString (start : Nat) (cs : List Char) : Except SyntaxFault (String × Cursor) :=
  stringFrom start (cs.length + 1) [] (start + 1) cs

def asciiDigits (cs : List Char) : List Char := cs.takeWhile Text.isAsciiDigit

/-- A number at the head of the text and what follows it. A point or an exponent without digits is not part
of the number. -/
def readNumber? (cs : List Char) : Option (Value × Nat) :=
  let (negative, cs) := match cs with
    | '-' :: cs => (true, cs)
    | cs => (false, cs)
  let sign := if negative then 1 else 0
  let whole := match cs with
    | '0' :: _ => ['0']
    | cs => asciiDigits cs
  if whole = [] then none
  else
    let cs := cs.drop whole.length
    let places := match cs with
      | '.' :: cs => asciiDigits cs
      | _ => []
    let cs := if places = [] then cs else cs.drop (places.length + 1)
    let (powerSign, power) := match cs with
      | e :: cs =>
        if e = 'e' || e = 'E' then
          match cs with
          | '-' :: cs => (['-'], asciiDigits cs)
          | '+' :: cs => (['+'], asciiDigits cs)
          | cs => ([], asciiDigits cs)
        else ([], [])
      | [] => ([], [])
    let placesSize := if places = [] then 0 else places.length + 1
    let powerSize := if power = [] then 0 else 1 + powerSign.length + power.length
    let size := sign + whole.length + placesSize + powerSize
    if places = [] && power = [] then
      let n := Text.digitsValue whole
      some (.int (if negative then -(n : Int) else n), size)
    else
      let amount : Int := Text.digitsValue power
      let power := (if powerSign = ['-'] then -amount else amount) - places.length
      some (.real (Double.ofDecimal negative (Text.digitsValue (whole ++ places)) power), size)

def literals : List (String × Value) := [
  ("null", .null), ("true", .bool true), ("false", .bool false), ("NaN", .real .nan),
  ("Infinity", .real (.infinite false)), ("-Infinity", .real (.infinite true))]

def readLiteral? (cs : List Char) : Option (Value × Nat) :=
  (literals.find? fun entry => entry.1.toList.isPrefixOf cs).map fun entry => (entry.2, entry.1.length)

mutual

/-- One value at the cursor. `fuel` bounds the depth and the number of parts and is above the length of the
text. -/
def readValue : Nat → Cursor → Except SyntaxFault (Value × Cursor)
  | 0, cursor => .error ⟨.value, cursor.offset⟩
  | fuel + 1, cursor =>
    match cursor.rest with
    | '"' :: cs => do
      let (s, cursor) ← readString cursor.offset cs
      pure (.text s, cursor)
    | '{' :: cs =>
      let cursor := Cursor.skipSpaces ⟨cursor.offset + 1, cs⟩
      match cursor.rest with
      | '}' :: cs => pure (.record [], ⟨cursor.offset + 1, cs⟩)
      | _ => readFields fuel [] cursor
    | '[' :: cs =>
      let cursor := Cursor.skipSpaces ⟨cursor.offset + 1, cs⟩
      match cursor.rest with
      | ']' :: cs => pure (.list [], ⟨cursor.offset + 1, cs⟩)
      | _ => readItems fuel [] cursor
    | cs =>
      match (readLiteral? cs).orElse fun _ => readNumber? cs with
      | some (value, size) => pure (value, ⟨cursor.offset + size, cs.drop size⟩)
      | none => .error ⟨.value, cursor.offset⟩

/-- The rest of an object from a name on. -/
def readFields : Nat → Fields → Cursor → Except SyntaxFault (Value × Cursor)
  | 0, _, cursor => .error ⟨.value, cursor.offset⟩
  | fuel + 1, fields, cursor =>
    match cursor.rest with
    | '"' :: cs => do
      let (name, cursor) ← readString cursor.offset cs
      let cursor := cursor.skipSpaces
      match cursor.rest with
      | ':' :: cs =>
        let (value, cursor) ← readValue fuel (Cursor.skipSpaces ⟨cursor.offset + 1, cs⟩)
        let fields := (name, value) :: fields
        let cursor := cursor.skipSpaces
        match cursor.rest with
        | '}' :: cs => pure (.record (Fields.ofPairs fields.reverse), ⟨cursor.offset + 1, cs⟩)
        | ',' :: cs => readFields fuel fields (Cursor.skipSpaces ⟨cursor.offset + 1, cs⟩)
        | _ => .error ⟨.comma, cursor.offset⟩
      | _ => .error ⟨.colon, cursor.offset⟩
    | _ => .error ⟨.name, cursor.offset⟩

/-- The rest of an array from an item on. -/
def readItems : Nat → List Value → Cursor → Except SyntaxFault (Value × Cursor)
  | 0, _, cursor => .error ⟨.value, cursor.offset⟩
  | fuel + 1, items, cursor => do
    let (value, cursor) ← readValue fuel cursor
    let items := value :: items
    let cursor := cursor.skipSpaces
    match cursor.rest with
    | ']' :: cs => pure (.list items.reverse, ⟨cursor.offset + 1, cs⟩)
    | ',' :: cs => readItems fuel items (Cursor.skipSpaces ⟨cursor.offset + 1, cs⟩)
    | _ => .error ⟨.comma, cursor.offset⟩

end

/-- The value that a whole text denotes. -/
def read (source : List Char) : Except SyntaxFault Value :=
  match source with
  | '\ufeff' :: _ => .error ⟨.byteOrderMark, 0⟩
  | _ => do
    let (value, cursor) ← readValue (2 * source.length + 2) (Cursor.skipSpaces ⟨0, source⟩)
    let cursor := cursor.skipSpaces
    if cursor.rest.isEmpty then pure value else .error ⟨.extraData, cursor.offset⟩

end TableFerry.Json
