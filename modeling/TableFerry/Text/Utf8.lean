/-!
UTF-8 as bytes: writing characters, and reading bytes either strictly or with a replacement character for
every longest piece that begins no character.
-/
namespace TableFerry.Text

def utf8Bytes (c : Char) : List Nat :=
  let n := c.toNat
  if n < 0x80 then [n]
  else if n < 0x800 then [0xc0 + n / 0x40, 0x80 + n % 0x40]
  else if n < 0x10000 then [0xe0 + n / 0x1000, 0x80 + n / 0x40 % 0x40, 0x80 + n % 0x40]
  else [0xf0 + n / 0x40000, 0x80 + n / 0x1000 % 0x40, 0x80 + n / 0x40 % 0x40, 0x80 + n % 0x40]

/-- How many bytes may follow a first byte, what it contributes, and the bounds of the byte behind it. -/
def leadByte? (b : Nat) : Option (Nat × Nat × Nat × Nat) :=
  if b < 0x80 then some (0, b, 0, 0)
  else if 0xc2 ≤ b && b ≤ 0xdf then some (1, b - 0xc0, 0x80, 0xbf)
  else if b == 0xe0 then some (2, 0, 0xa0, 0xbf)
  else if b == 0xed then some (2, 0xd, 0x80, 0x9f)
  else if 0xe1 ≤ b && b ≤ 0xef then some (2, b - 0xe0, 0x80, 0xbf)
  else if b == 0xf0 then some (3, 0, 0x90, 0xbf)
  else if 0xf1 ≤ b && b ≤ 0xf3 then some (3, b - 0xf0, 0x80, 0xbf)
  else if b == 0xf4 then some (3, 4, 0x80, 0x8f)
  else none

/-- Reads bytes one by one: `missing` more are needed for the character begun, of which `value` is known and
whose next byte lies between `low` and `high`. A piece that begins no character gives `none`. -/
def readUtf8 (missing value low high : Nat) : List Nat → List (Option Char)
  | [] => if missing = 0 then [] else [none]
  | b :: bytes =>
    if 0 < missing && low ≤ b && b ≤ high then
      let value := value * 0x40 + (b - 0x80)
      if missing = 1 then some (Char.ofNat value) :: readUtf8 0 0 0 0 bytes
      else readUtf8 (missing - 1) value 0x80 0xbf bytes
    else
      let broken := if 0 < missing then [none] else []
      broken ++ match leadByte? b with
        | none => none :: readUtf8 0 0 0 0 bytes
        | some (more, value, low, high) =>
          if more = 0 then some (Char.ofNat value) :: readUtf8 0 0 0 0 bytes
          else readUtf8 more value low high bytes

def replacement : Char := Char.ofNat 0xfffd

def decodeUtf8Replacing (bytes : List Nat) : List Char :=
  (readUtf8 0 0 0 0 bytes).map (·.getD replacement)

def decodeUtf8? (bytes : List Nat) : Option (List Char) :=
  (readUtf8 0 0 0 0 bytes).mapM id

end TableFerry.Text
