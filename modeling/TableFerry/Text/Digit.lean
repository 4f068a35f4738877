import TableFerry.Text.Blank
/-!
Decimal digits of every script and whole numbers written with them; hexadecimal digits.
-/
namespace TableFerry.Text

/-- The code point of the zero of each run of ten decimal digits. -/
def digitZeros : List Nat := [
  0x30, 0x660, 0x6f0, 0x7c0, 0x966, 0x9e6, 0xa66, 0xae6, 0xb66, 0xbe6, 0xc66, 0xce6, 0xd66, 0xde6, 0xe50,
  0xed0, 0xf20, 0x1040, 0x1090, 0x17e0, 0x1810, 0x1946, 0x19d0, 0x1a80, 0x1a90, 0x1b50, 0x1bb0, 0x1c40,
  0x1c50, 0xa620, 0xa8d0, 0xa900, 0xa9d0, 0xa9f0, 0xaa50, 0xabf0, 0xff10, 0x104a0, 0x10d30, 0x11066,
  0x110f0, 0x11136, 0x111d0, 0x112f0, 0x11450, 0x114d0, 0x11650, 0x116c0, 0x11730, 0x118e0, 0x11950,
  0x11c50, 0x11d50, 0x11da0, 0x16a60, 0x16ac0, 0x16b50, 0x1d7ce, 0x1d7d8, 0x1d7e2, 0x1d7ec, 0x1d7f6,
  0x1e140, 0x1e2f0, 0x1e950, 0x1fbf0]

def digitValue? (c : Char) : Option Nat :=
  (digitZeros.find? (fun start => start ≤ c.toNat && c.toNat < start + 10)).map (c.toNat - ·)

def isDigit (c : Char) : Bool := (digitValue? c).isSome

/-- The number that a run of digits denotes; characters that are no digits count as zero. -/
def digitsValue (cs : List Char) : Nat :=
  cs.foldl (fun n c => 10 * n + (digitValue? c).getD 0) 0

/-- Digits with at most one underscore between two of them, read onto `n`. -/
def readDigits? (n : Nat) : List Char → Option Nat
  | [] => some n
  | '_' :: c :: cs => (digitValue? c).bind fun d => readDigits? (10 * n + d) cs
  | c :: cs => (digitValue? c).bind fun d => readDigits? (10 * n + d) cs

/-- An unsigned number starts with a digit. -/
def readNatural? : List Char → Option Nat
  | [] => none
  | c :: cs => (digitValue? c).bind fun d => readDigits? d cs

/-- The blanks that may stand around a number: all but the ASCII separators. -/
def isNumberBlank (c : Char) : Bool := isBlankChar c && !(28 ≤ c.toNat && c.toNat ≤ 31)

/-- A whole number: blanks around it, one sign, digits with single underscores between them. -/
def readInteger? (s : String) : Option Int :=
  match ((s.toList.dropWhile isNumberBlank).reverse.dropWhile isNumberBlank).reverse with
  | '-' :: cs => (readNatural? cs).map fun n => -(n : Int)
  | '+' :: cs => (readNatural? cs).map Int.ofNat
  | cs => (readNatural? cs).map Int.ofNat

/-- The value of a hexadecimal digit; only ASCII characters are such digits. -/
def hexValue? (c : Char) : Option Nat :=
  if '0' ≤ c && c ≤ '9' then some (c.toNat - 48)
  else if 'a' ≤ c && c ≤ 'f' then some (c.toNat - 87)
  else if 'A' ≤ c && c ≤ 'F' then some (c.toNat - 55)
  else none

end TableFerry.Text
