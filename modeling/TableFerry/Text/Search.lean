import TableFerry.Text.Blank
/-!
Looking for and cutting at fixed pieces of text.
-/
namespace TableFerry.Text

/-- Whether `piece` stands somewhere in the list. -/
def occursIn (piece : List Char) : List Char → Bool
  | [] => piece.isEmpty
  | c :: cs => piece.isPrefixOf (c :: cs) || occursIn piece cs

def hasPiece (s piece : String) : Bool := occursIn piece.toList s.toList

def hasStart (s start : String) : Bool := start.toList.isPrefixOf s.toList

def splitAt (mark : Char) (s : String) : List String :=
  (splitWhere (· == mark) s.toList).map String.ofList

def joinWith (separator : String) : List String → String
  | [] => ""
  | [s] => s
  | s :: rest => s ++ separator ++ joinWith separator rest

/-- Puts `into` for every `first` that `second` follows, from left to right and never overlapping. -/
def replacePair (first second : Char) (into : List Char) : List Char → List Char
  | a :: b :: rest =>
    if a = first ∧ b = second then into ++ replacePair first second into rest
    else a :: replacePair first second into (b :: rest)
  | rest => rest

def isAscii (c : Char) : Bool := c.toNat < 128

def isAsciiText (s : String) : Bool := s.toList.all isAscii

def isAsciiLetter (c : Char) : Bool := ('a' ≤ c && c ≤ 'z') || ('A' ≤ c && c ≤ 'Z')

def isAsciiDigit (c : Char) : Bool := '0' ≤ c && c ≤ '9'

end TableFerry.Text
