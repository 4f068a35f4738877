/-!
Blank characters: the whitespace of every script together with the ASCII separators. Stripping, squeezing
and splitting at them is stated on lists of characters and lifted to strings.
-/
namespace TableFerry.Text

def isBlankChar (c : Char) : Bool :=
  let n := c.toNat
  (9 ≤ n && n ≤ 13) || (28 ≤ n && n ≤ 32) || n == 0x85 || n == 0xa0 || n == 0x1680 ||
    (0x2000 ≤ n && n ≤ 0x200a) || n == 0x2028 || n == 0x2029 || n == 0x202f || n == 0x205f ||
    n == 0x3000

def stripChars (cs : List Char) : List Char :=
  ((cs.dropWhile isBlankChar).reverse.dropWhile isBlankChar).reverse

theorem length_stripChars_le (cs : List Char) : (stripChars cs).length ≤ cs.length := by
  have front := (List.dropWhile_suffix isBlankChar (l := cs)).length_le
  have back := (List.dropWhile_suffix isBlankChar (l := (cs.dropWhile isBlankChar).reverse)).length_le
  simp only [List.length_reverse] at back
  simp only [stripChars, List.length_reverse]
  omega

def strip (s : String) : String := String.ofList (stripChars s.toList)

def removeBlanks (s : String) : String := String.ofList (s.toList.filter (!isBlankChar ·))

/-- A text is blank when every character of it is. -/
def isBlankText (s : String) : Bool := s.toList.all isBlankChar

/-- Cuts a list at every element that satisfies `cut`; the cut elements are dropped. -/
def splitWhere (cut : Char → Bool) : List Char → List (List Char)
  | [] => [[]]
  | c :: cs =>
    if cut c then [] :: splitWhere cut cs
    else match splitWhere cut cs with
      | [] => [[c]]
      | part :: parts => (c :: part) :: parts

/-- The maximal runs of characters that are not blank. -/
def words (cs : List Char) : List (List Char) :=
  (splitWhere isBlankChar cs).filter (!·.isEmpty)

end TableFerry.Text
