import TableFerry.Text.CaseTable
import TableFerry.Text.Ranges
/-!
Upper and lower case of whole texts. A character may become several, and a capital sigma that ends a word
has the final form as its lower case.
-/
namespace TableFerry.Text

def CaseRun.holds (run : CaseRun) (n : Nat) : Bool :=
  run.first ≤ n && n ≤ run.last && (n - run.first) % run.step == 0

def moveBy (runs : List CaseRun) (n : Nat) : Nat :=
  match runs.find? (·.holds n) with
  | some run => (n + run.distance).toNat
  | none => n

def mapCase (runs : List CaseRun) (expansions : List (Nat × List Nat)) (c : Char) : List Char :=
  match expansions.lookup c.toNat with
  | some codes => codes.map Char.ofNat
  | none => [Char.ofNat (moveBy runs c.toNat)]

/-- The upper case of one character. ASCII letters are settled without the tables. -/
def upperChar (c : Char) : List Char :=
  if c.toNat < 128 then [c.toUpper] else mapCase upperRuns upperExpansions c

/-- The lower case of one character, whatever stands around it. -/
def lowerChar (c : Char) : List Char :=
  if c.toNat < 128 then [c.toLower] else mapCase lowerRuns lowerExpansions c

def isCased (c : Char) : Bool := inRanges c.toNat casedRanges

def isCaseIgnorable (c : Char) : Bool := inRanges c.toNat caseIgnorableRanges

def capitalSigma : Char := Char.ofNat 0x3a3

def finalSigma : Char := Char.ofNat 0x3c2

/-- The first character that is not passed over is cased. -/
def meetsCased (cs : List Char) : Bool :=
  match cs.dropWhile isCaseIgnorable with
  | [] => false
  | c :: _ => isCased c

/-- Lower case of `cs`; `before` holds the characters already read, the nearest first. -/
def lowerFrom (before : List Char) : List Char → List Char
  | [] => []
  | c :: cs =>
    let own :=
      if c = capitalSigma then
        if meetsCased before && !meetsCased cs then [finalSigma] else lowerChar c
      else lowerChar c
    own ++ lowerFrom (c :: before) cs

def upperChars (cs : List Char) : List Char := cs.flatMap upperChar

def lowerChars (cs : List Char) : List Char := lowerFrom [] cs

def upper (s : String) : String := String.ofList (upperChars s.toList)

def lower (s : String) : String := String.ofList (lowerChars s.toList)

end TableFerry.Text
