import TableFerry.Pattern.CaseTwins
import TableFerry.Pattern.Reader
import TableFerry.Text.Case
/-!
Whether a pattern takes the whole of a text. Choices are tried in the order in which the pattern gives them,
each together with all that follows it; what follows is a function of where a choice ended.
-/
namespace TableFerry.Pattern

/-- A place in the text, the nearest character before it first, with the text of each group so far. -/
structure Place where
  before : List Char
  rest : List Char
  groups : List (Nat × List Char) := []

abbrev Continue := Place → Option Place

def firstCode (cs : List Char) (c : Char) : Nat := (cs.headD c).toNat

def lowerCode (code : Nat) : Nat :=
  let c := Char.ofNat code
  firstCode (Text.lowerChar c) c

def hasCase (code : Nat) : Bool :=
  let c := Char.ofNat code
  lowerCode code != code || firstCode (Text.upperChar c) c != code

/-- Every code point whose lower case is `code`. -/
def loweredFrom (code : Nat) : List Nat :=
  let moved := Text.lowerRuns.filterMap fun run =>
    let source := ((code : Int) - run.distance).toNat
    if run.holds source && (source : Int) + run.distance == code then some source else none
  let expanded := Text.lowerExpansions.filterMap fun entry =>
    if entry.2.head? == some code then some entry.1 else none
  (if lowerCode code == code then [code] else []) ++ moved ++ expanded

/-- The code points that count as equal to `code` when case is ignored. -/
def caseFamily (code : Nat) : List Nat :=
  let low := lowerCode code
  (low :: (caseTwins.lookup low).getD []).flatMap loweredFrom

def asciiLower (code : Nat) : Nat := if 65 ≤ code && code ≤ 90 then code + 32 else code

def asciiFamily (code : Nat) : List Nat :=
  let low := asciiLower code
  if 97 ≤ low && low ≤ 122 then [low, low - 32] else [low]

/-- The code points that a character of the text stands for under the flags. -/
def standsFor (flags : Flags) (c : Char) : List Nat :=
  if !flags.ignoreCase then [c.toNat]
  else if flags.ascii then asciiFamily c.toNat
  else if hasCase c.toNat then c.toNat :: caseFamily c.toNat
  else [c.toNat]

def isWord (flags : Flags) (c : Char) : Bool :=
  (!flags.ascii || Text.isAscii c) && Text.isWordChar c

def CharClass.holds (flags : Flags) (c : Char) : CharClass → Bool
  | digit => if flags.ascii then Text.isAsciiDigit c else Text.isDigit c
  | space => if flags.ascii then isPatternSpace c else Text.isBlankChar c
  | word => isWord flags c

def Member.holds (flags : Flags) (c : Char) : Member → Bool
  | char code => (standsFor flags c).contains code
  | range first last => (standsFor flags c).any fun code => first ≤ code && code ≤ last
  | all kind negated => kind.holds flags c != negated

def Place.step (p : Place) (holds : Char → Bool) : Option Place :=
  match p.rest with
  | c :: rest => if holds c then some { p with before := c :: p.before, rest := rest } else none
  | [] => none

def Place.atBoundary (p : Place) (flags : Flags) : Bool :=
  p.before.head?.any (isWord flags) != p.rest.head?.any (isWord flags)

def Anchor.holds (flags : Flags) (p : Place) : Anchor → Bool
  | lineStart => p.before.isEmpty || (flags.multiline && p.before.head? == some '\n')
  | lineEnd =>
    p.rest.isEmpty || p.rest == ['\n'] || (flags.multiline && p.rest.head? == some '\n')
  | textStart => p.before.isEmpty
  | textEnd => p.rest.isEmpty
  | boundary => p.atBoundary flags && !(p.before.isEmpty && p.rest.isEmpty)
  | noBoundary => !p.atBoundary flags && !(p.before.isEmpty && p.rest.isEmpty)

/-- Whether a character may stand for one that was taken before: here letters are equal only if their lower
cases are. -/
def sameChar (flags : Flags) (a b : Char) : Bool :=
  a == b || (flags.ignoreCase &&
    (if flags.ascii then asciiLower a.toNat == asciiLower b.toNat
     else lowerCode a.toNat == lowerCode b.toNat))

/-- Takes a text that was taken before. -/
def Place.again (p : Place) (flags : Flags) : List Char → Option Place
  | [] => some p
  | c :: cs => (p.step (sameChar flags c)).bind fun q => q.again flags cs

/-- The place `count` characters back. -/
def Place.back (p : Place) : Nat → Option Place
  | 0 => some p
  | count + 1 =>
    match p.before with
    | c :: before => Place.back { p with before := before, rest := c :: p.rest } count
    | [] => none

/-- The text between two places, the first of them before the second. -/
def Place.textTo (p q : Place) : List Char :=
  (q.before.take (q.before.length - p.before.length)).reverse

def Place.sameSpot (p q : Place) : Bool := p.rest.length == q.rest.length

/-- Repeats a step at least `least` and at most `most` times, trying one more before going on. A repetition
that took nothing is the last. -/
def repeatGreedy (step : Place → Continue → Option Place) (k : Continue) :
    Nat → Nat → Option Nat → Option Place → Place → Option Place
  | 0, _, _, _, p => k p
  | fuel + 1, least, most, last, p =>
    let fewer := most.map (· - 1)
    if 0 < least then step p (repeatGreedy step k fuel (least - 1) fewer last)
    else if most == some 0 || last.any p.sameSpot then k p
    else (step p (repeatGreedy step k fuel 0 fewer (some p))).orElse fun _ => k p

/-- As `repeatGreedy`, but goes on before trying one more. -/
def repeatLazy (step : Place → Continue → Option Place) (k : Continue) :
    Nat → Nat → Option Nat → Option Place → Place → Option Place
  | 0, _, _, _, p => k p
  | fuel + 1, least, most, last, p =>
    let fewer := most.map (· - 1)
    if 0 < least then step p (repeatLazy step k fuel (least - 1) fewer last)
    else (k p).orElse fun _ =>
      if most == some 0 || last.any p.sameSpot then none
      else step p (repeatLazy step k fuel 0 fewer (some p))

/-- Repeats a step as often as it can be done, each time in the first way that works. -/
def repeatPossessive (step : Place → Continue → Option Place) :
    Nat → Nat → Option Nat → Option Place → Place → Option Place
  | 0, _, _, _, p => some p
  | fuel + 1, least, most, last, p =>
    let fewer := most.map (· - 1)
    if 0 < least then
      (step p some).bind (repeatPossessive step fuel (least - 1) fewer last)
    else if most == some 0 || last.any p.sameSpot then some p
    else match step p some with
      | some q => repeatPossessive step fuel 0 fewer (some p) q
      | none => some p

mutual

/-- Takes a node at a place and goes on with `k`. -/
def Node.run (flags : Flags) : Node → Place → Continue → Option Place
  | .char code, p, k => (p.step (Member.holds flags · (.char code))).bind k
  | .set negated members, p, k =>
    (p.step fun c => members.any (·.holds flags c) != negated).bind k
  | .any, p, k => (p.step fun c => flags.dotAll || c ≠ '\n').bind k
  | .anchor a, p, k => if a.holds flags p then k p else none
  | .group number add remove body, p, k =>
    runAll (flags.within add remove) body p fun q =>
      match number with
      | some number => k { q with groups := (number, p.textTo q) :: q.groups }
      | none => k q
  | .alternatives branches, p, k => runSome flags branches p k
  | .repeated least most greed body, p, k =>
    let fuel := least + p.rest.length + 2
    match greed with
    | .greedy => repeatGreedy (fun p k => runAll flags body p k) k fuel least most none p
    | .lazy => repeatLazy (fun p k => runAll flags body p k) k fuel least most none p
    | .possessive =>
      (repeatPossessive (fun p k => runAll flags body p k) fuel least most none p).bind k
  | .reference number, p, k =>
    match p.groups.lookup number with
    | some text => (p.again flags text).bind k
    | none => none
  | .look behind negated body, p, k =>
    match (p.back (behind.getD 0)).bind fun start => runAll flags body start some with
    | some q => if negated then none else k { p with groups := q.groups }
    | none => if negated then k p else none
  | .conditional number present absent, p, k =>
    if (p.groups.lookup number).isSome then runAll flags present p k else runAll flags absent p k
  | .atomic body, p, k => (runAll flags body p some).bind k

def runAll (flags : Flags) : List Node → Place → Continue → Option Place
  | [], p, k => k p
  | node :: nodes, p, k => node.run flags p fun q => runAll flags nodes q k

def runSome (flags : Flags) : List (List Node) → Place → Continue → Option Place
  | [], _, _ => none
  | branch :: branches, p, k => (runAll flags branch p k).orElse fun _ => runSome flags branches p k

end

/-- Whether the pattern takes the whole text. -/
def Compiled.matchesAll (pattern : Compiled) (text : List Char) : Bool :=
  (runAll pattern.flags pattern.nodes ⟨[], text, []⟩ fun q =>
    if q.rest.isEmpty then some q else none).isSome

end TableFerry.Pattern
