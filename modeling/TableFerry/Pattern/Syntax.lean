import TableFerry.Text.Quoted
/-!
Name patterns (regular expressions) as trees, the flags that change their reading, and the mistakes that a
pattern text can hold.
-/
namespace TableFerry.Pattern

structure Flags where
  ignoreCase : Bool := false
  multiline : Bool := false
  dotAll : Bool := false
  verbose : Bool := false
  ascii : Bool := false
  unicode : Bool := false
  bare : Bool := false
  deriving DecidableEq, Repr, Inhabited

namespace Flags

/-- The flags of both. -/
def or (a b : Flags) : Flags :=
  ⟨a.ignoreCase || b.ignoreCase, a.multiline || b.multiline, a.dotAll || b.dotAll,
    a.verbose || b.verbose, a.ascii || b.ascii, a.unicode || b.unicode, a.bare || b.bare⟩

/-- The flags of the first that are not in the second. -/
def without (a b : Flags) : Flags :=
  ⟨a.ignoreCase && !b.ignoreCase, a.multiline && !b.multiline, a.dotAll && !b.dotAll,
    a.verbose && !b.verbose, a.ascii && !b.ascii, a.unicode && !b.unicode, a.bare && !b.bare⟩

def overlaps (a b : Flags) : Bool :=
  (a.ignoreCase && b.ignoreCase) || (a.multiline && b.multiline) || (a.dotAll && b.dotAll) ||
    (a.verbose && b.verbose) || (a.ascii && b.ascii) || (a.unicode && b.unicode) || (a.bare && b.bare)

/-- The flags inside a group that adds some and removes some; the two alphabets exclude each other. -/
def within (outer add remove : Flags) : Flags :=
  let outer := if add.ascii || add.unicode then { outer with ascii := false, unicode := false } else outer
  (outer.or add).without remove

end Flags

/-- A class of characters with its complement. -/
inductive CharClass where
  | digit
  | space
  | word
  deriving DecidableEq, Repr

inductive Member where
  | char (code : Nat)
  | range (first last : Nat)
  | all (kind : CharClass) (negated : Bool)
  deriving DecidableEq, Repr

inductive Anchor where
  | lineStart
  | lineEnd
  | textStart
  | textEnd
  | boundary
  | noBoundary
  deriving DecidableEq, Repr

/-- Whether a repetition prefers many, prefers few, or gives nothing back. -/
inductive Greed where
  | greedy
  | lazy
  | possessive
  deriving DecidableEq, Repr

inductive Node where
  | char (code : Nat)
  | set (negated : Bool) (members : List Member)
  | any
  | anchor (place : Anchor)
  | group (number : Option Nat) (add remove : Flags) (body : List Node)
  | alternatives (branches : List (List Node))
  | repeated (least : Nat) (most : Option Nat) (greed : Greed) (body : List Node)
  | reference (number : Nat)
  | look (behind : Option Nat) (negated : Bool) (body : List Node)
  | conditional (number : Nat) (present absent : List Node)
  | atomic (body : List Node)
  deriving Inhabited, Repr

inductive Mistake where
  | escapeAtEnd
  | badEscape (text : String)
  | incompleteEscape (text : String)
  | octalTooLarge (text : String)
  | missing (what : String)
  | missingAfterName (closing : String)
  | unknownCharacterName (name : String)
  | openGroup
  | sameLookbehind
  | invalidReference (number : Nat)
  | unterminatedSet
  | badRange (first last : String)
  | nothingToRepeat
  | multipleRepeat
  | leastAboveMost
  | tooManyRepeats
  | unexpectedEnd
  | unknownExtension (text : String)
  | badGroupName (name : String)
  | unknownGroupName (name : String)
  | badGroupNumber
  | nameTaken (name : String) (number earlier : Nat)
  | unterminatedComment
  | unterminatedGroup
  | tooManyBranches
  | globalFlagsInside
  | localeFlag
  | incompatibleFlags
  | unknownFlag
  | globalFlagOn
  | globalFlagOff
  | alphabetOff
  | flagOnAndOff
  | unbalanced
  | variableLookbehind
  deriving DecidableEq, Repr

def Mistake.message : Mistake → String
  | escapeAtEnd => "bad escape (end of pattern)"
  | badEscape text => "bad escape " ++ text
  | incompleteEscape text => "incomplete escape " ++ text
  | octalTooLarge text => "octal escape value " ++ text ++ " outside of range 0-0o377"
  | missing what => "missing " ++ what
  | missingAfterName closing => "missing " ++ closing ++ ", unterminated name"
  | unknownCharacterName name => "undefined character name " ++ Text.quoted name
  | openGroup => "cannot refer to an open group"
  | sameLookbehind => "cannot refer to group defined in the same lookbehind subpattern"
  | invalidReference number => "invalid group reference " ++ toString number
  | unterminatedSet => "unterminated character set"
  | badRange first last => "bad character range " ++ first ++ "-" ++ last
  | nothingToRepeat => "nothing to repeat"
  | multipleRepeat => "multiple repeat"
  | leastAboveMost => "min repeat greater than max repeat"
  | tooManyRepeats => "the repetition number is too large"
  | unexpectedEnd => "unexpected end of pattern"
  | unknownExtension text => "unknown extension ?" ++ text
  | badGroupName name => "bad character in group name " ++ Text.quoted name
  | unknownGroupName name => "unknown group name " ++ Text.quoted name
  | badGroupNumber => "bad group number"
  | nameTaken name number earlier =>
    "redefinition of group name " ++ Text.quoted name ++ " as group " ++ toString number ++
      "; was group " ++ toString earlier
  | unterminatedComment => "missing ), unterminated comment"
  | unterminatedGroup => "missing ), unterminated subpattern"
  | tooManyBranches => "conditional backref with more than two branches"
  | globalFlagsInside => "global flags not at the start of the expression"
  | localeFlag => "bad inline flags: cannot use 'L' flag with a str pattern"
  | incompatibleFlags => "bad inline flags: flags 'a', 'u' and 'L' are incompatible"
  | unknownFlag => "unknown flag"
  | globalFlagOn => "bad inline flags: cannot turn on global flag"
  | globalFlagOff => "bad inline flags: cannot turn off global flag"
  | alphabetOff => "bad inline flags: cannot turn off flags 'a', 'u' and 'L'"
  | flagOnAndOff => "bad inline flags: flag turned on and off"
  | unbalanced => "unbalanced parenthesis"
  | variableLookbehind => "look-behind requires fixed-width pattern"

/-- A mistake and, where it has one, its place in the pattern. -/
structure SyntaxFault where
  mistake : Mistake
  offset : Option Int
  deriving DecidableEq, Repr

/-- The mistake with its place; a pattern of several lines also gets line and column. -/
def SyntaxFault.message (fault : SyntaxFault) (source : List Char) : String :=
  match fault.offset with
  | none => fault.mistake.message
  | some offset =>
    let text := fault.mistake.message ++ " at position " ++ toString offset
    if source.contains '\n' then
      let before := source.take offset.toNat
      let line := before.count '\n' + 1
      let column := (before.reverse.takeWhile (· ≠ '\n')).length + 1
      text ++ s!" (line {line}, column {column})"
    else text

end TableFerry.Pattern
