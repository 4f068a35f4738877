import TableFerry.Pattern.Width
import TableFerry.Text.Digit
import TableFerry.Text.Search
import TableFerry.Text.Word
/-!
Reading a pattern text into its tree. The text is taken token by token, a token being one character or a
backslash with the character behind it; of a bad pattern the first mistake met is reported with its place.
-/
namespace TableFerry.Pattern

inductive Token where
  | char (c : Char)
  | escape (c : Char)
  deriving DecidableEq, Repr, Inhabited

def Token.size : Token → Nat
  | char _ => 1
  | escape _ => 2

def Token.text : Token → String
  | char c => String.ofList [c]
  | escape c => String.ofList ['\\', c]

/-- The token in view, the offset behind it, the text after that, and what was learned of the pattern so
far: its flags, how many groups were opened (the whole counts as one), the widths of the closed ones, their
names, the number of groups when the outermost look behind began, and the groups that must come to exist. -/
structure Progress where
  next : Option Token
  offset : Nat
  rest : List Char
  size : Nat
  flags : Flags := {}
  opened : Nat := 1
  closed : GroupWidths := []
  names : List (String × Nat) := []
  lookbehind : Option Nat := none
  awaited : List (Nat × Int) := []

abbrev Reading := StateT Progress (Except SyntaxFault)

/-- Where the token in view starts. -/
def Progress.place (p : Progress) : Int :=
  (p.offset : Int) - (match p.next with
    | some token => (token.size : Int)
    | none => 0)

/-- Takes the next token from the text into view. -/
def Progress.load (p : Progress) : Except SyntaxFault Progress :=
  match p.rest with
  | [] => .ok { p with next := none }
  | ['\\'] => .error ⟨.escapeAtEnd, some ((p.size : Int) - 1)⟩
  | '\\' :: c :: rest => .ok { p with next := some (.escape c), offset := p.offset + 2, rest := rest }
  | c :: rest => .ok { p with next := some (.char c), offset := p.offset + 1, rest := rest }

def advance : Reading Unit := do
  let p ← (← get).load
  set p

def take : Reading (Option Token) := do
  let token := (← get).next
  advance
  pure token

def peek : Reading (Option Token) := do
  pure (← get).next

def place : Reading Int := do
  pure (← get).place

/-- Takes the token in view if it is the character `c`. -/
def accept (c : Char) : Reading Bool := do
  if (← get).next = some (.char c) then
    advance
    pure true
  else
    pure false

/-- Reports a mistake `back` characters in front of the token in view. -/
def mistake {α : Type} (m : Mistake) (back : Int) : Reading α := do
  let here ← place
  throw ⟨m, some (here - back)⟩

/-- Reports a mistake at a known place. -/
def mistakeAt {α : Type} (m : Mistake) (offset : Int) : Reading α :=
  throw ⟨m, some offset⟩

/-- At most `count` characters that satisfy `p`. -/
def takeChars (p : Char → Bool) : Nat → Reading (List Char)
  | 0 => pure []
  | count + 1 => do
    match ← peek with
    | some (.char c) =>
      if p c then
        advance
        pure (c :: (← takeChars p count))
      else
        pure []
    | _ => pure []

/-- The text up to `closing`, which must not be empty; `what` names it when it is missing. -/
def takeName (closing : Char) (what : String) : Nat → String → Reading String
  | 0, found => pure found
  | fuel + 1, found => do
    match ← take with
    | none =>
      if found = "" then mistake (.missing what) 0
      else mistake (.missingAfterName (String.ofList [closing])) found.length
    | some token =>
      if token = .char closing then
        if found = "" then mistake (.missing what) 1 else pure found
      else takeName closing what fuel (found ++ token.text)

def isOctalDigit (c : Char) : Bool := '0' ≤ c && c ≤ '7'

def isHexDigit (c : Char) : Bool := (Text.hexValue? c).isSome

/-- The number that digits denote in a base up to sixteen. -/
def radixValue (radix : Nat) (cs : List Char) : Nat :=
  cs.foldl (fun n c => radix * n + (Text.hexValue? c).getD 0) 0

def controlEscape? : Char → Option Nat
  | 'a' => some 7
  | 'f' => some 12
  | 'n' => some 10
  | 'r' => some 13
  | 't' => some 9
  | 'v' => some 11
  | '\\' => some 92
  | _ => none

def classEscape? : Char → Option Member
  | 'd' => some (.all .digit false)
  | 'D' => some (.all .digit true)
  | 's' => some (.all .space false)
  | 'S' => some (.all .space true)
  | 'w' => some (.all .word false)
  | 'W' => some (.all .word true)
  | _ => none

def anchorEscape? : Char → Option Anchor
  | 'A' => some .textStart
  | 'b' => some .boundary
  | 'B' => some .noBoundary
  | 'Z' => some .textEnd
  | _ => none

/-- A character given by `count` hexadecimal digits behind the letter `c`. -/
def hexEscape (c : Char) (count : Nat) : Reading Nat := do
  let digits ← takeChars isHexDigit count
  let text := String.ofList ('\\' :: c :: digits)
  if digits.length ≠ count then mistake (.incompleteEscape text) text.length
  else
    let code := radixValue 16 digits
    if 0x10ffff < code then mistake (.badEscape text) text.length else pure code

/-- A character given by its name, none of which is known. -/
def namedEscape : Reading Nat := do
  if ← accept '{' then
    let name ← takeName '}' "character name" ((← get).size + 1) ""
    mistake (.unknownCharacterName name) (name.length + 4)
  else mistake (.missing "\x7b") 0

/-- A character given by itself behind a backslash; letters and digits have no such form. -/
def plainEscape (c : Char) : Reading Nat :=
  if Text.isAsciiLetter c || Text.isAsciiDigit c then
    mistake (.badEscape (String.ofList ['\\', c])) 2
  else pure c.toNat

def codeEscape? (c : Char) : Option (Reading Nat) :=
  match c with
  | 'x' => some (hexEscape 'x' 2)
  | 'u' => some (hexEscape 'u' 4)
  | 'U' => some (hexEscape 'U' 8)
  | 'N' => some namedEscape
  | _ => none

/-- An escape inside a set. -/
def memberEscape (c : Char) : Reading Member := do
  if c = 'b' then return .char 8
  if let some code := controlEscape? c then return .char code
  if let some member := classEscape? c then return member
  if let some read := codeEscape? c then return .char (← read)
  if isOctalDigit c then
    let digits ← takeChars isOctalDigit 2
    let code := radixValue 8 (c :: digits)
    if 0o377 < code then
      let text := String.ofList ('\\' :: c :: digits)
      mistake (.octalTooLarge text) text.length
    else return .char code
  return .char (← plainEscape c)

/-- Whether the group was opened and closed. -/
def Progress.isClosed (p : Progress) (number : Nat) : Bool := (p.closed.lookup number).isSome

/-- Inside a look behind only groups closed before it may be referred to. -/
def checkLookbehind (number : Nat) : Reading Unit := do
  let p ← get
  match p.lookbehind with
  | none => pure ()
  | some opened =>
    if !p.isClosed number then mistake .openGroup 0
    else if opened ≤ number then mistake .sameLookbehind 0
    else pure ()

/-- A reference to a group by number, which a backslash, `first` and perhaps another digit stand for, or a
character given by three octal digits. -/
def numberEscape (first : Char) : Reading Node := do
  let second ← takeChars Text.isAsciiDigit 1
  let third ←
    if isOctalDigit first && second.all isOctalDigit && second ≠ [] then takeChars isOctalDigit 1
    else pure []
  let digits := first :: second ++ third
  let text := String.ofList ('\\' :: digits)
  if third ≠ [] then
    let code := radixValue 8 digits
    if 0o377 < code then mistake (.octalTooLarge text) text.length else pure (.char code)
  else
    let number := Text.digitsValue digits
    let p ← get
    if number < p.opened then
      if !p.isClosed number then mistake .openGroup text.length
      else
        checkLookbehind number
        pure (.reference number)
    else mistake (.invalidReference number) ((text.length : Int) - 1)

/-- An escape outside a set. -/
def nodeEscape (c : Char) : Reading Node := do
  if let some place := anchorEscape? c then return .anchor place
  if let some member := classEscape? c then return .set false [member]
  if let some code := controlEscape? c then return .char code
  if let some read := codeEscape? c then return .char (← read)
  if c = '0' then
    let digits ← takeChars isOctalDigit 2
    return .char (radixValue 8 (c :: digits))
  if Text.isAsciiDigit c then return (← numberEscape c)
  return .char (← plainEscape c)

def setMember (token : Token) : Reading Member :=
  match token with
  | .char c => pure (.char c.toNat)
  | .escape c => memberEscape c

/-- The members of a set up to its closing bracket; `start` is where the set was opened and `found` holds
what was read, the last first. A closing bracket that comes first is a member. -/
def readMembers (start : Int) : Nat → List Member → Reading (List Member)
  | 0, found => pure found
  | fuel + 1, found => do
    match ← take with
    | none => mistakeAt .unterminatedSet start
    | some token =>
      if token = .char ']' && !found.isEmpty then return found.reverse
      let first ← setMember token
      if ← accept '-' then
        match ← take with
        | none => mistakeAt .unterminatedSet start
        | some closing =>
          if closing = .char ']' then return (.char 45 :: first :: found).reverse
          let last ← setMember closing
          match first, last with
          | .char low, .char high =>
            if high < low then
              mistake (.badRange token.text closing.text) (token.size + 1 + closing.size)
            else readMembers start fuel (.range low high :: found)
          | _, _ => mistake (.badRange token.text closing.text) (token.size + 1 + closing.size)
      else readMembers start fuel (first :: found)

def flag? : Char → Option Flags
  | 'i' => some { ignoreCase := true }
  | 'm' => some { multiline := true }
  | 's' => some { dotAll := true }
  | 'x' => some { verbose := true }
  | 'a' => some { ascii := true }
  | 't' => some { bare := true }
  | 'u' => some { unicode := true }
  | _ => none

def isFlag (token : Token) : Bool :=
  match token with
  | .char c => c = 'L' || (flag? c).isSome
  | .escape _ => false

/-- The mistake of a token where a flag or one of a few marks must stand. -/
def notAFlag {α : Type} (token : Token) (what : String) : Reading α :=
  match token with
  | .char c =>
    if Text.isWordChar c && !Text.isDigit c && c ≠ '_' then mistake .unknownFlag 1
    else mistake (.missing what) 1
  | .escape _ => mistake (.missing what) 2

/-- The flags from `c` on that are turned on, with the mark that ends them. -/
def readFlagsOn : Nat → Flags → Char → Reading (Flags × Char)
  | 0, found, c => pure (found, c)
  | fuel + 1, found, c => do
    if c = 'L' then mistake .localeFlag 0
    else
      let own := (flag? c).getD {}
      let found := found.or own
      if (own.ascii || own.unicode) && found.ascii && found.unicode then mistake .incompatibleFlags 0
      else
        match ← take with
        | none => mistake (.missing "-, : or )") 0
        | some token =>
          match token with
          | .char c =>
            if c = ')' || c = '-' || c = ':' then pure (found, c)
            else if isFlag token then readFlagsOn fuel found c
            else notAFlag token "-, : or )"
          | .escape _ => notAFlag token "-, : or )"

/-- The flags from `c` on that are turned off, up to a colon. -/
def readFlagsOff : Nat → Flags → Char → Reading Flags
  | 0, found, _ => pure found
  | fuel + 1, found, c => do
    let own := (flag? c).getD {}
    if c = 'L' || own.ascii || own.unicode then mistake .alphabetOff 0
    else
      let found := found.or own
      match ← take with
      | none => mistake (.missing ":") 0
      | some token =>
        match token with
        | .char c =>
          if c = ':' then pure found
          else if isFlag token then readFlagsOff fuel found c
          else notAFlag token ":"
        | .escape _ => notAFlag token ":"

/-- The flags of a group from `c` on: those for the whole pattern, which are kept in the progress, or those
to turn on and off inside the group. -/
def readFlags (c : Char) : Reading (Option (Flags × Flags)) := do
  let fuel := (← get).size + 1
  let (on, mark) ← if c = '-' then pure ({}, '-') else readFlagsOn fuel {} c
  if mark = ')' then
    modify fun p => { p with flags := p.flags.or on }
    return none
  if on.bare then mistake .globalFlagOn 1
  else if mark = ':' then return some (on, {})
  else
    match ← take with
    | none => mistake (.missing "flag") 0
    | some token =>
      if !isFlag token then notAFlag token "flag"
      else
        let off ← match token with
          | .char c => readFlagsOff fuel {} c
          | .escape _ => pure {}
        if off.bare then mistake .globalFlagOff 1
        else if on.overlaps off then mistake .flagOnAndOff 1
        else return some (on, off)

def isGroupName (name : String) : Bool :=
  match name.toList with
  | [] => false
  | c :: cs => Text.isWordChar c && !Text.isDigit c && cs.all Text.isWordChar

def checkGroupName (name : String) : Reading Unit :=
  if isGroupName name then pure () else mistake (.badGroupName name) (name.length + 1)

/-- Opens a group and gives its number. -/
def openGroup (name : Option String) : Reading Nat := do
  let p ← get
  let number := p.opened
  match name with
  | none =>
    set { p with opened := number + 1 }
    pure number
  | some name =>
    match p.names.lookup name with
    | some earlier => mistake (.nameTaken name number earlier) (name.length + 1)
    | none =>
      set { p with opened := number + 1, names := (name, number) :: p.names }
      pure number

def closeGroup (number : Nat) (body : List Node) : Reading Unit :=
  modify fun p => { p with closed := (number, widthOfAll p.closed body) :: p.closed }

/-- The bounds of a repetition in braces, read behind the opening one; nothing if the braces hold anything
else, and then the text stays where it was. -/
def readBounds : Reading (Option (Nat × Option Nat)) := do
  let before ← get
  let here := before.place
  let fuel := before.size
  let low ← takeChars Text.isAsciiDigit fuel
  let high ← if ← accept ',' then takeChars Text.isAsciiDigit fuel else pure low
  if ← accept '}' then
    let least := Text.digitsValue low
    let most := if high = [] then none else some (Text.digitsValue high)
    if 4294967295 ≤ least || 4294967295 ≤ most.getD 0 then throw ⟨.tooManyRepeats, none⟩
    match most with
    | some most => if most < least then mistakeAt .leastAboveMost here
    | none => pure ()
    pure (some (least, most))
  else
    set before
    pure none

/-- Puts a repetition around the last node; `place` is where its mark stands. -/
def repeatLast (place : Int) (least : Nat) (most : Option Nat) (found : List Node) :
    Reading (List Node) := do
  match found with
  | [] => mistakeAt .nothingToRepeat place
  | .anchor _ :: _ => mistakeAt .nothingToRepeat place
  | .repeated .. :: _ => mistakeAt .multipleRepeat place
  | node :: rest =>
    let isLazy ← accept '?'
    let isPossessive ← if isLazy then pure false else accept '+'
    let greed := if isLazy then Greed.lazy else if isPossessive then .possessive else .greedy
    pure (.repeated least most greed [node] :: rest)

def isPatternSpace (c : Char) : Bool :=
  c = ' ' || c = '\t' || c = '\n' || c = '\r' || c.toNat = 11 || c.toNat = 12

/-- Passes over a comment up to and with the character `closing`. -/
def skipComment (closing : Char) : Nat → Reading Bool
  | 0 => pure false
  | fuel + 1 => do
    match ← take with
    | none => pure false
    | some token => if token = .char closing then pure true else skipComment closing fuel

/-- The group that a condition names, by number or name. -/
def readCondition : Reading Nat := do
  let name ← takeName ')' "group name" ((← get).size + 1) ""
  let back : Int := name.length + 1
  let number ←
    if isGroupName name then
      match (← get).names.lookup name with
      | some number => pure number
      | none => mistake (.unknownGroupName name) back
    else
      match Text.readInteger? name with
      | some (.ofNat number) =>
        if number = 0 then mistake .badGroupNumber back
        else
          let here ← place
          modify fun p =>
            if (p.awaited.lookup number).isSome then p
            else { p with awaited := p.awaited ++ [(number, here - back)] }
          pure number
      | _ => mistake (.badGroupName name) back
  checkLookbehind number
  pure number

/-- What an opening bracket with a question mark begins. -/
inductive Opening where
  | node (n : Node)
  | nothing
  | settings
  | group (number : Option Nat) (add remove : Flags) (atomic : Bool)
  | look (behind negated : Bool)
  | conditional

/-- The rest of the opening of a group behind `(?`, which stands at `start`. -/
def readOpening (start : Int) (isFirst : Bool) : Reading Opening := do
  let fuel := (← get).size + 1
  match ← take with
  | none => mistake .unexpectedEnd 0
  | some (.escape c) => mistake (.unknownExtension (String.ofList ['\\', c])) 3
  | some (.char c) =>
    match c with
    | 'P' =>
      if ← accept '<' then
        let name ← takeName '>' "group name" fuel ""
        checkGroupName name
        pure (.group (some (← openGroup (some name))) {} {} false)
      else
        let isReference ← accept '='
        if isReference then
          let name ← takeName ')' "group name" fuel ""
          checkGroupName name
          match (← get).names.lookup name with
          | none => mistake (.unknownGroupName name) (name.length + 1)
          | some number =>
            if !(← get).isClosed number then mistake .openGroup (name.length + 1)
            else
              checkLookbehind number
              pure (.node (.reference number))
        else
          match ← take with
          | none => mistake .unexpectedEnd 0
          | some token => mistake (.unknownExtension ("P" ++ token.text)) (token.size + 2)
    | ':' => pure (.group none {} {} false)
    | '#' =>
      if ← skipComment ')' fuel then pure .nothing else mistakeAt .unterminatedComment start
    | '=' => pure (.look false false)
    | '!' => pure (.look false true)
    | '<' =>
      match ← take with
      | none => mistake .unexpectedEnd 0
      | some token =>
        if token = .char '=' then pure (.look true false)
        else if token = .char '!' then pure (.look true true)
        else mistake (.unknownExtension ("<" ++ token.text)) (token.size + 2)
    | '(' => pure .conditional
    | '>' => pure (.group none {} {} true)
    | c =>
      if isFlag (.char c) || c = '-' then
        match ← readFlags c with
        | none => if isFirst then pure .settings else mistakeAt .globalFlagsInside start
        | some (add, remove) => pure (.group none add remove false)
      else mistake (.unknownExtension (String.ofList [c])) 2

def expectClosing (start : Int) : Reading Unit := do
  if ← accept ')' then pure () else mistakeAt .unterminatedGroup start

mutual

/-- Alternatives up to the end of the pattern or a closing bracket. -/
def readAlternatives : Nat → Bool → Bool → Reading (List Node)
  | 0, _, _ => pure []
  | fuel + 1, verbose, outermost => do
    let first ← readSequence fuel verbose outermost []
    if (← peek) = some (.char '|') then
      pure [.alternatives (← readBranches fuel verbose outermost [first])]
    else pure first

/-- Further alternatives behind those in `found`, the last first. -/
def readBranches : Nat → Bool → Bool → List (List Node) → Reading (List (List Node))
  | 0, _, _, found => pure found.reverse
  | fuel + 1, verbose, outermost, found => do
    if ← accept '|' then
      let p ← get
      let verbose := if outermost then p.flags.verbose else verbose
      let branch ← readSequence fuel verbose false []
      readBranches fuel verbose outermost (branch :: found)
    else pure found.reverse

/-- Nodes one after the other behind those in `found`, the last first. Flags for the whole pattern may
stand where `isFirst` holds and nothing was found yet. -/
def readSequence : Nat → Bool → Bool → List Node → Reading (List Node)
  | 0, _, _, found => pure found.reverse
  | fuel + 1, verbose, isFirst, found => do
    match ← peek with
    | none => pure found.reverse
    | some (.char '|') => pure found.reverse
    | some (.char ')') => pure found.reverse
    | some (.escape c) =>
      advance
      readSequence fuel verbose isFirst ((← nodeEscape c) :: found)
    | some (.char c) =>
      let start ← place
      advance
      if verbose && isPatternSpace c then readSequence fuel verbose isFirst found
      else if verbose && c = '#' then
        let _ ← skipComment '\n' fuel
        readSequence fuel verbose isFirst found
      else
        match c with
        | '.' => readSequence fuel verbose isFirst (.any :: found)
        | '^' => readSequence fuel verbose isFirst (.anchor .lineStart :: found)
        | '$' => readSequence fuel verbose isFirst (.anchor .lineEnd :: found)
        | '*' => readSequence fuel verbose isFirst (← repeatLast start 0 none found)
        | '+' => readSequence fuel verbose isFirst (← repeatLast start 1 none found)
        | '?' => readSequence fuel verbose isFirst (← repeatLast start 0 (some 1) found)
        | '{' =>
          if (← peek) = some (.char '}') then
            readSequence fuel verbose isFirst (.char c.toNat :: found)
          else
            match ← readBounds with
            | none => readSequence fuel verbose isFirst (.char c.toNat :: found)
            | some (least, most) =>
              readSequence fuel verbose isFirst (← repeatLast start least most found)
        | '[' =>
          let negated ← accept '^'
          let size := (← get).size
          let members ← readMembers start (size + 1) []
          readSequence fuel verbose isFirst (.set negated members.eraseDups :: found)
        | '(' =>
          let opening ←
            if ← accept '?' then readOpening start (isFirst && found.isEmpty)
            else pure (.group (some (← openGroup none)) {} {} false)
          match opening with
          | .nothing => readSequence fuel verbose isFirst found
          | .settings =>
            let p ← get
            readSequence fuel p.flags.verbose isFirst found
          | .node n => readSequence fuel verbose isFirst (n :: found)
          | .look behind negated =>
            let outer := (← get).lookbehind
            if behind && outer.isNone then
              modify fun p => { p with lookbehind := some p.opened }
            let body ← readAlternatives fuel verbose false
            if behind && outer.isNone then
              modify fun p => { p with lookbehind := none }
            expectClosing start
            let closed := (← get).closed
            let length := if behind then some (widthOfAll closed body).1 else none
            readSequence fuel verbose isFirst (.look length negated body :: found)
          | .conditional =>
            let number ← readCondition
            let present ← readSequence fuel verbose false []
            let absent ←
              if ← accept '|' then
                let absent ← readSequence fuel verbose false []
                if (← peek) = some (.char '|') then mistake .tooManyBranches 0
                pure absent
              else pure []
            expectClosing start
            readSequence fuel verbose isFirst (.conditional number present absent :: found)
          | .group number add remove atomic =>
            let inner := (verbose || add.verbose) && !remove.verbose
            let body ← readAlternatives fuel inner false
            expectClosing start
            match number with
            | some number => closeGroup number body
            | none => pure ()
            let node := if atomic then .atomic body else .group number add remove body
            readSequence fuel verbose isFirst (node :: found)
        | c => readSequence fuel verbose isFirst (.char c.toNat :: found)

end

/-- A pattern that was read: its tree and the flags that hold for the whole of it. -/
structure Compiled where
  flags : Flags
  nodes : List Node
  deriving Repr, Inhabited

def readPattern (size : Nat) : Reading Compiled := do
  let nodes ← readAlternatives (4 * size + 8) false true
  if (← peek).isSome then mistake .unbalanced 0
  else
    let p ← get
    match p.awaited.find? (fun entry => p.opened ≤ entry.1) with
    | some (number, offset) => mistakeAt (.invalidReference number) offset
    | none =>
      if !allLooksFixed p.closed nodes then throw ⟨.variableLookbehind, none⟩
      else pure ⟨p.flags, nodes⟩

/-- The pattern that a text denotes. -/
def compile (source : List Char) : Except SyntaxFault Compiled := do
  let start ← Progress.load { next := none, offset := 0, rest := source, size := source.length }
  let (compiled, _) ← (readPattern source.length).run start
  pure compiled

end TableFerry.Pattern
