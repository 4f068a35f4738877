import TableFerry.Config.Strategy
/-!
The options of the command line. Names may be cut as long as one option is meant, values stand behind an equals
sign or in the next word, and the first mistake ends the reading.
-/
namespace TableFerry.Command

structure Options where
  config : Option String := none
  source : Option String := none
  target : Option String := none
  table : Option String := none
  tables : Option String := none
  all : Bool := false
  condition : Option String := none
  workers : Option Int := none
  buildMode : Option String := none
  maxRecords : Option Int := none
  noData : Bool := false
  ignore : List String := []
  stopOnError : Bool := false
  pageSize : Option Int := none
  debug : Bool := false
  dryRun : Bool := false
  logLevel : String := "INFO"
  logFile : Option String := none
  deriving DecidableEq, Repr, Inhabited

inductive OptionName where
  | help
  | config
  | source
  | target
  | table
  | tables
  | all
  | condition
  | workers
  | buildMode
  | maxRecords
  | noData
  | ignore
  | stopOnError
  | pageSize
  | debug
  | dryRun
  | logLevel
  | logFile
  deriving DecidableEq, Repr

namespace OptionName

/-- The spelling of an option in messages. -/
def shown : OptionName → String
  | help => "-h/--help"
  | config => "--config"
  | source => "--source"
  | target => "--target"
  | table => "--table"
  | tables => "--tables"
  | all => "--all"
  | condition => "--condition"
  | workers => "--workers"
  | buildMode => "--build-mode"
  | maxRecords => "--max-records"
  | noData => "--no-data"
  | ignore => "--ignore"
  | stopOnError => "--stop-on-error"
  | pageSize => "--page-size"
  | debug => "--debug"
  | dryRun => "--dry-run"
  | logLevel => "--log-level"
  | logFile => "--log-file"

/-- Options that stand alone. -/
def isSwitch : OptionName → Bool
  | help | all | noData | stopOnError | debug | dryRun => true
  | _ => false

/-- Options of which exactly one must be given. -/
def isSelection : OptionName → Bool
  | table | tables | all => true
  | _ => false

end OptionName

/-- Every spelling with its option, in the order in which they are listed. -/
def spellings : List (String × OptionName) :=
  [("-h", .help), ("--help", .help)] ++
    [OptionName.config, .source, .target, .table, .tables, .all, .condition, .workers, .buildMode,
      .maxRecords, .noData, .ignore, .stopOnError, .pageSize, .debug, .dryRun, .logLevel, .logFile].map
      fun name => (name.shown, name)

/-- How the program ends at once: its exit status and the last line of its complaint. -/
structure Exit where
  status : Int
  complaint : String
  deriving DecidableEq, Repr

def programName : String := "crossdb-migrate"

/-- The last line of a text that is not empty. -/
def lastLine (text : String) : String :=
  let backwards := text.toList.reverse.dropWhile (· = '\n')
  String.ofList (backwards.takeWhile (· ≠ '\n')).reverse

def complain {α : Type} (message : String) : Except Exit α :=
  .error ⟨2, lastLine (programName ++ ": error: " ++ message)⟩

def complainOf {α : Type} (name : OptionName) (message : String) : Except Exit α :=
  complain ("argument " ++ name.shown ++ ": " ++ message)

/-- What a word of the command line is: an option, perhaps with a value of its own, an unknown option, the
mark behind which there are no options, or something else. -/
inductive Word where
  | option (spelling : String) (name : OptionName) (value : Option String)
  | unknown
  | mark
  | plain
  deriving DecidableEq, Repr

/-- Cuts at the first equals sign. -/
def cutEquals (word : String) : String × Option String :=
  let cs := word.toList
  let before := cs.takeWhile (· ≠ '=')
  if before.length < cs.length then
    (String.ofList before, some (String.ofList (cs.drop (before.length + 1))))
  else (word, none)

/-- The options whose spelling begins as the word does. -/
def candidates (word : String) : List (String × OptionName × Option String) :=
  match word.toList with
  | '-' :: '-' :: _ =>
    let (start, value) := cutEquals word
    (spellings.filter fun entry => Text.hasStart entry.1 start).map fun entry =>
      (entry.1, entry.2, value)
  | '-' :: c :: rest =>
    spellings.filterMap fun entry =>
      if entry.1 = String.ofList ['-', c] then some (entry.1, entry.2, some (String.ofList rest))
      else if Text.hasStart entry.1 word then some (entry.1, entry.2, none)
      else none
  | _ => []

/-- A minus sign with digits, of which one point may stand in front of the last ones. -/
def isNegativeNumber (word : String) : Bool :=
  match word.toList with
  | '-' :: cs =>
    let cs := if cs.getLast? == some '\n' then cs.dropLast else cs
    let whole := cs.takeWhile Text.isDigit
    match cs.drop whole.length with
    | [] => !whole.isEmpty
    | '.' :: places => !places.isEmpty && places.all Text.isDigit
    | _ => false
  | _ => false

def readWord (word : String) : Except Exit Word :=
  match word.toList with
  | [] => .ok .plain
  | c :: rest =>
    if c ≠ '-' then .ok .plain
    else
      match spellings.lookup word with
      | some name => .ok (.option word name none)
      | none =>
        if rest.isEmpty then .ok .plain
        else
          let (start, value) := cutEquals word
          match value, spellings.lookup start with
          | some value, some name => .ok (.option start name (some value))
          | _, _ =>
            match candidates word with
            | [(spelling, name, value)] => .ok (.option spelling name value)
            | [] =>
              if isNegativeNumber word || word.toList.contains ' ' then .ok .plain else .ok .unknown
            | several =>
              complain (s!"ambiguous option: {word} could match " ++
                Text.joinWith ", " (several.map (·.1)))

/-- The words up to the mark are read one by one; behind it all are plain. -/
def readWords : List String → Except Exit (List (String × Word))
  | [] => .ok []
  | "--" :: rest => .ok (("--", .mark) :: rest.map fun word => (word, .plain))
  | word :: rest => do
    let read ← readWord word
    let others ← readWords rest
    pure ((word, read) :: others)

def levels : List String := ["DEBUG", "INFO", "WARNING", "ERROR"]

def readChoice (name : OptionName) (choices : List String) (value : String) : Except Exit String :=
  if choices.contains value then .ok value
  else
    complainOf name ("invalid choice: " ++ Text.quoted value ++ " (choose from " ++
      Text.joinWith ", " (choices.map Text.quoted) ++ ")")

def readNumber (name : OptionName) (value : String) : Except Exit Int :=
  match Text.readInteger? value with
  | some n => .ok n
  | none => complainOf name ("invalid int value: " ++ Text.quoted value)

/-- The options read so far and those of them that were given, with words that belong to none. -/
structure Reading where
  options : Options := {}
  given : List OptionName := []
  extras : List String := []

/-- The options with the value of one of them. -/
def setValue (options : Options) (name : OptionName) (value : String) : Except Exit Options :=
  match name with
  | .config => .ok { options with config := some value }
  | .source => .ok { options with source := some value }
  | .target => .ok { options with target := some value }
  | .table => .ok { options with table := some value }
  | .tables => .ok { options with tables := some value }
  | .condition => .ok { options with condition := some value }
  | .workers => do
    let n ← readNumber name value
    pure { options with workers := some n }
  | .buildMode => do
    let mode ← readChoice name (BuildMode.all.map (·.name)) value
    pure { options with buildMode := some mode }
  | .maxRecords => do
    let n ← readNumber name value
    pure { options with maxRecords := some n }
  | .ignore => .ok { options with ignore := options.ignore ++ [value] }
  | .pageSize => do
    let n ← readNumber name value
    pure { options with pageSize := some n }
  | .logLevel => do
    let level ← readChoice name levels value
    pure { options with logLevel := level }
  | .logFile => .ok { options with logFile := some value }
  | _ => .ok options

/-- The options with a switch turned on; asking for help ends the program. -/
def setSwitch (options : Options) (name : OptionName) : Except Exit Options :=
  match name with
  | .help => .error ⟨0, ""⟩
  | .all => .ok { options with all := true }
  | .noData => .ok { options with noData := true }
  | .stopOnError => .ok { options with stopOnError := true }
  | .debug => .ok { options with debug := true }
  | .dryRun => .ok { options with dryRun := true }
  | _ => .ok options

/-- Two different selections exclude each other. -/
def checkSelection (reading : Reading) (name : OptionName) : Except Exit Unit :=
  if name.isSelection then
    match [OptionName.table, .tables, .all].find? fun other =>
      other ≠ name && reading.given.contains other with
    | some other => complainOf name ("not allowed with argument " ++ other.shown)
    | none => .ok ()
  else .ok ()

def takeSwitch (reading : Reading) (name : OptionName) : Except Exit Reading := do
  checkSelection reading name
  let options ← setSwitch reading.options name
  pure { reading with options := options, given := name :: reading.given }

def takeValue (reading : Reading) (name : OptionName) (value : String) : Except Exit Reading := do
  let options ← setValue reading.options name value
  checkSelection reading name
  pure { reading with options := options, given := name :: reading.given }

/-- Whether the value in an option's own word stands behind an equals sign. -/
def standsBehindEquals (word : String) : Bool :=
  match word.toList with
  | '-' :: '-' :: _ => true
  | _ :: _ :: '=' :: _ => true
  | _ => false

/-- What is refused behind `-h` in the same word: it may be followed by more letters, but not by a dash, and a
repeated `h` not by a value. -/
def refusedBehindHelp? : List Char → Option (List Char)
  | [] => none
  | '-' :: cs => some ('-' :: cs)
  | 'h' :: '=' :: cs => some cs
  | 'h' :: cs => refusedBehindHelp? cs
  | _ => none

/-- Takes an option that holds a value in its own word, behind an equals sign or, after a single dash, behind
the letter of the option. Switches take none; help is the only switch of one letter. -/
def takeJoined (reading : Reading) (name : OptionName) (value : String) (behindEquals : Bool) :
    Except Exit Reading :=
  let refuse (value : String) : Except Exit Reading :=
    complainOf name ("ignored explicit argument " ++ Text.quoted value)
  if !name.isSwitch then takeValue reading name value
  else if behindEquals then refuse value
  else
    match refusedBehindHelp? value.toList with
    | some refused => refuse (String.ofList refused)
    | none => takeSwitch reading name

/-- Takes the words one after the other. -/
def takeWords : Reading → List (String × Word) → Except Exit Reading
  | reading, [] => .ok reading
  | reading, (word, kind) :: rest =>
    match kind with
    | .plain => takeWords { reading with extras := reading.extras ++ [word] } rest
    | .mark => takeWords { reading with extras := reading.extras ++ [word] } rest
    | .unknown => takeWords { reading with extras := reading.extras ++ [word] } rest
    | .option _ name (some value) => do
      let reading ← takeJoined reading name value (standsBehindEquals word)
      takeWords reading rest
    | .option _ name none =>
      if name.isSwitch then do
        let reading ← takeSwitch reading name
        takeWords reading rest
      else
        match rest with
        | (value, .plain) :: rest => do
          let reading ← takeValue reading name value
          takeWords reading rest
        | _ => complainOf name "expected one argument"

/-- The options of a command line. -/
def parse (words : List String) : Except Exit Options := do
  let words ← readWords words
  let reading ← takeWords {} words
  let missing := [OptionName.source, .target].filter fun name => !reading.given.contains name
  if !missing.isEmpty then
    complain ("the following arguments are required: " ++ Text.joinWith ", " (missing.map (·.shown)))
  else if !reading.given.any (·.isSelection) then
    complain "one of the arguments --table --tables --all is required"
  else if !reading.extras.isEmpty then
    complain ("unrecognized arguments: " ++ Text.joinWith " " reading.extras)
  else pure reading.options

def isGiven (text : Option String) : Bool :=
  match text with
  | some text => text ≠ ""
  | none => false

/-- What cannot be told option by option: a condition needs one table, and there is at least one worker. -/
def check (options : Options) : Except Exit Unit :=
  if isGiven options.condition && !isGiven options.table then
    complain "--condition can only be used with --table"
  else
    match options.workers with
    | some n => if n < 1 then complain "--workers must be at least 1" else .ok ()
    | none => .ok ()

/-- The policy of the configuration with what the command line puts in place of it. -/
def strategy (base : Strategy) (options : Options) : Except Fault Strategy :=
  let mapping := base.toMapping
  let set (present : Bool) (name : String) (value : Value) (fields : Fields) : Fields :=
    if present then Fields.put name value fields else fields
  let overridden :=
    set (isGiven options.buildMode) "build_mode" (.ofOption options.buildMode)
      (set options.maxRecords.isSome "max_record_count" (.int (options.maxRecords.getD 0))
        (set options.noData "include_data" (.bool false)
          (set (!options.ignore.isEmpty) "ignored_table_patterns"
            (.list ((base.ignored.map (·.text) ++ options.ignore).map .text))
            (set options.stopOnError "continue_when_error" (.bool false)
              (set options.pageSize.isSome "page_size" (.int (options.pageSize.getD 0))
                (set options.debug "debug" (.bool true) mapping))))))
  Strategy.ofFields overridden

/-- The names in a list that commas divide; blank ones are left out. -/
def splitNames (text : String) : List String :=
  ((Text.splitAt ',' text).map Text.strip).filter (· ≠ "")

end TableFerry.Command
