import TableFerry.Command.Run
import TableFerry.Scripted.Reader
/-!
The command line. Databases answer from the scripts in the file that `MIGRATOR_SCRIPTS` names, and every other
URL leads to an empty one. Log lines go to standard error and to the log file.
-/
namespace TableFerry.Main

open Number (Double)

def scriptsName : String := "MIGRATOR_SCRIPTS"

def bytesOf (path : String) : IO (Option (List Nat)) := do
  try
    let bytes ← IO.FS.readBinFile path
    pure (some (bytes.toList.map (·.toNat)))
  catch _ => pure none

/-- The value that a file of JSON text holds, null if there is none. -/
def valueOf (bytes : Option (List Nat)) : Value :=
  match (bytes.bind Text.decodeUtf8?).map Json.read with
  | some (.ok value) => value
  | _ => .null

def environmentOf (names : List String) : IO Placeholder.Environment :=
  names.filterMapM fun name => do
    let value ← IO.getEnv name
    pure (value.map fun value => (name, value))

/-- The scripts that the environment points to. -/
def knownScripts : IO (List (String × Script)) := do
  match ← IO.getEnv scriptsName with
  | some path => do
    let bytes ← bytesOf path
    pure (Scripts.knownOf (valueOf bytes))
  | none => pure []

def writeLog (options : Command.Options) (log : List LogLine) : IO Unit := do
  let lines := (Command.shownLines options log).map fun line => line.level.name ++ " - " ++ line.text
  for line in lines do
    IO.eprintln line
  match options.logFile with
  | some path =>
    if path ≠ "" then
      IO.FS.withFile path .append fun file => lines.forM fun line => file.putStrLn line
  | none => pure ()

def run (options : Command.Options) : IO UInt32 := do
  let pointed ← IO.getEnv Settings.environmentName
  let path := Settings.plainPath ((options.config.filter (· ≠ "")).getD (pointed.getD ""))
  let bytes ← bytesOf path
  let environment ← environmentOf (Settings.environmentName :: Placeholder.names (valueOf bytes))
  let known ← knownScripts
  let now ← IO.monoMsNow
  let seed ← IO.rand 0 1000000
  let around : Command.Surroundings Scripts := {
    files := fun wanted => if wanted = path then bytes else none
    environment := environment
    connect := Scripts.connect known
    picks := fun k => (randNat (mkStdGen (seed + k)) 0 35).1 }
  let start := Scripts.world { clock := Double.ofRatio false now 1000 }
  let (result, world) := (Command.execute around options).run start
  writeLog options world.draft.log
  match result with
  | .ok ending =>
    ending.printed.forM fun line => IO.println line
    pure ending.status.toNat.toUInt32
  | .error fault =>
    IO.eprintln fault.text
    pure 1

end TableFerry.Main

def main (args : List String) : IO UInt32 := do
  match TableFerry.Command.readOptions args with
  | .ok options => TableFerry.Main.run options
  | .error exit =>
    if exit.complaint ≠ "" then IO.eprintln exit.complaint
    pure exit.status.toNat.toUInt32
