import AskTable.Calendar.Moment
import AskTable.Terminal.Launch
import Std.Time.DateTime.Timestamp

/-!
# The command line

Reads the environment and the files, and prints what the assistant shows. Neither a warehouse nor a
language model is built in: every login fails, and the rules translate every question. The names of
the files in the uploads folder are told by `SQLASSIST_UPLOADS_FILES`, with colons between them.
-/

namespace AskTable.CommandLine

open AskTable.File AskTable.Settings AskTable.Terminal AskTable.Warehouse

/-! ## Printing -/

/-- The lines in which a thing is shown. -/
def linesOf : Item → List String
  | .document text => [text.dropEndWhile (· == '\n') |>.toString]
  | .panel text none => [text]
  | .panel text (some title) => ["[" ++ title ++ "]", text]
  | .table title columns cells =>
    title :: (columns :: cells).map fun texts => "  " ++ String.intercalate " | " texts
  | .line text _ => [text]
  | .prompt text => [text ++ ":"]

/-- Prints what is shown, and forgets it. -/
def flush (t : Terminal) : IO Terminal := do
  for item in t.shown do
    for text in linesOf item do
      IO.println text
  return { t with shown := [] }

/-! ## Reading -/

/-- The variables that settings are read from. -/
def variableNames : List String := ["SNOWFLAKE_ACCOUNT", "SNOWFLAKE_USER", "SNOWFLAKE_ROLE",
  "SNOWFLAKE_DATABASE", "SNOWFLAKE_SCHEMA", "SNOWFLAKE_AUTHENTICATOR", "SNOWFLAKE_WAREHOUSES",
  "SNOWFLAKE_LOGIN_TIMEOUT", "SQLASSIST_UPLOADS_DIR", "OPENAI_API_KEY", "OPENAI_MODEL"]

/-- The names that a text mentions in braces. -/
def mentioned (text : List Char) : List String :=
  (Text.splitOn '\x7b' text).map fun piece =>
    String.ofList (piece.takeWhile fun c => c != '\x7d' && c != ':')

/-- The values of some variables, as far as they are set. -/
def environmentOf (names : List String) : IO Environment := do
  let values ← names.mapM fun name => return (← IO.getEnv name).map fun value => (name, value)
  return values.filterMap id

/-- The bytes of a file, if it can be read. -/
def bytesOf? (path : String) : IO (Option (List UInt8)) := do
  try
    return some (← IO.FS.readBinFile path).toList
  catch _ =>
    return none

/-- The disk with the files of a folder that can be read. -/
def withFiles (disk : Disk) (folder : String) (names : List String) : IO Disk := do
  let mut disk := disk
  for name in names do
    let path := join folder name
    if let some bytes ← bytesOf? (absolute disk.workingFolder path) then
      disk := disk.put path (.file (.bytes bytes))
  return disk

/-- The names of the files in the uploads folder. -/
def uploadNames : IO (List String) := do
  return (((← IO.getEnv "SQLASSIST_UPLOADS_FILES").getD "").splitOn ":").filter fun s => !s.isEmpty

/-- The time in coordinated universal time. -/
def now : IO String := do
  let time ← Std.Time.Timestamp.now
  let micros := time.toNanosecondsSinceUnixEpoch.val.toNat / 1000
  return (Calendar.Moment.sinceEpoch micros).text ++ "Z"

/-! ## Running -/

def noConnector : Connector where
  login _ := .error (.report "no connector is built in" 0)
  reply _ _ := .ok []

/-- Ends the program: the exit code, or one for a failure that is printed. -/
def ending (result : Except Failure Nat) : IO UInt32 := do
  match result with
  | .ok code => return code.toUInt32
  | .error failure =>
    (← IO.getStderr).putStrLn failure.text
    return 1

/-- The setup at this time, with the files that are there now. -/
def refreshed (s : Setup) (t : Terminal) : IO (Setup × Terminal) := do
  let disk ← withFiles ⟨t.assistant.disk.workingFolder, []⟩ s.uploads (← uploadNames)
  return ({ s with time := ← now }, { t with assistant := { t.assistant with disk } })

/-- Talks with the user until one line ends it. -/
partial def talk (s : Setup) (o : Options) (t : Terminal) : IO UInt32 := do
  let (_, t) := t.put .plain [Terminal.invitation]
  let t ← flush t
  let text ← (← IO.getStdin).getLine
  if text.isEmpty then return ← ending (.error (.fault .endOfInput))
  let (s, t) ← refreshed s t
  let (result, t) := t.line .plain s o text
  let t ← flush t
  match result with
  | .ok true => return 0
  | .ok false => talk s o t
  | .error failure => ending (.error failure)

/-- Runs the assistant with some options. -/
def launch (o : Options) : IO UInt32 := do
  let folder := (← IO.getEnv "PWD").getD "/"
  let disk ← withFiles ⟨folder, []⟩ folder [".env"]
  let text := ((fileText disk ".env").toOption).getD []
  let environment ← environmentOf (variableNames ++ mentioned text)
  match Launch.prepare disk environment noConnector (fun _ => .refused) (← now) o with
  | .error fault => ending (.error (.fault fault))
  | .ok l =>
    let (s, t) ← refreshed l.setup ⟨Assistant.start ⟨folder, []⟩, []⟩
    let (result, t) := t.opening .plain s o
    let t ← flush t
    match result with
    | .ok (some code) => ending (.ok code)
    | .ok none => talk s o t
    | .error failure => ending (.error failure)

end AskTable.CommandLine

/-- Reads the options and does what they ask for. -/
def main (words : List String) : IO UInt32 := do
  match AskTable.Terminal.Options.read words with
  | .help =>
    IO.println "usage: [--uploads-dir DIR] [--model MODEL] [--no-llm] [--query QUERY]"
    IO.println "       [--connect] [--schema] [--health] [--json] [-v]"
    return 0
  | .wrong => return 2
  | .options o => AskTable.CommandLine.launch o
