import AskTable.File.Disk
import AskTable.Number.Numeral
import AskTable.Settings.Environment
import AskTable.Text.Lines

/-!
# Settings

* `RemoteConfig`: how the warehouse is reached; `RemoteConfig.parameters` is what a login is given.
* `Settings.ofEnvironment`: the settings of an environment; an empty value counts as none.
* `Settings.load`: the settings of an environment with the file beside it.
-/

namespace AskTable.Settings

open AskTable.File AskTable.Number AskTable.Text

/-- How the warehouse is reached (`SnowflakeConfig`). -/
structure RemoteConfig where
  account : Option String
  user : Option String
  role : Option String
  database : Option String
  schema : Option String
  authenticator : Option String
  /-- Tried in order when the list of warehouses is of no use. -/
  warehouses : List String
  /-- How many seconds a login may take. -/
  loginTimeout : Cell

/-- The warehouses that are tried if none is named (`DEFAULT_WAREHOUSES`). -/
def defaultWarehouses : List String := ["COMPUTE_WH", "WH_XS"]

def RemoteConfig.default : RemoteConfig where
  account := none
  user := none
  role := some "PUBLIC"
  database := none
  schema := none
  authenticator := some "externalbrowser"
  warehouses := defaultWarehouses
  loginTimeout := .int 120

/-- What a login is given: every field that has a value (`SnowflakeConfig.connect_params`). -/
def RemoteConfig.parameters (c : RemoteConfig) : List (String × Cell) :=
  let text (name : String) (value : Option String) : List (String × Cell) :=
    (value.map fun v => (name, Cell.text v)).toList
  text "account" c.account ++ text "user" c.user ++ text "role" c.role ++
    text "database" c.database ++ text "schema" c.schema ++
    text "authenticator" c.authenticator ++
    (if c.loginTimeout.isNull then [] else [("login_timeout", c.loginTimeout)])

end Settings

/-- What an assistant works with (`Settings`). -/
structure Settings where
  uploads : String
  apiKey : Option String
  model : String
  remote : Settings.RemoteConfig

namespace Settings

open AskTable.File AskTable.Number AskTable.Text

/-- The value of a name, unless it is empty (`_env`). -/
def value? (e : Environment) (name : String) : Option String :=
  (e.get? name).filter fun v => !v.isEmpty

/-- The pieces of a list between commas that are not blank (`_env_list`). -/
def listed (s : String) : List String :=
  ((splitOn ',' s.toList).map fun piece => String.ofList (trim piece)).filter fun piece => !piece.isEmpty

/-- The folder in which data files are looked for, below the working folder
(`DEFAULT_UPLOADS_DIR`). -/
def defaultUploads (workingFolder : String) : String := absolute workingFolder "uploads"

/-- The seconds that a login may take. -/
def loginTimeout (e : Environment) : Except Fault Cell :=
  match readWhole ((value? e "SNOWFLAKE_LOGIN_TIMEOUT").getD "120") with
  | .ok n => .ok (.int n)
  | .error fault => .error (.whole fault)

/-- The settings of an environment. -/
def ofEnvironment (workingFolder : String) (e : Environment) : Except Fault Settings := do
  let timeout ← loginTimeout e
  return {
    uploads := absolute workingFolder
      ((value? e "SQLASSIST_UPLOADS_DIR").getD (defaultUploads workingFolder))
    apiKey := value? e "OPENAI_API_KEY"
    model := (value? e "OPENAI_MODEL").getD "gpt-4o-mini"
    remote := {
      account := value? e "SNOWFLAKE_ACCOUNT"
      user := value? e "SNOWFLAKE_USER"
      role := some ((value? e "SNOWFLAKE_ROLE").getD "PUBLIC")
      database := value? e "SNOWFLAKE_DATABASE"
      schema := value? e "SNOWFLAKE_SCHEMA"
      authenticator := some ((value? e "SNOWFLAKE_AUTHENTICATOR").getD "externalbrowser")
      warehouses := ((value? e "SNOWFLAKE_WAREHOUSES").map listed).getD defaultWarehouses
      loginTimeout := timeout } }

/-- The text of a file, empty when there is none. -/
def fileText (disk : Disk) (path : String) : Except Fault (List Char) :=
  match disk.entry? path with
  | some (.file (.text s)) => .ok s.toList
  | some (.file (.bytes b)) =>
    match decodeUtf8 b with
    | .ok s => .ok s
    | .error fault => .error (.encoding fault)
  | _ => .ok []

/-- The environment with the values of a file that it lacks. -/
def loadFile (disk : Disk) (path : String) (e : Environment) : Except Fault Environment := do
  let text ← fileText disk path
  e.extend (resolved e (bindings (unifyLines text)))

/-- The path of the environment file: the one that is named, or `.env` in the working folder. -/
def environmentPath (disk : Disk) (named : Option String) : String :=
  match named with
  | none | some "" => join disk.workingFolder ".env"
  | some path => path

/-- The settings of an environment that an environment file extends, with that environment
(`Settings.from_env`). -/
def load (disk : Disk) (named : Option String) (e : Environment) :
    Except Fault (Settings × Environment) := do
  let extended ← loadFile disk (environmentPath disk named) e
  return (← ofEnvironment disk.workingFolder extended, extended)

end Settings

end AskTable
