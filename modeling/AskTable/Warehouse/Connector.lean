import AskTable.Error
import AskTable.Settings.Basic

/-!
# Connectors

A connector logs in to the warehouse and answers commands. How it behaves is not known beforehand: it
is a function of how often it was used and of what it is asked.

* `RemoteFault`: why it fails; the warehouse reports an error, time is over, or something else goes
  wrong.
* `Command`: a statement with its parameters.
* `Connector`: what it answers to each login and to each command.
* `Service`: a connector with the settings of the warehouse.
-/

namespace AskTable.Warehouse

open AskTable.Settings

/-- Why a connector fails. -/
inductive RemoteFault where
  /-- The warehouse reports an error, with a number. -/
  | reported (text : String) (code : Int)
  /-- Something on the way says that its time is over. -/
  | overdue (name text : String)
  /-- Something else goes wrong on the way. -/
  | broken (name text : String)
  deriving DecidableEq, Repr

/-- An error as the warehouse reports it. One without a text says so, and one without a number has
the number -1. -/
def RemoteFault.report (text : String) (code : Int) : RemoteFault :=
  .reported (if text.isEmpty then "Unknown error" else text) (if code == 0 then -1 else code)

/-- A statement with its parameters, if it has any. -/
structure Command where
  text : Cell
  parameters : Option (List Cell)

/-- A command without parameters. -/
def Command.plain (text : Cell) : Command := ⟨text, none⟩

structure Connector where
  /-- The answer to a login, after so many others. -/
  login : Nat → Except RemoteFault Unit
  /-- The answer to a command, after so many others. -/
  reply : Nat → Command → Except RemoteFault (List Row)

structure Service where
  config : RemoteConfig
  connector : Connector

/-! ## Failures -/

/-- The number of an error that tells that someone else has logged in (`USER_MISMATCH_ERRNO`). -/
def mismatchCode : Int := 390322

/-- An account and a user have to be set. -/
def notConfigured : Failure := .own
  { kind := .remoteAuth, message := "Snowflake is not configured"
    details := some "set SNOWFLAKE_ACCOUNT and SNOWFLAKE_USER" }

/-- A login that took too long. -/
def timedOut (timeout : Cell) : Failure := .own
  { kind := .remoteAuth, message := "Timed out waiting for Snowflake authentication"
    details := some ("no login within " ++ timeout.plainText ++ "s") }

/-- There is no connection to use. -/
def notConnected : Failure := .own
  { kind := .sourceUnavailable, message := "No remote connection"
    details := some "connect to Snowflake first" }

/-- What a failed login says. -/
def loginMessage (code : Int) : String :=
  if code = mismatchCode then "Authenticated user does not match the configured user"
  else "Failed to connect to Snowflake"

/-- How a failed login ends (`SnowflakeWarehouse._open`). A time that is over is taken for the one
of the login. -/
def RemoteFault.ofLogin (timeout : Cell) : RemoteFault → Failure
  | .reported text code => .own
      { kind := .remoteAuth, message := loginMessage code, details := some text, code := some code }
  | .overdue .. => timedOut timeout
  | .broken name text => .fault (.raised name text)

/-- How a failed command ends (`SnowflakeWarehouse._run`). -/
def RemoteFault.ofCommand : RemoteFault → Failure
  | .reported text _ => .own
      { kind := .remoteExecution, message := "Query failed on Snowflake", details := some text }
  | .overdue name text | .broken name text => .fault (.raised name text)

end AskTable.Warehouse
