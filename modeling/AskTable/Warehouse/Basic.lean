import AskTable.Warehouse.Connector

/-!
# The warehouse

What is known of the warehouse: the connections that were made, the one in use, and what was sent.

* `Warehouse`: the state; connections are named by their place.
* `isConnected`, `wasConnected`: is the connection in use open, and is there one?
* `enterLogin`, `leaveLogin`, `login`: a login, in two parts and as a whole.
* `send`: a command on the connection in use.
* `close`: closes the connection in use and lets go of it.
-/

namespace AskTable

open AskTable.Warehouse

/-- A command that was sent. -/
structure Warehouse.Delivery where
  connection : Nat
  command : Command
  accepted : Bool

/-- A warehouse, with all that was ever done on it (`SnowflakeWarehouse`). -/
structure Warehouse where
  /-- Is each connection open? -/
  connections : List Bool
  /-- The connection in use. -/
  current : Option Nat
  /-- The name of the active warehouse, null when there is none. -/
  active : Cell
  /-- How often the connector was asked to log in. -/
  logins : Nat
  /-- What the last login was given. -/
  lastLogin : Option (List (String × Cell))
  /-- The commands that were sent, in order. -/
  sent : List Warehouse.Delivery

namespace Warehouse

/-- Nothing was done yet. -/
def start : Warehouse := ⟨[], none, .null, 0, none, []⟩

def isOpen (w : Warehouse) (c : Nat) : Bool := w.connections[c]?.getD false

/-- Is the connection in use open (`SnowflakeWarehouse.is_connected`)? -/
def isConnected (w : Warehouse) : Bool := w.current.any w.isOpen

/-- Is there a connection, open or not (`SnowflakeWarehouse.was_connected`)? -/
def wasConnected (w : Warehouse) : Bool := w.current.isSome

/-- How many connections are open. -/
def openCount (w : Warehouse) : Nat := w.connections.count true

/-- Closes a connection. -/
def shut (w : Warehouse) (c : Nat) : Warehouse :=
  { w with connections := w.connections.set c false }

/-- Marks the newest connection closed, as when the other side gives it up. -/
def dropNewest (w : Warehouse) : Warehouse := w.shut (w.connections.length - 1)

/-- Closes the connection in use and lets go of it (`SnowflakeWarehouse.close`). -/
def close (w : Warehouse) : Warehouse :=
  match w.current with
  | none => w
  | some c => { w.shut c with current := none }

/-! ## Logins -/

/-- Are the account and the user set? -/
def isConfigured (config : Settings.RemoteConfig) : Bool :=
  config.account.any (fun s => !s.isEmpty) && config.user.any (fun s => !s.isEmpty)

/-- A login is begun. -/
def enterLogin (s : Service) (w : Warehouse) : Warehouse :=
  { w with logins := w.logins + 1, lastLogin := some s.config.parameters }

/-- The login that was begun after so many others ends; a successful one makes a connection. -/
def leaveLogin (s : Service) (others : Nat) (w : Warehouse) : Except Failure Nat × Warehouse :=
  match s.connector.login others with
  | .ok () => (.ok w.connections.length, { w with connections := w.connections ++ [true] })
  | .error fault => (.error (fault.ofLogin s.config.loginTimeout), w)

/-- A login, if the settings allow one (`SnowflakeWarehouse._open`). -/
def login (s : Service) (w : Warehouse) : Except Failure Nat × Warehouse :=
  if isConfigured s.config then leaveLogin s w.logins (enterLogin s w)
  else (.error notConfigured, w)

/-! ## Commands -/

/-- Sends a command on a connection (`SnowflakeWarehouse._run`). -/
def sendOn (s : Service) (c : Nat) (command : Command) (w : Warehouse) :
    Except Failure (List Row) × Warehouse :=
  match s.connector.reply w.sent.length command with
  | .ok rows => (.ok rows, { w with sent := w.sent ++ [⟨c, command, true⟩] })
  | .error fault => (.error fault.ofCommand, { w with sent := w.sent ++ [⟨c, command, false⟩] })

/-- Sends a command on the connection in use (`SnowflakeWarehouse.execute`). -/
def send (s : Service) (command : Command) (w : Warehouse) :
    Except Failure (List Row) × Warehouse :=
  match w.current with
  | none => (.error notConnected, w)
  | some c => sendOn s c command w

end Warehouse

end AskTable
