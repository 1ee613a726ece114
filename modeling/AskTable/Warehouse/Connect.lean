import AskTable.Warehouse.Activation

/-!
# Connecting

* `Patience`: how long a login may take.
* `connect`: a connection that is open, and active as far as that can be; nothing is done when the
  one in use is open.
* `ensureConnected`: replaces a connection that was closed from the other side.
-/

namespace AskTable.Warehouse

open AskTable.Number

/-- How long a login may take. -/
inductive Patience where
  /-- As long as it wants. -/
  | endless
  /-- Some time. -/
  | some
  /-- No time at all: it is given up before it begins. -/
  | none
  deriving DecidableEq, Repr

/-- The patience of a number of seconds. -/
def Patience.of : Cell → Except Fault Patience
  | .null => .ok .endless
  | .bool b => .ok (if b then .some else .none)
  | .int n => .ok (if n ≤ 0 then .none else .some)
  | .float x => .ok (if x.isZero || x.isNegative then .none else .some)
  | c => .error (.noOrder c.kindName)

/-- Is a login waited for without a time limit? -/
def Service.isEndless (s : Service) : Bool :=
  match Patience.of s.config.loginTimeout with
  | .ok .endless => true
  | _ => false

/-- The login of an attempt, unless it is given up before it begins. -/
def patientLogin (s : Service) (w : Warehouse) : Except Failure Nat × Warehouse :=
  match Patience.of s.config.loginTimeout with
  | .error fault => (.error (.fault fault), w)
  | .ok .none => (.error (timedOut s.config.loginTimeout), w)
  | .ok _ => login s w

/-- Takes a connection into use. -/
def install (c : Nat) (w : Warehouse) : Warehouse := { w with current := some c }

/-- A result without its value. -/
def done (result : Except Failure α) : Except Failure Unit := result.map fun _ => ()

/-- Makes a new connection, takes it into use and activates a warehouse on it
(`SnowflakeWarehouse._establish`). -/
def establish (s : Service) (w : Warehouse) : Except Failure Unit × Warehouse :=
  match patientLogin s w with
  | (.error failure, w) => (.error failure, w)
  | (.ok c, w) =>
    let (result, w) := activate s (install c w)
    (done result, w)

/-- Connects, unless the connection in use is open (`SnowflakeWarehouse.connect`). -/
def connect (s : Service) (w : Warehouse) : Except Failure Unit × Warehouse :=
  if w.isConnected then (.ok (), w) else establish s w

/-- Connects again if the connection in use is closed (`SnowflakeWarehouse.ensure_connected`). -/
def ensureConnected (s : Service) (w : Warehouse) : Except Failure Unit × Warehouse :=
  if w.wasConnected then connect s w else (.error notConnected, w)

end AskTable.Warehouse
