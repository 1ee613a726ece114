import AskTable.Warehouse.Basic

/-!
# Activating a warehouse

A connection works with one warehouse. The first one that is listed is tried, and then the ones of
the settings, until one can be used.

* `Activation`: how far an activation has come.
* `Activation.command?`, `after`: the command that comes next, and where its reply leads.
* `remaining_after_lt`: each reply brings an activation closer to its end.
* `Activation.finish`, `activate`: a whole activation.
-/

namespace AskTable.Warehouse

inductive Activation where
  /-- The list of warehouses is asked for next. -/
  | listing
  /-- A warehouse is tried next, and others after it. -/
  | trying (name : Cell) (others : List Cell)
  /-- The name that could be used, or null. -/
  | finished (result : Except Failure Cell)

namespace Activation

/-- Tries some warehouses in turn. -/
def ofNames : List Cell → Activation
  | [] => .finished (.ok .null)
  | name :: others => .trying name others

/-- Asks for the warehouses. -/
def listCommand : Command := .plain (.text "SHOW WAREHOUSES")

/-- Makes a warehouse the active one (`SnowflakeWarehouse._use`). -/
def useCommand (name : Cell) : Command := .plain (.text ("USE WAREHOUSE " ++ name.plainText))

/-- The command that comes next. -/
def command? : Activation → Option Command
  | .listing => some listCommand
  | .trying name _ => some (useCommand name)
  | .finished _ => none

/-- The name in a row of the list, under either spelling of its label. -/
def listedName (r : Row) : Cell :=
  let name := r.get (.ofText "name")
  if name.truthy then name else r.get (.ofText "NAME")

/-- The warehouses of the settings. -/
def fallbacks (s : Service) : List Cell := s.config.warehouses.map .text

/-- Did the warehouse refuse a command? -/
def isRefusal : Failure → Bool
  | .own e => e.kind == .remoteExecution
  | _ => false

/-- How an activation goes on after a failure: a refusal is passed over. -/
def pass (next : List Cell) (failure : Failure) : Activation :=
  if isRefusal failure then ofNames next else .finished (.error failure)

/-- Where the reply to the next command leads. -/
def after (s : Service) : Activation → Except Failure (List Row) → Activation
  | .listing, .ok [] => .finished (.ok .null)
  | .listing, .ok (r :: _) => .trying (listedName r) (fallbacks s)
  | .listing, .error failure => pass (fallbacks s) failure
  | .trying name _, .ok _ => .finished (.ok name)
  | .trying _ others, .error failure => pass others failure
  | .finished result, _ => .finished result

/-- A warehouse that could be used is the active one. -/
def note (a : Activation) (reply : Except Failure (List Row)) (w : Warehouse) : Warehouse :=
  match a, reply with
  | .trying name _, .ok _ => { w with active := name }
  | _, _ => w

/-- How many commands may still come. -/
def remaining (s : Service) : Activation → Nat
  | .listing => (fallbacks s).length + 2
  | .trying _ others => others.length + 1
  | .finished _ => 0

theorem remaining_ofNames (s : Service) (names : List Cell) :
    (ofNames names).remaining s = names.length := by
  cases names <;> rfl

theorem remaining_pass_le (s : Service) (next : List Cell) (failure : Failure) :
    (pass next failure).remaining s ≤ next.length := by
  unfold pass
  split
  · exact Nat.le_of_eq (remaining_ofNames s next)
  · exact Nat.zero_le _

/-- Each reply brings an activation closer to its end. -/
theorem remaining_after_lt (s : Service) {a : Activation} {c : Command} (h : a.command? = some c)
    (reply : Except Failure (List Row)) : (a.after s reply).remaining s < a.remaining s := by
  cases a with
  | listing =>
    cases reply with
    | ok rows => cases rows <;> simp [after, remaining]
    | error failure =>
      exact Nat.lt_of_le_of_lt (remaining_pass_le s _ failure) (by simp [remaining])
  | trying name others =>
    cases reply with
    | ok rows => simp [after, remaining]
    | error failure =>
      exact Nat.lt_of_le_of_lt (remaining_pass_le s _ failure) (by simp [remaining])
  | finished result => simp [command?] at h

/-- Takes an activation to its end. -/
def finish (s : Service) (a : Activation) (w : Warehouse) : Except Failure Cell × Warehouse :=
  match a with
  | .finished result => (result, w)
  | .listing =>
    let (reply, w) := send s listCommand w
    finish s (listing.after s reply) w
  | .trying name others =>
    let (reply, w) := send s (useCommand name) w
    finish s ((trying name others).after s reply) ((trying name others).note reply w)
termination_by a.remaining s
decreasing_by all_goals exact remaining_after_lt s rfl _

end Activation

/-- Activates a warehouse on the connection in use (`SnowflakeWarehouse.activate_warehouse`). -/
def activate (s : Service) (w : Warehouse) : Except Failure Cell × Warehouse :=
  Activation.listing.finish s w

end AskTable.Warehouse
