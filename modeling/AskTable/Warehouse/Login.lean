import AskTable.Error

/-!
# Logins that may be given up

A worker waits for the connector and then hands the connection over. Whoever waits for it may give
the login up before or after that, and then nobody uses the connection.

* `Worker`, `Login`: where the worker stands, and what the two sides know of each other.
* `Login.handOver`, `abandon`: one step of either side, with the connection that it closes.
* `Login.run`: a run of steps, with all connections that were closed.
-/

namespace AskTable.Warehouse

/-- Where a worker stands. -/
inductive Worker where
  | ready
  /-- It waits for the connector, after so many other logins. -/
  | calling (others : Nat)
  /-- The connector answered. -/
  | answered (result : Except Failure Nat)
  /-- The connection was handed over; there is none if the login had been given up. -/
  | finished (result : Except Failure (Option Nat))

/-- A login, as its worker and its caller see it (`_LoginAttempt`). -/
structure Login where
  worker : Worker
  abandoned : Bool
  /-- The connection that was handed over and not closed. -/
  held : Option Nat

namespace Login

def start : Login := ⟨.ready, false, none⟩

/-- The connector answers. -/
def answer (result : Except Failure Nat) (l : Login) : Login :=
  match l.worker with
  | .ready | .calling _ => { l with worker := .answered result }
  | _ => l

/-- The worker hands over what the connector answered (`_LoginAttempt.run`). If the login was given
up, it closes the connection instead. -/
def handOver (l : Login) : Login × Option Nat :=
  match l.worker with
  | .answered (.error failure) => ({ l with worker := .finished (.error failure) }, none)
  | .answered (.ok c) =>
    if l.abandoned then ({ l with worker := .finished (.ok none) }, some c)
    else ({ l with worker := .finished (.ok (some c)), held := some c }, none)
  | _ => (l, none)

/-- The login is given up; a connection that was handed over is closed (`_LoginAttempt.abandon`). -/
def abandon (l : Login) : Login × Option Nat := ({ l with abandoned := true, held := none }, l.held)

/-- The steps of the two sides. -/
inductive Step where
  | answer (result : Except Failure Nat)
  | handOver
  | abandon

def step (l : Login) : Step → Login × Option Nat
  | .answer result => (l.answer result, none)
  | .handOver => l.handOver
  | .abandon => l.abandon

/-- A run of steps, with the connections that they close, in order. -/
def run (l : Login) : List Step → Login × List Nat
  | [] => (l, [])
  | e :: steps =>
    let (l, closed) := l.step e
    let (l, others) := l.run steps
    (l, closed.toList ++ others)

end Login

end AskTable.Warehouse
