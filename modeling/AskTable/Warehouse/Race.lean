import AskTable.Warehouse.Connect
import AskTable.Warehouse.Login

/-!
# Callers, attempts and workers

Any number of callers may ask for a connection at the same time. They share one attempt, whose login
a worker performs. Callers may leave, the attempt may be stopped or run out of patience, and the
warehouse may be closed, at any moment.

* `Attempt`: a shared attempt; `Caller`: a caller and the attempt it waits for.
* `Race`: the warehouse with all callers and attempts; `Event`: what may happen next.
* `Race.step`, `Race.run`: the race after one event, and after a list of them. An event that cannot
  happen changes nothing.
* `Race.straight`: the events that take an attempt to its end without interference.
-/

namespace AskTable.Warehouse

/-- Where an attempt stands. -/
inductive Phase where
  | scheduled
  /-- It waits for its login. -/
  | waiting
  /-- It activates a warehouse; the reply to the last command may have come. -/
  | activating (a : Activation) (reply : Option (Except Failure (List Row)))
  | over (result : Except Failure Unit)

structure Attempt where
  phase : Phase
  login : Login
  /-- The attempt does know that its worker has finished. -/
  known : Bool
  /-- The attempt was told to stop and has not noticed it yet. -/
  stopped : Bool

def Attempt.start : Attempt := ⟨.scheduled, .start, false, false⟩

/-- The result of an attempt that is over. -/
def Attempt.result? (a : Attempt) : Option (Except Failure Unit) :=
  match a.phase with
  | .over result => some result
  | _ => none

def Attempt.isOver (a : Attempt) : Bool := a.result?.isSome

inductive Caller where
  | waiting (attempt : Nat)
  | left (result : Except Failure Unit)

def Caller.result? : Caller → Option (Except Failure Unit)
  | .waiting _ => none
  | .left result => some result

structure Race where
  warehouse : Warehouse
  attempts : List Attempt
  callers : List Caller

/-- What may happen next. Attempts and callers are named by their place. -/
inductive Event where
  /-- A caller asks for a connection. -/
  | arrive
  /-- The attempt gets its first turn. -/
  | start (attempt : Nat)
  /-- The worker begins its login. -/
  | enter (attempt : Nat)
  /-- The connector answers the worker. -/
  | answer (attempt : Nat)
  | handOver (attempt : Nat)
  /-- The attempt is told that its worker has finished. -/
  | notify (attempt : Nat)
  /-- The next command of the activation is sent and answered. -/
  | command (attempt : Nat)
  /-- The attempt gets another turn. -/
  | resume (attempt : Nat)
  /-- The time for the login is over. -/
  | expire (attempt : Nat)
  /-- A caller is told the result of its attempt. -/
  | wake (caller : Nat)
  /-- A caller goes away. -/
  | leave (caller : Nat)
  /-- The newest attempt is told to stop. -/
  | stop
  /-- The attempt is told to stop and the connection in use is closed. -/
  | close

namespace Race

def start (w : Warehouse) : Race := ⟨w, [], []⟩

/-- The newest attempt, if it is not over. -/
def pending? (r : Race) : Option Nat :=
  match r.attempts.getLast? with
  | some a => if a.isOver then none else some (r.attempts.length - 1)
  | none => none

def setAttempt (r : Race) (i : Nat) (a : Attempt) : Race :=
  { r with attempts := r.attempts.set i a }

def setCaller (r : Race) (j : Nat) (c : Caller) : Race := { r with callers := r.callers.set j c }

/-- Closes a connection, if there is one to close. -/
def shut (r : Race) : Option Nat → Race
  | none => r
  | some c => { r with warehouse := r.warehouse.shut c }

/-- A caller joins the pending attempt, or a new one if none is pending
(`SnowflakeWarehouse.connect`). -/
def join (r : Race) : Race :=
  match r.pending? with
  | some i => { r with callers := r.callers ++ [.waiting i] }
  | none => { r with
      attempts := r.attempts ++ [.start]
      callers := r.callers ++ [.waiting r.attempts.length] }

/-- A caller with an open connection need not wait. -/
def arrive (r : Race) : Race :=
  if r.warehouse.isConnected then { r with callers := r.callers ++ [.left (.ok ())] } else r.join

/-- An attempt ends. -/
def finish (r : Race) (i : Nat) (a : Attempt) (result : Except Failure Unit) : Race :=
  r.setAttempt i { a with phase := .over result, stopped := false }

/-- An attempt gives its login up. -/
def giveUp (r : Race) (i : Nat) (a : Attempt) (failure : Failure) : Race :=
  let (login, closed) := a.login.abandon
  (r.finish i { a with login } (.error failure)).shut closed

/-- The first turn of an attempt (`SnowflakeWarehouse._establish`). -/
def begin (s : Service) (r : Race) (i : Nat) (a : Attempt) : Race :=
  if a.stopped then r.finish i a (.error .cancelled)
  else match Patience.of s.config.loginTimeout with
    | .error fault => r.finish i a (.error (.fault fault))
    | .ok .none => r.finish i a (.error (timedOut s.config.loginTimeout))
    | .ok _ => r.setAttempt i { a with phase := .waiting }

/-- The worker of an attempt begins its login, unless it was given up before. -/
def enter (s : Service) (r : Race) (i : Nat) (a : Attempt) : Race :=
  if a.login.abandoned then r
  else if isConfigured s.config then
    { r.setAttempt i { a with login := { a.login with worker := .calling r.warehouse.logins } } with
      warehouse := enterLogin s r.warehouse }
  else r.setAttempt i { a with login := a.login.answer (.error notConfigured) }

/-- The connector answers the worker of an attempt. -/
def answer (s : Service) (r : Race) (i others : Nat) (a : Attempt) : Race :=
  let (result, w) := leaveLogin s others r.warehouse
  { r.setAttempt i { a with login := a.login.answer result } with warehouse := w }

/-- An attempt goes on with what its worker handed over. That it was told to stop is forgotten. -/
def takeOver (r : Race) (i : Nat) (a : Attempt) : Except Failure (Option Nat) → Race
  | .error failure => r.finish i a (.error failure)
  | .ok none => r.finish i a (.error .cancelled)
  | .ok (some c) =>
    { r.setAttempt i { a with phase := .activating .listing none, stopped := false } with
      warehouse := install c r.warehouse }

/-- An attempt goes on with the reply to a command. -/
def goOn (s : Service) (r : Race) (i : Nat) (a : Attempt) (activation : Activation)
    (reply : Except Failure (List Row)) : Race :=
  let r := { r with warehouse := activation.note reply r.warehouse }
  match activation.after s reply with
  | .finished result => r.finish i a (done result)
  | next => r.setAttempt i { a with phase := .activating next none }

/-- The next command of an activation is sent. -/
def command (s : Service) (r : Race) (i : Nat) (a : Attempt) (activation : Activation) : Race :=
  match activation.command? with
  | none => r
  | some c =>
    let (reply, w) := send s c r.warehouse
    { r.setAttempt i { a with phase := .activating activation (some reply) } with warehouse := w }

/-- Another turn of an attempt (`SnowflakeWarehouse._establish`). Once it knows that its worker has
finished, it does not notice any more that it was told to stop, unless it waits without a time
limit. -/
def resume (s : Service) (r : Race) (i : Nat) (a : Attempt) : Race :=
  match a.phase, a.known, a.login.worker with
  | .waiting, true, .finished result =>
    if a.stopped && s.isEndless then r.giveUp i a .cancelled else r.takeOver i a result
  | .waiting, _, _ => if a.stopped then r.giveUp i a .cancelled else r
  | .activating activation reply, _, _ =>
    if a.stopped then r.finish i a (.error .cancelled)
    else match reply with
      | some reply => r.goOn s i a activation reply
      | none => r
  | _, _, _ => r

/-- What an event does to the attempt that it names. -/
def onAttempt (s : Service) (r : Race) (i : Nat) (a : Attempt) (e : Event) : Race :=
  match e, a.phase, a.login.worker with
  | .start _, .scheduled, _ => r.begin s i a
  | .enter _, .waiting, .ready => r.enter s i a
  | .answer _, _, .calling others => r.answer s i others a
  | .handOver _, _, .answered _ =>
    let (login, closed) := a.login.handOver
    (r.setAttempt i { a with login }).shut closed
  | .notify _, _, .finished _ => r.setAttempt i { a with known := true }
  | .command _, .activating activation none, _ => r.command s i a activation
  | .resume _, _, _ => r.resume s i a
  | .expire _, .waiting, _ =>
    if a.known || a.stopped || s.isEndless then r
    else r.giveUp i a (timedOut s.config.loginTimeout)
  | _, _, _ => r

/-- What an event does to the caller that it names. -/
def onCaller (r : Race) (j : Nat) (c : Caller) (e : Event) : Race :=
  match e, c with
  | .wake _, .waiting i =>
    match r.attempts[i]?.bind Attempt.result? with
    | some result => r.setCaller j (.left result)
    | none => r
  | .leave _, .waiting _ => r.setCaller j (.left (.error .cancelled))
  | _, _ => r

/-- Tells the newest attempt to stop (`SnowflakeWarehouse.cancel`). -/
def stop (r : Race) : Race :=
  match r.pending? with
  | none => r
  | some i =>
    match r.attempts[i]? with
    | some a => r.setAttempt i { a with stopped := true }
    | none => r

/-- Stops the newest attempt and closes the connection in use (`SnowflakeWarehouse.close`). -/
def close (r : Race) : Race :=
  let r := r.stop
  { r with warehouse := r.warehouse.close }

/-- The race after an event. -/
def step (s : Service) (r : Race) (e : Event) : Race :=
  match e with
  | .arrive => r.arrive
  | .stop => r.stop
  | .close => r.close
  | .wake j | .leave j =>
    match r.callers[j]? with
    | some c => r.onCaller j c e
    | none => r
  | .start i | .enter i | .answer i | .handOver i | .notify i | .command i | .resume i
  | .expire i =>
    match r.attempts[i]? with
    | some a => r.onAttempt s i a e
    | none => r

/-- The race after some events. -/
def run (s : Service) (r : Race) (events : List Event) : Race := events.foldl (step s) r

/-- The events that take an attempt through its login. -/
def loginEvents (i : Nat) : List Event :=
  [.start i, .enter i, .answer i, .handOver i, .notify i, .resume i]

/-- The events that take an attempt to its end when nothing interferes. -/
def straight (s : Service) (i : Nat) : List Event :=
  loginEvents i ++
    (List.replicate (Activation.listing.remaining s) [Event.command i, Event.resume i]).flatten

/-- How each caller left. -/
def results (r : Race) : List (Option (Except Failure Unit)) := r.callers.map Caller.result?

end Race

end AskTable.Warehouse
