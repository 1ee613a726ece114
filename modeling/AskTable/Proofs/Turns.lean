import AskTable.Proofs.Breakage
import AskTable.Proofs.SoleConnection

/-!
# Turns of an attempt

Many things may happen in a race, but they do little to an attempt. Most of them concern its login
alone. Then it takes the connection into use, and from there on it sends the commands of the
activation and goes on with their replies, until it is over.

* `Worker.given?`, `Attempt.connection?`: the connection that a worker was given, and the one that
  an attempt took into use.
* `Attempt.Sound`: what is known of the login in each phase.
* `Beside`: nothing is done on the connection in use.
* `Turn`: all that one event can do to an attempt; `onAttempt_turned`.
* `Turn.sound`, `Turn.given`, `Turn.isOver`, `Turn.connection`: what every turn keeps.
-/

namespace AskTable.Warehouse

/-! ## Connections of attempts -/

/-- The connection that a worker was given. -/
def Worker.given? : Worker → Option Nat
  | .answered (.ok c) => some c
  | .finished (.ok given) => given
  | _ => none

theorem Worker.not_given {worker : Worker} (h : worker.given? = none) {P : Nat → Prop} :
    ∀ c, worker.given? = some c → P c := by
  intro c hc
  rw [h] at hc
  cases hc

namespace Attempt

/-- The connection that the worker of an attempt was given. -/
def given? (a : Attempt) : Option Nat := a.login.worker.given?

/-- The connection that an attempt took into use. -/
def connection? (a : Attempt) : Option Nat :=
  match a.phase with
  | .activating .. => a.given?
  | .over _ => if a.login.abandoned then none else a.given?
  | _ => none

/-- The attempt is over, and its activation has ended well. -/
def endedWell (a : Attempt) : Bool :=
  match a.phase with
  | .over (.ok _) => true
  | _ => false

/-- A connection was handed over and not given up. -/
def Holds (a : Attempt) (c : Nat) : Prop :=
  a.login.worker = .finished (.ok (some c)) ∧ a.login.abandoned = false

/-- What is known of the login in each phase. -/
inductive Sound (a : Attempt) : Prop
  | scheduled : a.phase = .scheduled → a.login = .start → Sound a
  | waiting : a.phase = .waiting → a.login.abandoned = false → Sound a
  | activating {activation : Activation} {reply : Option (Except Failure (List Row))} {c : Nat} :
      a.phase = .activating activation reply → a.Holds c → Sound a
  | succeeded {c : Nat} : a.phase = .over (.ok ()) → a.Holds c → Sound a
  /-- A worker that is still on its way was given up. -/
  | failed {failure : Failure} : a.phase = .over (.error failure) →
      (a.login.abandoned = true ∨ a.login.worker = .ready ∨
        ∃ result, a.login.worker = .finished result) → Sound a

variable {a : Attempt} {c : Nat}

theorem Sound.start : Attempt.start.Sound := .scheduled rfl rfl

/-- Nothing else of an attempt matters. -/
theorem Sound.congr {b : Attempt} (h : a.Sound) (hphase : b.phase = a.phase)
    (hlogin : b.login = a.login) : b.Sound := by
  have hholds {c : Nat} (hc : a.Holds c) : b.Holds c := by rwa [Holds, hlogin]
  cases h with
  | scheduled hother hstart => exact .scheduled (hphase.trans hother) (hlogin.trans hstart)
  | waiting hother hkept => exact .waiting (hphase.trans hother) (by rw [hlogin, hkept])
  | activating hother hc => exact .activating (hphase.trans hother) (hholds hc)
  | succeeded hother hc => exact .succeeded (hphase.trans hother) (hholds hc)
  | failed hother hgone => exact .failed (hphase.trans hother) (by rwa [hlogin])

theorem given?_of_holds (h : a.Holds c) : a.given? = some c := by
  rw [given?, h.1]
  rfl

/-- The attempt took a connection into use that its worker was given. -/
theorem given?_of_connection? (h : a.connection? = some c) : a.given? = some c := by
  unfold connection? at h
  split at h
  · exact h
  · split at h
    · cases h
    · exact h
  · cases h

theorem connection?_of_activating {activation : Activation}
    {reply : Option (Except Failure (List Row))} (h : a.phase = .activating activation reply) :
    a.connection? = a.given? := by
  rw [connection?, h]

/-- An attempt that is activating holds its connection. -/
theorem Sound.holds (h : a.Sound) {activation : Activation}
    {reply : Option (Except Failure (List Row))} (hphase : a.phase = .activating activation reply) :
    ∃ c, a.Holds c := by
  cases h with
  | activating _ hc => exact ⟨_, hc⟩
  | scheduled hother | waiting hother | succeeded hother | failed hother =>
    cases hphase.symm.trans hother

/-- So does one whose activation has ended well. -/
theorem Sound.holds_of_endedWell (h : a.Sound) (hwell : a.endedWell = true) : ∃ c, a.Holds c := by
  cases h with
  | succeeded _ hc => exact ⟨_, hc⟩
  | scheduled hother | waiting hother | activating hother | failed hother =>
    rw [endedWell, hother] at hwell
    cases hwell

theorem connection?_of_endedWell (hwell : a.endedWell = true) (h : a.Holds c) :
    a.connection? = some c := by
  unfold endedWell at hwell
  split at hwell
  · rename_i hphase
    rw [connection?, hphase, ← given?_of_holds h]
    simp [h.2]
  · cases hwell

/-- A worker that is on its way works for an attempt that waits, or was given up. -/
theorem Sound.onItsWay (h : a.Sound) (hready : a.login.worker ≠ .ready)
    (hfinished : ∀ result, a.login.worker ≠ .finished result) :
    a.phase = .waiting ∧ a.login.abandoned = false ∨
      (∃ failure, a.phase = .over (.error failure)) ∧ a.login.abandoned = true := by
  cases h with
  | scheduled _ hlogin => exact absurd (by rw [hlogin]; rfl) hready
  | waiting hphase hkept => exact Or.inl ⟨hphase, hkept⟩
  | activating _ hc => exact absurd hc.1 (hfinished _)
  | succeeded _ hc => exact absurd hc.1 (hfinished _)
  | failed hphase hlogin =>
    rcases hlogin with hgone | hworker | ⟨result, hworker⟩
    · exact Or.inr ⟨⟨_, hphase⟩, hgone⟩
    · exact absurd hworker hready
    · exact absurd hworker (hfinished _)

end Attempt

/-! ## Beside the connection in use -/

/-- Nothing is done on the connection in use, but that it may be shut. -/
structure Beside (w v : Warehouse) : Prop where
  current : v.current = w.current
  active : v.active = w.active
  sent : v.sent = w.sent
  length : w.connections.length ≤ v.connections.length
  isOpen : ∀ c < w.connections.length, v.isOpen c = true → w.isOpen c = true

theorem Beside.refl (w : Warehouse) : Beside w w := ⟨rfl, rfl, rfl, Nat.le_refl _, fun _ _ h => h⟩

theorem Beside.shut (w : Warehouse) (c : Nat) : Beside w (w.shut c) where
  current := rfl
  active := rfl
  sent := rfl
  length := Nat.le_of_eq List.length_set.symm
  isOpen := fun d _ hd => by
    rw [isOpen_shut, Bool.and_eq_true] at hd
    exact hd.1

theorem Beside.enterLogin (s : Service) (w : Warehouse) : Beside w (enterLogin s w) :=
  ⟨rfl, rfl, rfl, Nat.le_refl _, fun _ _ h => h⟩

theorem Beside.add (w : Warehouse) :
    Beside w { w with connections := w.connections ++ [true] } where
  current := rfl
  active := rfl
  sent := rfl
  length := by simp
  isOpen := fun c hc ho => by
    rw [isOpen_add (w := w) rfl, if_neg (Nat.ne_of_lt hc)] at ho
    exact ho

/-! ## Turns -/

/-- All that one event can do to an attempt, and to the warehouse by its hands. -/
inductive Turn (s : Service) (w : Warehouse) (a : Attempt) : Warehouse → Attempt → Prop
  /-- Only the login goes on. A connection that the worker is given is new. -/
  | login {v : Warehouse} {login : Login} {known : Bool} : Beside w v →
      Attempt.Sound { a with login, known } →
      Attempt.connection? { a with login, known } = a.connection? →
      (∀ c, login.worker.given? = some c → a.given? = some c ∨
        c = w.connections.length ∧ c < v.connections.length) →
      Turn s w a v { a with login, known }
  /-- It begins to wait, or fails before it has a connection. -/
  | waits {v : Warehouse} {b : Attempt} : Beside w v → a.connection? = none →
      a.endedWell = false → a.isOver = false → b.Sound → b.connection? = none →
      b.given? = a.given? → b.phase = .waiting ∨ (∃ failure, b.phase = .over (.error failure)) →
      Turn s w a v b
  /-- It takes its connection into use. -/
  | takes {c : Nat} : a.phase = .waiting → a.Holds c →
      Turn s w a (install c w) { a with phase := .activating .listing none, stopped := false }
  /-- It sends the next command. -/
  | sends {activation : Activation} {command : Command} : a.phase = .activating activation none →
      activation.command? = some command →
      Turn s w a (send s command w).2
        { a with phase := .activating activation (some (send s command w).1) }
  /-- It goes on with the reply to the last command. -/
  | goesOn {activation : Activation} {reply : Except Failure (List Row)} :
      a.phase = .activating activation (some reply) → a.stopped = false →
      (∀ result, activation.after s reply ≠ .finished result) →
      Turn s w a (activation.note reply w)
        { a with phase := .activating (activation.after s reply) none }
  /-- The reply was the last one. -/
  | ends {activation : Activation} {reply : Except Failure (List Row)}
      {result : Except Failure Cell} : a.phase = .activating activation (some reply) →
      a.stopped = false → activation.after s reply = .finished result →
      Turn s w a (activation.note reply w) { a with phase := .over (done result), stopped := false }
  /-- It is told to stop. -/
  | told : Turn s w a w { a with stopped := true }
  /-- It notices that it was told to stop. -/
  | stops {activation : Activation} {reply : Option (Except Failure (List Row))}
      {failure : Failure} : a.phase = .activating activation reply → a.stopped = true →
      Turn s w a w { a with phase := .over (.error failure), stopped := false }

/-- At most one turn of an attempt lies between two moments of a race. -/
def Race.Turned (s : Service) (r : Race) (i : Nat) (a : Attempt) (next : Race) : Prop :=
  next = r ∨ ∃ v b, Turn s r.warehouse a v b ∧ next = ⟨v, r.attempts.set i b, r.callers⟩

variable {s : Service} {w v : Warehouse} {a b : Attempt} {r : Race} {i : Nat}

theorem Turn.turned (h : Turn s r.warehouse a v b) :
    r.Turned s i a ⟨v, r.attempts.set i b, r.callers⟩ :=
  Or.inr ⟨v, b, h, rfl⟩

/-- An attempt fails before it has a connection in use. What its worker is given, if anything, is
closed. -/
theorem Turn.fails {login : Login} {failure : Failure}
    (hphase : a.phase = .scheduled ∨ a.phase = .waiting) (hbeside : Beside w v)
    (hworker : login.worker = a.login.worker)
    (hgone : login.abandoned = true ∨ a.given? = none ∧
      (a.login.worker = .ready ∨ ∃ result, a.login.worker = .finished result)) :
    Turn s w a v { a with phase := .over (.error failure), login, stopped := false } := by
  have hgiven : Attempt.given? { a with phase := .over (.error failure), login, stopped := false } =
      a.given? := congrArg Worker.given? hworker
  have hbefore : a.connection? = none ∧ a.endedWell = false ∧ a.isOver = false := by
    rcases hphase with hphase | hphase <;>
      simp [Attempt.connection?, Attempt.endedWell, Attempt.isOver, Attempt.result?, hphase]
  refine .waits hbeside hbefore.1 hbefore.2.1 hbefore.2.2 (.failed rfl ?_) ?_ hgiven
    (Or.inr ⟨failure, rfl⟩)
  · exact hgone.imp_right fun h => by simpa only [hworker] using h.2
  · simp only [Attempt.connection?, hgiven]
    rcases hgone with habandoned | ⟨hnone, -⟩
    · rw [if_pos habandoned]
    · rw [hnone, ite_self]

theorem begin_turned (h : a.Sound) (hphase : a.phase = .scheduled) :
    r.Turned s i a (r.begin s i a) := by
  have hlogin : a.login = .start := by
    cases h with
    | scheduled _ hlogin => exact hlogin
    | waiting hother | activating hother | succeeded hother | failed hother =>
      cases hphase.symm.trans hother
  have hfails (failure : Failure) : r.Turned s i a (r.finish i a (.error failure)) := by
    refine Turn.turned (.fails (Or.inl hphase) (.refl _) rfl (Or.inr ?_))
    rw [Attempt.given?, hlogin]
    exact ⟨rfl, Or.inl rfl⟩
  unfold Race.begin
  split
  · exact hfails _
  · split
    · exact hfails _
    · exact hfails _
    · refine Turn.turned (b := { a with phase := .waiting })
        (.waits (.refl _) ?_ ?_ ?_ (.waiting rfl ?_) rfl rfl (Or.inl rfl))
      · rw [Attempt.connection?, hphase]
      · rw [Attempt.endedWell, hphase]
      · rw [Attempt.isOver, Attempt.result?, hphase]
        rfl
      · rw [hlogin]
        rfl

/-- Only the login of a waiting attempt goes on. -/
theorem Turn.login_of_waiting {login : Login} (hphase : a.phase = .waiting)
    (hkept : login.abandoned = false) (hbeside : Beside w v)
    (hgiven : ∀ c, login.worker.given? = some c → a.given? = some c ∨
      c = w.connections.length ∧ c < v.connections.length) :
    Turn s w a v { a with login } := by
  refine Turn.login hbeside (.waiting hphase hkept) ?_ hgiven
  rw [Attempt.connection?, Attempt.connection?, hphase]

/-- Only the login of an attempt that was given up goes on. -/
theorem Turn.login_of_abandoned {login : Login} {failure : Failure}
    (hphase : a.phase = .over (.error failure)) (hbefore : a.login.abandoned = true)
    (hgone : login.abandoned = true) (hbeside : Beside w v)
    (hgiven : ∀ c, login.worker.given? = some c → a.given? = some c ∨
      c = w.connections.length ∧ c < v.connections.length) :
    Turn s w a v { a with login } := by
  refine Turn.login hbeside (.failed hphase (Or.inl hgone)) ?_ hgiven
  simp [Attempt.connection?, hphase, hbefore, hgone]

/-- The login of a worker that is on its way goes on. -/
theorem Turn.login_of_onItsWay {login : Login} (h : a.Sound) (hready : a.login.worker ≠ .ready)
    (hfinished : ∀ result, a.login.worker ≠ .finished result)
    (hsame : login.abandoned = a.login.abandoned) (hbeside : Beside w v)
    (hgiven : ∀ c, login.worker.given? = some c → a.given? = some c ∨
      c = w.connections.length ∧ c < v.connections.length) :
    Turn s w a v { a with login } := by
  rcases h.onItsWay hready hfinished with ⟨hphase, hkept⟩ | ⟨⟨failure, hphase⟩, hgone⟩
  · exact .login_of_waiting hphase (hsame.trans hkept) hbeside hgiven
  · exact .login_of_abandoned hphase hgone (hsame.trans hgone) hbeside hgiven

theorem enter_turned (hphase : a.phase = .waiting) (hworker : a.login.worker = .ready) :
    r.Turned s i a (r.enter s i a) := by
  unfold Race.enter
  split
  · exact Or.inl rfl
  · rename_i hkept
    rw [Bool.not_eq_true] at hkept
    split
    · exact Turn.turned
        (b := { a with login := { a.login with worker := .calling r.warehouse.logins } })
        (.login_of_waiting hphase hkept (.enterLogin s _) (Worker.not_given rfl))
    · have hanswer : a.login.answer (.error notConfigured) =
          { a.login with worker := .answered (.error notConfigured) } := by
        rw [Login.answer, hworker]
      rw [hanswer]
      exact Turn.turned (.login_of_waiting hphase hkept (.refl _) (Worker.not_given rfl))

theorem answer_turned (h : a.Sound) {others : Nat} (hworker : a.login.worker = .calling others) :
    r.Turned s i a (r.answer s i others a) := by
  have hready : a.login.worker ≠ .ready := by simp [hworker]
  have hfinished : ∀ result, a.login.worker ≠ .finished result := by simp [hworker]
  have hanswer (result : Except Failure Nat) :
      a.login.answer result = { a.login with worker := .answered result } := by
    rw [Login.answer, hworker]
  unfold Race.answer leaveLogin
  rcases s.connector.login others with fault | done
  · dsimp only
    rw [hanswer]
    exact Turn.turned
      (.login_of_onItsWay h hready hfinished rfl (.refl _) (Worker.not_given rfl))
  · dsimp only
    rw [hanswer]
    refine Turn.turned (v := { r.warehouse with connections := r.warehouse.connections ++ [true] })
      (.login_of_onItsWay h hready hfinished rfl (.add _) ?_)
    rintro c ⟨rfl⟩
    exact Or.inr ⟨rfl, by simp⟩

theorem Beside.shutAny (r : Race) (closed : Option Nat) :
    Beside r.warehouse (r.shut closed).warehouse := by
  cases closed with
  | none => exact .refl _
  | some c => exact .shut _ c

theorem shut_setAttempt (r : Race) (i : Nat) (b : Attempt) (closed : Option Nat) :
    (r.setAttempt i b).shut closed =
      ⟨(r.shut closed).warehouse, r.attempts.set i b, r.callers⟩ := by
  cases closed <;> rfl

theorem handOver_turned (h : a.Sound) {result : Except Failure Nat}
    (hworker : a.login.worker = .answered result) :
    r.Turned s i a ((r.setAttempt i { a with login := a.login.handOver.1 }).shut
      a.login.handOver.2) := by
  have hready : a.login.worker ≠ .ready := by simp [hworker]
  have hfinished : ∀ result, a.login.worker ≠ .finished result := by simp [hworker]
  have hover : (a.login.handOver.1).abandoned = a.login.abandoned ∧
      ∀ c, (a.login.handOver.1).worker.given? = some c → a.given? = some c := by
    rw [Attempt.given?, Login.handOver, hworker]
    rcases result with failure | c
    · exact ⟨rfl, Worker.not_given rfl⟩
    · dsimp only
      split
      · exact ⟨rfl, Worker.not_given rfl⟩
      · exact ⟨rfl, fun d hd => hd⟩
  rw [shut_setAttempt]
  exact Turn.turned (.login_of_onItsWay h hready hfinished hover.1 (.shutAny r _)
    fun c hc => Or.inl (hover.2 c hc))

/-- The login is given up, whatever its worker has got. -/
theorem giveUp_turned (hphase : a.phase = .waiting) (failure : Failure) :
    r.Turned s i a (r.giveUp i a failure) := by
  unfold Race.giveUp Race.finish Login.abandon
  dsimp only
  rw [shut_setAttempt]
  exact Turn.turned (.fails (Or.inr hphase) (.shutAny r _) rfl (Or.inl rfl))

/-- The attempt is told that its worker has finished. -/
theorem notify_turned (h : a.Sound) :
    r.Turned s i a (r.setAttempt i { a with known := true }) := by
  exact Turn.turned (.login (.refl _) (h.congr rfl rfl) rfl fun c hc => Or.inl hc)

theorem command_turned {activation : Activation} (hphase : a.phase = .activating activation none) :
    r.Turned s i a (r.command s i a activation) := by
  unfold Race.command
  split
  · exact Or.inl rfl
  · rename_i command hcommand
    exact Turn.turned (.sends hphase hcommand)

/-- An attempt goes on with what its worker handed over. -/
theorem takeOver_turned (h : a.Sound) (hphase : a.phase = .waiting)
    {result : Except Failure (Option Nat)} (hworker : a.login.worker = .finished result) :
    r.Turned s i a (r.takeOver i a result) := by
  have hkept : a.login.abandoned = false := by
    cases h with
    | waiting _ hkept => exact hkept
    | scheduled hother | activating hother | succeeded hother | failed hother =>
      cases hphase.symm.trans hother
  rcases result with failure | given
  · refine Turn.turned (.fails (Or.inr hphase) (.refl _) rfl (Or.inr ⟨?_, Or.inr ⟨_, hworker⟩⟩))
    rw [Attempt.given?, hworker]
    rfl
  · cases given with
    | none =>
      refine Turn.turned (.fails (Or.inr hphase) (.refl _) rfl (Or.inr ⟨?_, Or.inr ⟨_, hworker⟩⟩))
      rw [Attempt.given?, hworker]
      rfl
    | some c => exact Turn.turned (.takes hphase ⟨hworker, hkept⟩)

/-- An attempt goes on with the reply to a command. -/
theorem goOn_turned {activation : Activation} {reply : Except Failure (List Row)}
    (hphase : a.phase = .activating activation (some reply)) (hstopped : a.stopped = false) :
    r.Turned s i a (r.goOn s i a activation reply) := by
  unfold Race.goOn
  dsimp only
  split
  · rename_i result hresult
    exact Turn.turned (.ends hphase hstopped hresult)
  · rename_i hnext
    exact Turn.turned (.goesOn hphase hstopped hnext)

theorem resume_turned (h : a.Sound) : r.Turned s i a (r.resume s i a) := by
  unfold Race.resume
  split
  · rename_i hphase _ hworker
    split
    · exact giveUp_turned hphase _
    · exact takeOver_turned h hphase hworker
  · rename_i hphase _
    split
    · exact giveUp_turned hphase _
    · exact Or.inl rfl
  · rename_i activation reply hphase
    split
    · rename_i hstopped
      exact Turn.turned (.stops hphase hstopped)
    · rename_i hstopped
      split
      · exact goOn_turned hphase (Bool.not_eq_true _ ▸ hstopped)
      · exact Or.inl rfl
  · exact Or.inl rfl

/-- **Whatever happens to an attempt** is at most one turn of it. -/
theorem onAttempt_turned (h : a.Sound) (e : Event) : r.Turned s i a (r.onAttempt s i a e) := by
  unfold Race.onAttempt
  split
  · exact begin_turned h ‹_›
  · exact enter_turned ‹_› ‹_›
  · exact answer_turned h ‹_›
  · exact handOver_turned h ‹_›
  · exact notify_turned h
  · exact command_turned ‹_›
  · exact resume_turned h
  · split
    · exact Or.inl rfl
    · exact giveUp_turned ‹_› _
  · exact Or.inl rfl

/-! ## What every turn keeps -/

theorem Turn.sound (h : Turn s w a v b) (ha : a.Sound) : b.Sound := by
  cases h with
  | login _ hsound => exact hsound
  | waits _ _ _ _ hsound => exact hsound
  | takes _ hc => exact .activating rfl hc
  | sends hphase =>
    obtain ⟨c, hc⟩ := ha.holds hphase
    exact .activating rfl hc
  | goesOn hphase =>
    obtain ⟨c, hc⟩ := ha.holds hphase
    exact .activating rfl hc
  | @ends _ _ result hphase =>
    obtain ⟨c, hc⟩ := ha.holds hphase
    cases result with
    | ok name => exact .succeeded rfl hc
    | error failure => exact .failed rfl (Or.inr (Or.inr ⟨_, hc.1⟩))
  | told => exact ha.congr rfl rfl
  | stops hphase =>
    obtain ⟨c, hc⟩ := ha.holds hphase
    exact .failed rfl (Or.inr (Or.inr ⟨_, hc.1⟩))

/-- A connection that a worker is given in a turn is new. -/
theorem Turn.given (h : Turn s w a v b) {c : Nat} (hc : b.given? = some c) :
    a.given? = some c ∨ c = w.connections.length ∧ c < v.connections.length := by
  cases h with
  | login _ _ _ hgiven => exact hgiven c hc
  | waits _ _ _ _ _ _ hgiven => exact Or.inl (hgiven ▸ hc)
  | takes | sends | goesOn | ends | told | stops => exact Or.inl hc

/-- Only the login of an attempt that is over goes on. -/
theorem Turn.isOver (h : Turn s w a v b) (ha : a.isOver = true) : Beside w v ∧ b.isOver = true := by
  unfold Attempt.isOver Attempt.result? at ha
  cases h with
  | login hbeside => exact ⟨hbeside, ha⟩
  | told => exact ⟨.refl w, ha⟩
  | waits _ _ _ hover =>
    unfold Attempt.isOver Attempt.result? at hover
    rw [ha] at hover
    cases hover
  | takes hphase | sends hphase | goesOn hphase | ends hphase | stops hphase =>
    rw [hphase] at ha
    cases ha

/-- An attempt whose activation is not done yet keeps its connection when it ends. -/
theorem Attempt.Holds.connection?_over {c : Nat} (hc : a.Holds c) {result : Except Failure Unit}
    {stopped : Bool} :
    Attempt.connection? { a with phase := .over result, stopped } = some c := by
  simp only [Attempt.connection?, hc.2]
  exact Attempt.given?_of_holds hc

/-- The connection in use stays, and an attempt keeps the one that it took into use, unless it
takes one into use now. -/
theorem Turn.connection (h : Turn s w a v b) (ha : a.Sound) :
    b.connection? = a.connection? ∧ v.current = w.current ∨
      ∃ c, a.Holds c ∧ v.current = some c ∧ b.connection? = some c ∧ b.endedWell = false := by
  cases h with
  | login hbeside _ hsame => exact Or.inl ⟨hsame, hbeside.current⟩
  | waits hbeside hnone _ _ _ hnone' => exact Or.inl ⟨hnone'.trans hnone.symm, hbeside.current⟩
  | takes _ hc => exact Or.inr ⟨_, hc, rfl, Attempt.given?_of_holds hc, rfl⟩
  | sends hphase =>
    exact Or.inl ⟨(Attempt.connection?_of_activating hphase).symm, send_current s _ w⟩
  | goesOn hphase =>
    exact Or.inl ⟨(Attempt.connection?_of_activating hphase).symm, note_current _ _ w⟩
  | ends hphase =>
    obtain ⟨c, hc⟩ := ha.holds hphase
    rw [Attempt.connection?_of_activating hphase, Attempt.given?_of_holds hc]
    exact Or.inl ⟨hc.connection?_over, note_current _ _ w⟩
  | told => exact Or.inl ⟨rfl, rfl⟩
  | stops hphase =>
    obtain ⟨c, hc⟩ := ha.holds hphase
    rw [Attempt.connection?_of_activating hphase, Attempt.given?_of_holds hc]
    exact Or.inl ⟨hc.connection?_over, rfl⟩

/-- No turn takes connections back. -/
theorem Turn.length_le (h : Turn s w a v b) : w.connections.length ≤ v.connections.length := by
  cases h with
  | login hbeside => exact hbeside.length
  | waits hbeside => exact hbeside.length
  | takes | told | stops => exact Nat.le_refl _
  | @sends _ command =>
    obtain ⟨ds, hds⟩ := send_frame s command w
    rw [hds]
    exact Nat.le_refl _
  | @goesOn activation reply | @ends activation reply =>
    obtain ⟨found, hfound⟩ := note_frame activation reply w
    rw [hfound]
    exact Nat.le_refl _

end AskTable.Warehouse
