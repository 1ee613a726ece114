import AskTable.Proofs.SharedAttempts

/-!
# Dealings with a login

Whatever happens to an attempt, it does one thing with its login at most: it asks for a connection,
is given one, hands it over, gives it up or takes it into use.

* `Attempt.isEarly`: the attempt has not taken a connection into use yet, and may still do so.
* `Event.attempt?`: the attempt that an event names.
* `Closes`: a connection is closed, and nothing else is done to the connections.
* `Dealing`: all that an event can do to an attempt, to its login, and to the connections;
  `onAttempt_dealt`.
* `Passage`: all that may come of a moment of a race; `pass_passage`.
* `Dealing.result?`, `Dealing.early`, `Dealing.logins`: what every dealing keeps.
-/

namespace AskTable.Warehouse

/-- The attempt has not taken a connection into use yet, and may still do so. -/
def Attempt.isEarly (a : Attempt) : Bool :=
  match a.phase with
  | .scheduled | .waiting => true
  | _ => false

/-- The attempt that an event names. -/
def Event.attempt? : Event → Option Nat
  | .start i | .enter i | .answer i | .handOver i | .notify i | .command i | .resume i
  | .expire i => some i
  | _ => none

/-! ## Dealings -/

/-- A connection is closed, if there is one to close, and nothing else is done. -/
structure Closes (w : Warehouse) (closed : Option Nat) (v : Warehouse) : Prop where
  current : v.current = w.current
  logins : v.logins = w.logins
  length : v.connections.length = w.connections.length
  isOpen : ∀ c, v.isOpen c = true ↔ w.isOpen c = true ∧ closed ≠ some c

/-- All that an event can do to an attempt, to its login, and to the connections by its hands. -/
inductive Dealing (s : Service) (w : Warehouse) (a : Attempt) : Event → Warehouse → Attempt → Prop
  | waits {i : Nat} : a.phase = .scheduled → Dealing s w a (.start i) w { a with phase := .waiting }
  /-- It fails before it has a connection. -/
  | fails {e : Event} {failure : Failure} :
      (a.phase = .scheduled ∨ a.phase = .waiting ∧ ∃ result, a.login.worker = .finished result ∧
        ∀ c, result ≠ .ok (some c)) →
      Dealing s w a e w { a with phase := .over (.error failure), stopped := false }
  /-- Its worker asks for a connection. -/
  | asks {i : Nat} : a.phase = .waiting → a.login.worker = .ready →
      Dealing s w a (.enter i) (enterLogin s w)
        { a with login := { a.login with worker := .calling w.logins } }
  /-- Its worker is given none. -/
  | refused {e : Event} {failure : Failure} :
      (a.phase = .waiting ∧ a.login.worker = .ready ∨ ∃ others, a.login.worker = .calling others) →
      Dealing s w a e w { a with login := { a.login with worker := .answered (.error failure) } }
  /-- Its worker is given a new one. -/
  | opens {i others : Nat} : a.login.worker = .calling others →
      Dealing s w a (.answer i) { w with connections := w.connections ++ [true] }
        { a with login := { a.login with worker := .answered (.ok w.connections.length) } }
  /-- Its worker hands over what it was given. -/
  | handsOver {i : Nat} {result : Except Failure Nat} {v : Warehouse} :
      a.login.worker = .answered result → Closes w a.login.handOver.2 v →
      Dealing s w a (.handOver i) v { a with login := a.login.handOver.1 }
  | knows {i : Nat} : Dealing s w a (.notify i) w { a with known := true }
  | givesUp {e : Event} {failure : Failure} {v : Warehouse} : a.phase = .waiting →
      Closes w a.login.held v →
      Dealing s w a e v
        { a with phase := .over (.error failure), login := a.login.abandon.1, stopped := false }
  /-- It takes its connection into use, also when it was told to stop. -/
  | takes {i c : Nat} : a.phase = .waiting → a.known = true →
      a.login.worker = .finished (.ok (some c)) → (a.stopped = true → s.isEndless = false) →
      Dealing s w a (.resume i) (install c w)
        { a with phase := .activating .listing none, stopped := false }
  /-- It goes on with the activation. -/
  | activates {e : Event} {activation : Activation} {reply : Option (Except Failure (List Row))}
      {v : Warehouse} {b : Attempt} : a.phase = .activating activation reply → b.login = a.login →
      b.isEarly = false → v.connections = w.connections → v.current = w.current →
      v.logins = w.logins → Dealing s w a e v b

/-- An attempt deals with its login once at most between two moments of a race. -/
def Race.Dealt (s : Service) (r : Race) (i : Nat) (a : Attempt) (e : Event) (next : Race) : Prop :=
  next = r ∨
    ∃ v b, Dealing s r.warehouse a e v b ∧ next = ⟨v, r.attempts.set i b, r.callers⟩

variable {s : Service} {w v : Warehouse} {a b : Attempt} {r : Race} {i j : Nat} {e : Event}

theorem Dealing.dealt (h : Dealing s r.warehouse a e v b) :
    r.Dealt s i a e ⟨v, r.attempts.set i b, r.callers⟩ :=
  Or.inr ⟨v, b, h, rfl⟩

theorem Closes.shutAny (r : Race) (closed : Option Nat) :
    Closes r.warehouse closed (r.shut closed).warehouse := by
  cases closed with
  | none => exact ⟨rfl, rfl, rfl, fun c => by simp [Race.shut]⟩
  | some d =>
    refine ⟨rfl, rfl, List.length_set, fun c => ?_⟩
    show (r.warehouse.shut d).isOpen c = true ↔ _
    rw [isOpen_shut, Bool.and_eq_true, bne_iff_ne, ne_comm, Ne, Ne, Option.some_inj]

theorem begin_dealt (hphase : a.phase = .scheduled) : r.Dealt s i a (.start j) (r.begin s i a) := by
  have hfails (failure : Failure) : r.Dealt s i a (.start j) (r.finish i a (.error failure)) :=
    Dealing.dealt (.fails (Or.inl hphase))
  unfold Race.begin
  split
  · exact hfails _
  · split
    · exact hfails _
    · exact hfails _
    · exact Dealing.dealt (.waits hphase)

theorem enter_dealt (hphase : a.phase = .waiting) (hworker : a.login.worker = .ready) :
    r.Dealt s i a (.enter j) (r.enter s i a) := by
  unfold Race.enter
  split
  · exact Or.inl rfl
  · split
    · exact Dealing.dealt (.asks hphase hworker)
    · have hanswer : a.login.answer (.error notConfigured) =
          { a.login with worker := .answered (.error notConfigured) } := by
        rw [Login.answer, hworker]
      rw [hanswer]
      exact Dealing.dealt (.refused (Or.inl ⟨hphase, hworker⟩))

theorem answer_dealt {others : Nat} (hworker : a.login.worker = .calling others) :
    r.Dealt s i a (.answer j) (r.answer s i others a) := by
  have hanswer (result : Except Failure Nat) :
      a.login.answer result = { a.login with worker := .answered result } := by
    rw [Login.answer, hworker]
  unfold Race.answer leaveLogin
  rcases s.connector.login others with fault | done
  · dsimp only
    rw [hanswer]
    exact Dealing.dealt (.refused (Or.inr ⟨others, hworker⟩))
  · dsimp only
    rw [hanswer]
    exact Dealing.dealt (.opens hworker)

theorem handOver_dealt {result : Except Failure Nat} (hworker : a.login.worker = .answered result) :
    r.Dealt s i a (.handOver j) ((r.setAttempt i { a with login := a.login.handOver.1 }).shut
      a.login.handOver.2) := by
  rw [shut_setAttempt]
  exact Dealing.dealt (.handsOver hworker (.shutAny r _))

theorem giveUp_dealt (hphase : a.phase = .waiting) (failure : Failure) :
    r.Dealt s i a e (r.giveUp i a failure) := by
  unfold Race.giveUp Race.finish
  dsimp only
  rw [shut_setAttempt]
  exact Dealing.dealt (.givesUp hphase (.shutAny r _))

theorem command_dealt {activation : Activation} (hphase : a.phase = .activating activation none) :
    r.Dealt s i a (.command j) (r.command s i a activation) := by
  unfold Race.command
  split
  · exact Or.inl rfl
  · rename_i command _
    obtain ⟨ds, hsent⟩ := send_frame s command r.warehouse
    have hdeliver : (send s command r.warehouse).2.connections = r.warehouse.connections ∧
        (send s command r.warehouse).2.logins = r.warehouse.logins := by
      rw [hsent]
      exact ⟨rfl, rfl⟩
    exact Dealing.dealt (.activates hphase rfl rfl hdeliver.1 (send_current s _ _) hdeliver.2)

theorem takeOver_dealt (hphase : a.phase = .waiting) (hknown : a.known = true)
    {result : Except Failure (Option Nat)} (hworker : a.login.worker = .finished result)
    (hstopped : a.stopped = true → s.isEndless = false) :
    r.Dealt s i a (.resume j) (r.takeOver i a result) := by
  cases result with
  | error failure =>
    exact Dealing.dealt (.fails (Or.inr ⟨hphase, _, hworker, nofun⟩))
  | ok given =>
    cases given with
    | none => exact Dealing.dealt (.fails (Or.inr ⟨hphase, _, hworker, nofun⟩))
    | some c => exact Dealing.dealt (.takes hphase hknown hworker hstopped)

theorem goOn_dealt {activation : Activation} {last : Option (Except Failure (List Row))}
    (hphase : a.phase = .activating activation last) (reply : Except Failure (List Row)) :
    r.Dealt s i a (.resume j) (r.goOn s i a activation reply) := by
  obtain ⟨found, hnote⟩ := note_frame activation reply r.warehouse
  have hkept : (activation.note reply r.warehouse).connections = r.warehouse.connections ∧
      (activation.note reply r.warehouse).logins = r.warehouse.logins := by
    rw [hnote]
    exact ⟨rfl, rfl⟩
  unfold Race.goOn
  dsimp only
  split
  · exact Dealing.dealt (.activates hphase rfl rfl hkept.1 (note_current _ _ _) hkept.2)
  · exact Dealing.dealt (.activates hphase rfl rfl hkept.1 (note_current _ _ _) hkept.2)

theorem resume_dealt : r.Dealt s i a (.resume j) (r.resume s i a) := by
  unfold Race.resume
  split
  · rename_i hphase hknown hworker
    split
    · exact giveUp_dealt hphase _
    · rename_i hgo
      refine takeOver_dealt hphase hknown hworker fun hstopped => ?_
      rw [hstopped, Bool.true_and, Bool.not_eq_true] at hgo
      exact hgo
  · rename_i hphase _
    split
    · exact giveUp_dealt hphase _
    · exact Or.inl rfl
  · rename_i activation reply hphase
    split
    · exact Dealing.dealt (.activates hphase rfl rfl rfl rfl rfl)
    · split
      · exact goOn_dealt hphase _
      · exact Or.inl rfl
  · exact Or.inl rfl

/-- **Whatever happens to an attempt** is at most one dealing with its login. -/
theorem onAttempt_dealt (s : Service) (r : Race) (i : Nat) (a : Attempt) (e : Event) :
    r.Dealt s i a e (r.onAttempt s i a e) := by
  unfold Race.onAttempt
  split
  · exact begin_dealt ‹_›
  · exact enter_dealt ‹_› ‹_›
  · exact answer_dealt ‹_›
  · exact handOver_dealt ‹_›
  · exact Dealing.dealt .knows
  · exact command_dealt ‹_›
  · exact resume_dealt
  · split
    · exact Or.inl rfl
    · exact giveUp_dealt ‹_› _
  · exact Or.inl rfl

/-! ## Moments -/

/-- All that may come of a moment. -/
inductive Passage (s : Service) (r : Race) : Moment → Race → Prop
  | idle (m : Moment) : Passage s r m r
  /-- A caller finds an open connection, or joins the pending attempt. -/
  | joins (caller : Caller) :
      Passage s r (.event .arrive) { r with callers := r.callers ++ [caller] }
  /-- A caller begins a new attempt. -/
  | begins : r.warehouse.isConnected = false → r.pending? = none →
      Passage s r (.event .arrive) { r with
        attempts := r.attempts ++ [.start]
        callers := r.callers ++ [.waiting r.attempts.length] }
  | deals {e : Event} {i : Nat} {a b : Attempt} {v : Warehouse} : e.attempt? = some i →
      r.attempts[i]? = some a → Dealing s r.warehouse a e v b →
      Passage s r (.event e) ⟨v, r.attempts.set i b, r.callers⟩
  /-- A caller is told the result of its attempt. -/
  | tells {i j : Nat} {result : Except Failure Unit} : r.callers[j]? = some (.waiting i) →
      r.attempts[i]?.bind Attempt.result? = some result →
      Passage s r (.event (.wake j)) (r.setCaller j (.left result))
  /-- A caller goes away. -/
  | leaves {i j : Nat} : r.callers[j]? = some (.waiting i) →
      Passage s r (.event (.leave j)) (r.setCaller j (.left (.error .cancelled)))
  | stops : Passage s r (.event .stop) r.stop
  | closes : Passage s r (.event .close) r.close
  | drops (c : Nat) : Passage s r (.drop c) (r.shut (some c))

theorem arrive_passage (s : Service) (r : Race) : Passage s r (.event .arrive) r.arrive := by
  unfold Race.arrive Race.join
  split
  · exact .joins _
  · rename_i hconnected
    split
    · exact .joins _
    · exact .begins (Bool.not_eq_true _ ▸ hconnected) ‹_›

/-- An event that names an attempt is one of its dealings, or nothing happens. -/
theorem onPlace_passage (s : Service) (r : Race) (hi : e.attempt? = some i)
    (hstep : r.step s e =
      match r.attempts[i]? with | some a => r.onAttempt s i a e | none => r) :
    Passage s r (.event e) (r.step s e) := by
  rw [hstep]
  split
  · rename_i a ha
    rcases onAttempt_dealt s r i a e with hidle | ⟨v, b, hdealing, hnext⟩
    · rw [hidle]
      exact .idle _
    · rw [hnext]
      exact .deals hi ha hdealing
  · exact .idle _

/-- **Whatever comes of a moment** is one of these. -/
theorem pass_passage (s : Service) (r : Race) (m : Moment) : Passage s r m (r.pass s m) := by
  cases m with
  | drop c => exact .drops c
  | event e =>
    show Passage s r (.event e) (r.step s e)
    cases e with
    | arrive => exact arrive_passage s r
    | stop => exact .stops
    | close => exact .closes
    | wake j =>
      unfold Race.step
      dsimp only
      split
      · rename_i caller hj
        unfold Race.onCaller
        cases caller with
        | left result => exact .idle _
        | waiting i =>
          dsimp only
          split
          · exact .tells hj ‹_›
          · exact .idle _
      · exact .idle _
    | leave j =>
      unfold Race.step
      dsimp only
      split
      · rename_i caller hj
        cases caller with
        | left result => exact .idle _
        | waiting i => exact .leaves hj
      · exact .idle _
    | start i | enter i | answer i | handOver i | notify i | command i | resume i | expire i =>
      exact onPlace_passage s r rfl rfl

/-- To stop means to tell an attempt so, and nothing else. -/
theorem exists_getElem?_stop (ha : r.attempts[i]? = some a) :
    ∃ stopped, r.stop.attempts[i]? = some { a with stopped } := by
  rcases stop_cases r with ⟨-, hsame⟩ | ⟨j, b, hb, -, hstop⟩
  · exact ⟨a.stopped, by rw [hsame, ha]⟩
  · rw [hstop]
    by_cases hij : i = j
    · subst hij
      cases ha.symm.trans hb
      exact ⟨true, List.getElem?_set_self (List.getElem?_eq_some_iff.mp ha).1⟩
    · refine ⟨a.stopped, ?_⟩
      rw [List.getElem?_set_ne (Ne.symm hij), ha]

theorem stop_warehouse (r : Race) : r.stop.warehouse = r.warehouse := by
  rcases stop_cases r with ⟨-, hsame⟩ | ⟨i, a, -, -, hstop⟩
  · rw [hsame]
  · rw [hstop]

theorem stop_length (r : Race) : r.stop.attempts.length = r.attempts.length := by
  rcases stop_cases r with ⟨-, hsame⟩ | ⟨i, a, -, -, hstop⟩
  · rw [hsame]
  · rw [hstop]
    exact List.length_set

/-! ## What every dealing keeps -/

/-- The result of an attempt stays. -/
theorem Dealing.result? (h : Dealing s w a e v b) {result : Except Failure Unit}
    (ha : a.result? = some result) : b.result? = some result := by
  have hover : a.phase = .over result := by
    unfold Attempt.result? at ha
    split at ha
    · cases ha
      assumption
    · cases ha
  cases h with
  | asks | refused | opens | handsOver | knows => exact ha
  | fails hphase => rcases hphase with hphase | ⟨hphase, -⟩ <;> cases hover.symm.trans hphase
  | waits hphase | givesUp hphase | takes hphase | activates hphase =>
    cases hover.symm.trans hphase

/-- An attempt that may still take a connection into use might do so before, and it still knows
that it was told to stop. -/
theorem Dealing.early (h : Dealing s w a e v b) (hb : b.isEarly = true) :
    a.isEarly = true ∧ b.stopped = a.stopped := by
  cases h with
  | asks | refused | opens | handsOver | knows => exact ⟨hb, rfl⟩
  | waits hphase =>
    refine ⟨?_, rfl⟩
    unfold Attempt.isEarly
    rw [hphase]
  | fails | givesUp | takes => cases hb
  | activates _ _ hlate => cases hlate.symm.trans hb

/-- The connector is asked at most once: by a worker that did not ask before, and has asked then. -/
theorem Dealing.logins (h : Dealing s w a e v b) :
    v.logins = w.logins ∧ (a.login.worker ≠ .ready → b.login.worker ≠ .ready) ∨
      v.logins = w.logins + 1 ∧ (∃ i, e = .enter i) ∧ a.login.worker = .ready ∧
        b.login.worker ≠ .ready := by
  cases h with
  | asks _ hworker => exact Or.inr ⟨rfl, ⟨_, rfl⟩, hworker, nofun⟩
  | refused | opens => exact Or.inl ⟨rfl, fun _ => nofun⟩
  | handsOver hworker hcloses =>
    refine Or.inl ⟨hcloses.logins, fun _ hready => ?_⟩
    unfold Login.handOver at hready
    rw [hworker] at hready
    split at hready
    · cases hready
    · split at hready <;> cases hready
    · cases hworker.symm.trans hready
  | givesUp _ hcloses => exact Or.inl ⟨hcloses.logins, id⟩
  | activates _ hlogin _ _ _ hlogins => exact Or.inl ⟨hlogins, fun hnot => by rwa [hlogin]⟩
  | waits | fails | knows | takes => exact Or.inl ⟨rfl, id⟩

end AskTable.Warehouse
