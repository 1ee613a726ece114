import AskTable.Proofs.Traffic
import AskTable.Warehouse.Race

/-!
# One connection at a time

A connection is made only in place of one that is shut, and it comes into use at once. A login may
also run out of time; then its worker goes on with it, and closes what it is given in the end.

* `Sole`: no connection is open but the one in use; `Sole.openCount_le_one`.
* `Sole.attempts`: an attempt keeps this, and so do all other steps.
* `Attempts.eq_of_isConnected`, `Attempts.replaced`: an attempt does nothing while a connection is
  open, and a connection that takes the place of another is new.
* `answerLate`: a login is answered after it was given up; `run_expired`: how a race comes to this.
* `Runs`: the runs of an assistant, with logins that take too long.
* `Runs.sole_connection`: what holds of the connections at every moment of a run.
-/

namespace AskTable.Warehouse

/-! ## The connection in use -/

/-- No connection is open but the one in use. -/
def Sole (w : Warehouse) : Prop := ∀ c, w.isOpen c = true → w.current = some c

theorem count_true_le_one {flags : List Bool}
    (h : ∀ i j : Nat, flags[i]? = some true → flags[j]? = some true → i = j) :
    flags.count true ≤ 1 := by
  induction flags with
  | nil => simp
  | cons flag flags ih =>
    cases flag with
    | false =>
      have hcount := ih fun i j hi hj => Nat.succ.inj (h (i + 1) (j + 1) hi hj)
      simpa using hcount
    | true =>
      -- the first place holds `true`, and so no other does
      have hnone : true ∉ flags := fun hmem => by
        obtain ⟨i, hi⟩ := List.mem_iff_getElem?.mp hmem
        exact absurd (h 0 (i + 1) rfl hi) (by omega)
      simp [List.count_eq_zero_of_not_mem hnone]

theorem isOpen_iff {w : Warehouse} {c : Nat} :
    w.isOpen c = true ↔ w.connections[c]? = some true := by
  rw [isOpen]
  rcases w.connections[c]? with - | flag <;> simp

theorem Sole.openCount_le_one {w : Warehouse} (h : w.Sole) : w.openCount ≤ 1 :=
  count_true_le_one fun i j hi hj =>
    Option.some.inj ((h i (isOpen_iff.mpr hi)).symm.trans (h j (isOpen_iff.mpr hj)))

theorem isOpen_shut (w : Warehouse) (c d : Nat) :
    (w.shut c).isOpen d = (w.isOpen d && d != c) := by
  rw [isOpen, isOpen, shut, List.getElem?_set]
  by_cases h : c = d
  · subst h
    by_cases hc : c < w.connections.length
    · simp [hc]
    · simp [hc]
  · simp [h, Ne.symm h]

theorem isOpen_add {w v : Warehouse} {flag : Bool} (h : v.connections = w.connections ++ [flag])
    (c : Nat) :
    v.isOpen c = if c = w.connections.length then flag else w.isOpen c := by
  rw [isOpen, isOpen, h]
  rcases Nat.lt_trichotomy c w.connections.length with hlt | rfl | hgt
  · rw [List.getElem?_append_left hlt, if_neg (by omega)]
  · simp
  · rw [if_neg (by omega), List.getElem?_eq_none (by simp; omega),
      List.getElem?_eq_none (by omega)]

theorem not_isOpen_of_length_le {w : Warehouse} {c : Nat} (h : w.connections.length ≤ c) :
    w.isOpen c = false := by
  rw [isOpen, List.getElem?_eq_none h, Option.getD_none]

theorem Sole.start : Sole .start := by
  intro c hc
  simp [isOpen, Warehouse.start] at hc

/-- When the connection in use is shut, none is open. -/
theorem Sole.isOpen_eq_false {w : Warehouse} (h : w.Sole) (hc : w.isConnected = false) (c : Nat) :
    w.isOpen c = false := by
  refine Bool.eq_false_iff.mpr fun ho => ?_
  rw [isConnected, h c ho, Option.any_some, ho] at hc
  cases hc

variable {s : Service} {w v : Warehouse}

theorem Sole.deliver (h : w.Sole) (ds : List Delivery) : (w.deliver ds).Sole := h

theorem Sole.shut (h : w.Sole) (c : Nat) : (w.shut c).Sole := by
  intro d hd
  rw [isOpen_shut, Bool.and_eq_true] at hd
  exact h d hd.1

/-- Closing leaves no connection open. -/
theorem Sole.not_isOpen_close (h : w.Sole) (c : Nat) : w.close.isOpen c = false := by
  rw [Warehouse.close]
  rcases hc : w.current with - | d
  · exact h.isOpen_eq_false (by simp [isConnected, hc]) c
  · have hshut := isOpen_shut w d c
    refine Bool.eq_false_iff.mpr fun ho => ?_
    have hopen : (w.isOpen c && c != d) = true := hshut.symm.trans ho
    rw [Bool.and_eq_true, bne_iff_ne] at hopen
    exact hopen.2 (Option.some.inj ((h c hopen.1).symm.trans hc))

theorem Sole.close (h : w.Sole) : w.close.Sole := by
  intro c hc
  rw [h.not_isOpen_close c] at hc
  cases hc

/-- A new connection is made where none is open, and it comes into use. -/
theorem Sole.attempts (h : w.Sole) (ha : Attempts s w v) : v.Sole := by
  cases ha with
  | spared => exact h
  | failed => exact h
  | made hc _ _ =>
    intro c hopen
    rw [isOpen_add (w := w) rfl, h.isOpen_eq_false hc] at hopen
    split at hopen
    · rename_i hlast
      exact congrArg some hlast.symm
    · cases hopen

/-- While the connection in use is open, there is no attempt. -/
theorem Attempts.eq_of_isConnected (h : Attempts s w v) (hc : w.isConnected = true) : v = w := by
  cases h with
  | spared => rfl
  | failed hnot => simp [hc] at hnot
  | made hnot => simp [hc] at hnot

/-- A connection that takes the place of another is new and open, and comes from a login. -/
theorem Attempts.replaced (h : Attempts s w v) (hc : v.current ≠ w.current) :
    w.isConnected = false ∧ v.current = some w.connections.length ∧
      v.isOpen w.connections.length = true ∧ v.logins = w.logins + 1 := by
  cases h with
  | spared => exact absurd rfl hc
  | failed => exact absurd rfl hc
  | made hnot =>
    refine ⟨hnot, rfl, ?_, rfl⟩
    rw [isOpen_add (w := w) rfl, if_pos rfl]

/-! ## Logins that take too long -/

/-- The connector answers a login that was given up, after so many others. The worker closes the
connection that it gets. -/
def answerLate (s : Service) (others : Nat) (w : Warehouse) : Warehouse :=
  let (result, w) := leaveLogin s others w
  let (_, closed) := (Login.answer result ⟨.calling others, true, none⟩).handOver
  match closed with
  | some c => w.shut c
  | none => w

/-- The events of a caller whose login takes too long. -/
def expiry : List Event := [.arrive, .start 0, .enter 0, .expire 0, .wake 0]

/-- A caller whose login takes too long is told so. The login is begun, and nothing else changes
until its worker is answered late. -/
theorem run_expired (h : w.isConnected = false) (hr : Ready s) (hlimit : s.isEndless = false) :
    (Race.run s (.start w) expiry).results =
        [some (.error (timedOut s.config.loginTimeout))] ∧
      (Race.run s (.start w) expiry).warehouse = enterLogin s w ∧
      (Race.run s (.start w) (expiry ++ [.answer 0, .handOver 0])).warehouse =
        answerLate s w.logins (enterLogin s w) := by
  obtain ⟨hconfigured, p, hp, hne⟩ := hr
  have hbegun : Race.run s (.start w) [.arrive, .start 0] =
      ⟨w, [{ Attempt.start with phase := .waiting }], [.waiting 0]⟩ := by
    simp [Race.run, Race.step, Race.arrive, Race.start, h, Race.join, Race.pending?, Race.onAttempt,
      Attempt.start, Race.begin, hp, Race.setAttempt]
  have hexpired : Race.run s (.start w) expiry =
      ⟨enterLogin s w, [⟨.over (.error (timedOut s.config.loginTimeout)),
        ⟨.calling w.logins, true, none⟩, false, false⟩],
        [.left (.error (timedOut s.config.loginTimeout))]⟩ := by
    have hsplit : expiry = [.arrive, .start 0] ++ [.enter 0, .expire 0, .wake 0] := rfl
    rw [hsplit, Race.run, List.foldl_append, ← Race.run, ← Race.run, hbegun]
    simp [Race.run, Race.step, Race.onAttempt, Race.onCaller, Attempt.start, Login.start,
      Race.enter, hconfigured, hlimit, Race.setAttempt, Race.setCaller, Race.giveUp, Login.abandon,
      Race.finish, Race.shut, Attempt.result?]
  refine ⟨by rw [hexpired]; rfl, by rw [hexpired], ?_⟩
  rw [Race.run, List.foldl_append, ← Race.run, ← Race.run, hexpired]
  rcases hl : s.connector.login w.logins with fault | done
  · simp [Race.run, Race.step, Race.onAttempt, Race.answer, leaveLogin, hl, Race.setAttempt,
      Login.answer, Login.handOver, Race.shut, answerLate]
  · simp [Race.run, Race.step, Race.onAttempt, Race.answer, leaveLogin, hl, Race.setAttempt,
      Login.answer, Login.handOver, Race.shut, answerLate]

theorem answerLate_current (s : Service) (others : Nat) (w : Warehouse) :
    (answerLate s others w).current = w.current := by
  rw [answerLate, leaveLogin]
  rcases s.connector.login others with fault | done <;> rfl

theorem isOpen_answerLate (s : Service) (others : Nat) (w : Warehouse) (c : Nat) :
    (answerLate s others w).isOpen c = w.isOpen c := by
  rw [answerLate, leaveLogin]
  rcases s.connector.login others with fault | done
  · rfl
  · change (shut { w with connections := w.connections ++ [true] } w.connections.length).isOpen c =
      w.isOpen c
    rw [isOpen_shut, isOpen_add (w := w) rfl]
    by_cases hc : c = w.connections.length
    · rw [not_isOpen_of_length_le (Nat.le_of_eq hc.symm)]
      simp [hc]
    · simp [hc]

theorem Sole.answerLate (h : w.Sole) (s : Service) (others : Nat) :
    (answerLate s others w).Sole := by
  intro c hc
  rw [isOpen_answerLate] at hc
  rw [answerLate_current]
  exact h c hc

/-- Without open connections none is counted. -/
theorem openCount_eq_zero (h : ∀ c, w.isOpen c = false) : w.openCount = 0 := by
  rw [openCount, List.count_eq_zero]
  intro hmem
  obtain ⟨c, hc⟩ := List.mem_iff_getElem?.mp hmem
  rw [← isOpen_iff, h c] at hc
  cases hc

end AskTable.Warehouse

namespace AskTable.Assistant

open AskTable.File AskTable.Warehouse

/-! ## Runs -/

/-- The assistants that a run leads to, one call after another, each with a setup of its own. With
them come the logins that were given up and not yet answered; each is told by the number of those
that were begun before it. -/
inductive Runs : Assistant → List Nat → Prop
  | start (disk : Disk) : Runs (start disk) []
  | step {s : Setup} {a : Assistant} {late : List Nat} (e : Action) : Runs a late →
      Runs (a.perform s e) late
  /-- A call needs a login, and this takes too long. -/
  | expired {s : Setup} {a : Assistant} {late : List Nat} : Runs a late →
      a.warehouse.isConnected = false → Ready s.service →
      Runs (a.withWarehouse (enterLogin s.service a.warehouse)) (a.warehouse.logins :: late)
  /-- A login is answered that was given up. -/
  | answered {s : Setup} {a : Assistant} {others : Nat} {before after : List Nat} :
      Runs a (before ++ others :: after) →
      Runs (a.withWarehouse (answerLate s.service others a.warehouse)) (before ++ after)

theorem perform_sole (s : Setup) (a : Assistant) (e : Action) (h : a.warehouse.Sole) :
    (a.perform s e).warehouse.Sole := by
  rcases perform_warehouse s a e with ⟨-, hw⟩ | ⟨c, -, hw⟩ | ⟨v, ds, hw, ha, -⟩
  · rw [hw]
    exact h.close
  · rw [hw]
    exact h.shut c
  · rw [hw]
    exact (h.attempts ha).deliver ds

theorem Runs.sole {a : Assistant} {late : List Nat} (h : Runs a late) : a.warehouse.Sole := by
  induction h with
  | start disk => exact .start
  | step e _ ih => exact perform_sole _ _ e ih
  | expired _ _ _ ih => exact ih
  | answered _ ih => exact ih.answerLate _ _

/-- Only closing lets go of an open connection, and while there is one no action logs in. -/
theorem perform_of_isConnected (s : Setup) {a : Assistant} {e : Action} (he : e ≠ .close)
    (h : a.warehouse.isConnected = true) :
    (a.perform s e).warehouse.current = a.warehouse.current ∧
      (a.perform s e).warehouse.logins = a.warehouse.logins := by
  rcases perform_warehouse s a e with ⟨hclose, -⟩ | ⟨c, -, hw⟩ | ⟨v, ds, hw, ha, -⟩
  · exact absurd hclose he
  · rw [hw]
    exact ⟨rfl, rfl⟩
  · rw [hw, deliver_current, deliver_logins, ha.eq_of_isConnected h]
    exact ⟨rfl, rfl⟩

/-- A connection that comes into use is new and open, and comes from a login. -/
theorem perform_replaces (s : Setup) {a : Assistant} {e : Action} {c : Nat}
    (hc : (a.perform s e).warehouse.current = some c) (hne : a.warehouse.current ≠ some c) :
    a.warehouse.isConnected = false ∧ c = a.warehouse.connections.length ∧
      (a.perform s e).warehouse.isOpen c = true ∧
      (a.perform s e).warehouse.logins = a.warehouse.logins + 1 := by
  rcases perform_warehouse s a e with ⟨-, hw⟩ | ⟨d, -, hw⟩ | ⟨v, ds, hw, ha, -⟩
  · rw [hw, Warehouse.close] at hc
    split at hc
    · exact absurd hc hne
    · cases hc
  · rw [hw] at hc
    exact absurd hc hne
  · rw [hw, deliver_current] at hc
    obtain ⟨hnot, hnew, hopen, hlogins⟩ := ha.replaced fun h => hne (h ▸ hc)
    obtain rfl := Option.some.inj (hc.symm.trans hnew)
    rw [hw]
    exact ⟨hnot, rfl, hopen, hlogins⟩

/-- Connecting does nothing to a warehouse with an open connection. -/
theorem connectRemote_of_isConnected (s : Setup) {a : Assistant}
    (h : a.warehouse.isConnected = true) :
    (a.connectRemote s).1 = .ok (.connected a.warehouse.active) ∧
      (a.connectRemote s).2.warehouse = a.warehouse := by
  rw [connectRemote, Warehouse.connect, if_pos h]
  exact ⟨rfl, rfl⟩

/-- **One connection at a time**, at every moment of a run, whatever the warehouse does: no
connection is open but the one in use. Only closing lets go of a connection that is open, and while
there is one nothing logs in. A connection that comes into use comes from a login of its own, when
none is open. Connecting leaves a warehouse with an open connection as it is, and closing leaves
none. The moments lie between the steps of a run, and a late answer is one step with the closing of
the session that it brings: in a race this session is open until its worker closes it. -/
theorem Runs.sole_connection {a : Assistant} {late : List Nat} (h : Runs a late) (s : Setup) :
    (a.warehouse.openCount ≤ 1 ∧ ∀ c, a.warehouse.isOpen c = true → a.warehouse.current = some c) ∧
    (∀ e, e ≠ .close → a.warehouse.isConnected = true →
      (a.perform s e).warehouse.current = a.warehouse.current ∧
      (a.perform s e).warehouse.logins = a.warehouse.logins) ∧
    (∀ e c, (a.perform s e).warehouse.current = some c → a.warehouse.current ≠ some c →
      a.warehouse.openCount = 0 ∧ c = a.warehouse.connections.length ∧
      (a.perform s e).warehouse.isOpen c = true ∧
      (a.perform s e).warehouse.logins = a.warehouse.logins + 1) ∧
    (a.warehouse.isConnected = true →
      (a.connectRemote s).1 = .ok (.connected a.warehouse.active) ∧
      (a.connectRemote s).2.warehouse = a.warehouse) ∧
    a.close.warehouse.openCount = 0 ∧ a.close.warehouse.wasConnected = false := by
  have hsole := h.sole
  refine ⟨⟨hsole.openCount_le_one, hsole⟩, fun e => perform_of_isConnected s,
    fun e c hc hne => ?_, connectRemote_of_isConnected s,
    openCount_eq_zero hsole.not_isOpen_close, ?_⟩
  · obtain ⟨hnot, hnew, hopen, hlogins⟩ := perform_replaces s hc hne
    exact ⟨openCount_eq_zero (hsole.isOpen_eq_false hnot), hnew, hopen, hlogins⟩
  · simp only [Assistant.close, Warehouse.close, wasConnected]
    split
    · rename_i hnone
      rw [hnone, Option.isSome_none]
    · rfl

/-- The connection was shut, and the login for another one takes too long. -/
def outwaited : Assistant :=
  shutOut.withWarehouse (enterLogin sampleSetup.service shutOut.warehouse)

/-- A question connects again, and then the login is answered that took too long. -/
def reconnected : Assistant :=
  let a := outwaited.perform sampleSetup (.submit (.text "all"))
  a.withWarehouse (answerLate sampleSetup.service 1 a.warehouse)

/-- Of three connections the second is in use. It is kept when the warehouse is connected to again,
and closed in the end. -/
theorem sole_connection_reconnected :
    Runs reconnected [] ∧ reconnected.warehouse.connections = [false, true, false] ∧
      reconnected.warehouse.logins = 3 ∧ reconnected.warehouse.openCount ≤ 1 ∧
      reconnected.warehouse.current = some 1 ∧
      (reconnected.connectRemote sampleSetup).2.warehouse = reconnected.warehouse ∧
      (outwaited.perform sampleSetup (.submit (.text "all"))).warehouse.logins =
        outwaited.warehouse.logins + 1 ∧
      outwaited.warehouse.openCount = 0 ∧ reconnected.close.warehouse.openCount = 0 := by
  have hshut : Runs shutOut [] := .step _ (.step _ (.start _))
  have hready : Ready sampleSetup.service := ⟨by decide +kernel, .some, rfl, by decide⟩
  have hbegun : shutOut.warehouse.logins = 1 := by decide +kernel
  have hlate : Runs outwaited [1] := hbegun ▸ .expired hshut (by decide +kernel) hready
  have hruns : Runs reconnected [] :=
    @Runs.answered sampleSetup _ 1 [] [] (.step (.submit (.text "all")) hlate)
  have hopen : reconnected.warehouse.isOpen 1 = true := by decide +kernel
  obtain ⟨-, -, hreplaced, -⟩ := Runs.sole_connection hlate sampleSetup
  obtain ⟨hnone, -, -, hlogins⟩ := hreplaced (.submit (.text "all")) 1 (by decide +kernel)
    (by decide +kernel)
  obtain ⟨⟨hone, hcurrent⟩, -, -, hconnect, hclose, -⟩ := Runs.sole_connection hruns sampleSetup
  exact ⟨hruns, by decide +kernel, by decide +kernel, hone, hcurrent 1 hopen,
    (hconnect (by decide +kernel)).2, hlogins, hnone, hclose⟩

end AskTable.Assistant
