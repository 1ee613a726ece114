import AskTable.Proofs.Underway

/-!
# Callers that share an attempt

Callers that share an attempt wait until its activation has ended well. But a caller that finds an
open connection does not wait for anything, and the connection is in use before its activation is
done.

* `Race.Activated`: the attempt that took the connection into use has ended well.
* `Orderly`: what is known of the whole race; `Orderly.step`, `Orderly.after`.
* `Race.Returns`, `Race.overtakes`: a caller is told that it is connected, and it did not wait for
  the newest attempt; `returns_cases`, `exists_returns`.
* `returns_activated_iff`: who is told after the activation, and who may be told before.
-/

namespace AskTable.Warehouse

/-! ## The whole race -/

/-- Every attempt that took the connection in use into use has ended, and its activation well. -/
def Race.Activated (r : Race) : Prop :=
  ∀ c ∈ r.warehouse.current, ∀ a ∈ r.attempts, a.connection? = some c → a.endedWell = true

/-- What is known of a race. No two attempts have the same connection, and when the activation of
the one in use has ended well, the name that it found is noted. -/
structure Orderly (s : Service) (r : Race) : Prop where
  placed : ∀ (i : Nat) (a : Attempt), r.attempts[i]? = some a →
    Placed s r.warehouse (i + 1 = r.attempts.length) a
  apart : ∀ (i j : Nat) (a b : Attempt) (c : Nat), r.attempts[i]? = some a →
    r.attempts[j]? = some b → a.given? = some c → b.given? = some c → i = j
  current : ∀ c, r.warehouse.current = some c → c < r.warehouse.connections.length
  noted : r.Activated → ∀ c, r.warehouse.current = some c → r.warehouse.isOpen c = true →
    Noted r.warehouse c

variable {s : Service} {w v : Warehouse} {r : Race} {i j : Nat} {a b o : Attempt} {newest : Prop}

theorem Orderly.start (h : w.Rested) : Orderly s (.start w) where
  placed := fun i a ha => by simp [Race.start] at ha
  apart := fun i j a b c ha => by simp [Race.start] at ha
  current := h.current
  noted := fun _ => h.noted

/-- An attempt is the one that was set, or stands in another place. -/
theorem getElem?_set_cases {attempts : List Attempt} (ha : attempts[i]? = some a)
    (ho : (attempts.set i b)[j]? = some o) : j = i ∧ o = b ∨ j ≠ i ∧ attempts[j]? = some o := by
  by_cases hj : j = i
  · subst hj
    rw [List.getElem?_set_self (List.getElem?_eq_some_iff.mp ha).1] at ho
    exact Or.inl ⟨rfl, (Option.some.inj ho).symm⟩
  · rw [List.getElem?_set_ne (Ne.symm hj)] at ho
    exact Or.inr ⟨hj, ho⟩

/-- An attempt was there before, or is the one that was added. -/
theorem getElem?_concat_cases {attempts : List Attempt} (ho : (attempts ++ [b])[j]? = some o) :
    attempts[j]? = some o ∨ j = attempts.length ∧ o = b := by
  rw [List.getElem?_append] at ho
  split at ho
  · exact Or.inl ho
  · have hj := (List.getElem?_eq_some_iff.mp ho).1
    rw [List.length_singleton] at hj
    obtain rfl : j = attempts.length := by omega
    rw [Nat.sub_self] at ho
    exact Or.inr ⟨rfl, (Option.some.inj ho).symm⟩

/-- An attempt that keeps its connection, and ends well only if it did before, does nothing to make
up for what others left undone. -/
theorem Race.Activated.of_set {callers : List Caller} (ha : r.attempts[i]? = some a)
    (h : Activated ⟨v, r.attempts.set i b, callers⟩) (hcurrent : v.current = r.warehouse.current)
    (hconnection : b.connection? = a.connection?)
    (hwell : b.endedWell = true → a.endedWell = true) : r.Activated := by
  intro c hc o ho hoc
  have hnow : c ∈ v.current := hcurrent ▸ hc
  have hi : i < r.attempts.length := (List.getElem?_eq_some_iff.mp ha).1
  obtain ⟨j, hj⟩ := List.mem_iff_getElem?.mp ho
  by_cases hji : j = i
  · subst hji
    cases ha.symm.trans hj
    exact hwell (h c hnow b (List.mem_set hi b) (hconnection.trans hoc))
  · have hset : (r.attempts.set i b)[j]? = some o := by
      rw [List.getElem?_set_ne (Ne.symm hji)]
      exact hj
    exact h c hnow o (List.mem_of_getElem? hset) hoc

theorem Orderly.turn (h : Orderly s r) (ha : r.attempts[i]? = some a)
    (ht : Turn s r.warehouse a v b) : Orderly s ⟨v, r.attempts.set i b, r.callers⟩ where
  placed := fun j o ho => by
    rw [List.length_set]
    rcases getElem?_set_cases ha ho with ⟨rfl, rfl⟩ | ⟨hne, ho⟩
    · exact ht.placed (h.placed _ _ ha)
    · exact ht.placed_other (h.placed _ _ ha) (h.placed _ _ ho) fun hi hj => hne (by omega)
  apart := fun j k o p c ho hp hoc hpc => by
    have hnew {k : Nat} {p : Attempt} (hp : r.attempts[k]? = some p) (hpc : p.given? = some c)
        (hb : b.given? = some c) : i = k := by
      rcases ht.given hb with hold | ⟨rfl, -⟩
      · exact h.apart _ _ _ _ _ ha hp hold hpc
      · exact absurd ((h.placed _ _ hp).bound _ hpc) (Nat.lt_irrefl _)
    rcases getElem?_set_cases ha ho with ⟨hj, ho'⟩ | ⟨-, ho'⟩ <;>
      rcases getElem?_set_cases ha hp with ⟨hk, hp'⟩ | ⟨-, hp'⟩
    · exact hj.trans hk.symm
    · exact hj.trans (hnew hp' hpc (ho' ▸ hoc))
    · exact (hk.trans (hnew ho' hoc (hp' ▸ hpc))).symm
    · exact h.apart _ _ _ _ _ ho' hp' hoc hpc
  current := fun c hc => by
    have hplaced := h.placed _ _ ha
    rcases ht.connection hplaced.sound with ⟨-, hcurrent⟩ | ⟨d, hd, hcurrent, -, -⟩
    · exact Nat.lt_of_lt_of_le (h.current c (hcurrent ▸ hc)) ht.length_le
    · cases hcurrent.symm.trans hc
      exact Nat.lt_of_lt_of_le (hplaced.bound _ (Attempt.given?_of_holds hd)) ht.length_le
  noted := fun hactivated c hc hopen => by
    have hi : i < r.attempts.length := (List.getElem?_eq_some_iff.mp ha).1
    rcases ht.noted_cases (h.placed _ _ ha) with
      ⟨hcurrent, hactive, hsent, hshut, hconnection, hwell⟩ | ⟨d, hcurrent, hconnection, hnot⟩ |
        ⟨d, hcurrent, hnoted⟩
    · have hbefore := hactivated.of_set ha hcurrent hconnection hwell
      have hin : r.warehouse.current = some c := hcurrent ▸ hc
      exact (h.noted hbefore c hin (hshut c (h.current c hin) hopen)).mono hactive hsent
    · have hyes := hactivated d hcurrent b (List.mem_set hi b) hconnection
      rw [hnot] at hyes
      cases hyes
    · cases hcurrent.symm.trans hc
      exact hnoted

/-- An attempt that has done nothing yet is the newest. -/
theorem Placed.start (s : Service) (w : Warehouse) (h : newest) : Placed s w newest .start where
  sound := .start
  bound := fun _ hc => nomatch hc
  settled := fun hnot => absurd h hnot
  inUse := fun _ _ hc => nomatch hc
  underway := fun _ _ _ hphase => nomatch hphase

/-- Without a pending attempt the newest one is over. -/
theorem isOver_of_pending?_eq_none (h : r.pending? = none) (ha : r.attempts[i]? = some a)
    (hi : i + 1 = r.attempts.length) : a.isOver = true := by
  have hlast : r.attempts.getLast? = some a := by
    rw [List.getLast?_eq_getElem?, ← hi, Nat.add_sub_cancel]
    exact ha
  unfold Race.pending? at h
  rw [hlast] at h
  simpa using h

theorem exists_of_pending?_eq_some (h : r.pending? = some i) :
    ∃ a, r.attempts[i]? = some a ∧ i + 1 = r.attempts.length := by
  unfold Race.pending? at h
  split at h
  · rename_i a hlast
    split at h
    · cases h
    · cases h
      rw [List.getLast?_eq_getElem?] at hlast
      have hlt := (List.getElem?_eq_some_iff.mp hlast).1
      exact ⟨a, hlast, by omega⟩
  · cases h

/-- Callers do nothing to the warehouse and the attempts. -/
theorem Orderly.callers (h : Orderly s r) (callers : List Caller) :
    Orderly s { r with callers } :=
  ⟨h.placed, h.apart, h.current, h.noted⟩

/-- A new attempt is made when all others are over. -/
theorem Orderly.attempt (h : Orderly s r) (hpending : r.pending? = none) (callers : List Caller) :
    Orderly s { r with attempts := r.attempts ++ [.start], callers } := by
  refine ⟨fun j o ho => ?_, fun j k o p c ho hp hoc hpc => ?_, h.current, fun hactivated => ?_⟩
  · rw [List.length_append, List.length_singleton]
    rcases getElem?_concat_cases ho with ho | ⟨rfl, rfl⟩
    · have hj := (List.getElem?_eq_some_iff.mp ho).1
      have hplaced := h.placed j o ho
      have hover : o.isOver = true := by
        by_cases hlast : j + 1 = r.attempts.length
        · exact isOver_of_pending?_eq_none hpending ho hlast
        · exact hplaced.settled hlast
      exact ⟨hplaced.sound, hplaced.bound, fun _ => hover, fun hnew => by omega,
        fun hnew => by omega⟩
    · exact .start s _ rfl
  · rcases getElem?_concat_cases ho with ho | ⟨-, rfl⟩
    · rcases getElem?_concat_cases hp with hp | ⟨-, rfl⟩
      · exact h.apart _ _ _ _ _ ho hp hoc hpc
      · cases hpc
    · cases hoc
  · exact h.noted fun d hd o ho => hactivated d hd o (List.mem_append_left _ ho)

theorem Orderly.turned (h : Orderly s r) (ha : r.attempts[i]? = some a) {next : Race}
    (ht : r.Turned s i a next) : Orderly s next := by
  rcases ht with rfl | ⟨v, b, hturn, rfl⟩
  · exact h
  · exact h.turn ha hturn

/-- To stop means to tell the newest attempt, if it is not over. -/
theorem stop_cases (r : Race) :
    r.pending? = none ∧ r.stop = r ∨ ∃ i a, r.attempts[i]? = some a ∧ i + 1 = r.attempts.length ∧
      r.stop = ⟨r.warehouse, r.attempts.set i { a with stopped := true }, r.callers⟩ := by
  unfold Race.stop
  rcases hpending : r.pending? with - | i
  · exact Or.inl ⟨rfl, rfl⟩
  · obtain ⟨a, ha, hlast⟩ := exists_of_pending?_eq_some hpending
    refine Or.inr ⟨i, a, ha, hlast, ?_⟩
    dsimp only
    rw [ha]
    rfl

theorem Orderly.stop (h : Orderly s r) : Orderly s r.stop := by
  rcases stop_cases r with ⟨-, hsame⟩ | ⟨i, a, ha, -, hstop⟩
  · rwa [hsame]
  · rw [hstop]
    exact h.turn ha .told

/-- After that no activation goes on. -/
theorem not_activating_of_stop (ha : r.stop.attempts[i]? = some a)
    (hi : i + 1 = r.stop.attempts.length) {reply : Option (Except Failure (List Row))}
    (hphase : a.phase = .activating activation reply) : a.stopped = true := by
  rcases stop_cases r with ⟨hpending, hsame⟩ | ⟨j, b, hb, hj, hstop⟩
  · rw [hsame] at ha hi
    have hover := isOver_of_pending?_eq_none hpending ha hi
    rw [not_isOver_of_activating hphase] at hover
    cases hover
  · rw [hstop, List.length_set] at hi
    obtain rfl : i = j := by omega
    rw [hstop] at ha
    rcases getElem?_set_cases hb ha with ⟨-, rfl⟩ | ⟨hne, -⟩
    · rfl
    · exact absurd rfl hne

theorem close_current (w : Warehouse) : w.close.current = none := by
  unfold Warehouse.close
  split
  · assumption
  · rfl

theorem close_length (w : Warehouse) : w.close.connections.length = w.connections.length := by
  unfold Warehouse.close
  split
  · rfl
  · exact List.length_set

theorem Orderly.close (h : Orderly s r) : Orderly s r.close where
  placed := fun i a ha => by
    have hplaced := h.stop.placed i a ha
    have hnone := close_current r.stop.warehouse
    refine ⟨hplaced.sound, fun c hc => ?_, hplaced.settled, fun _ _ _ => Or.inl hnone,
      fun hnew _ _ hphase hstopped => ?_⟩
    · exact (close_length _).symm ▸ hplaced.bound c hc
    · rw [not_activating_of_stop ha hnew hphase] at hstopped
      cases hstopped
  apart := h.stop.apart
  current := fun c hc => nomatch (close_current _).symm.trans hc
  noted := fun _ c hc => nomatch (close_current _).symm.trans hc

theorem Orderly.arrive (h : Orderly s r) : Orderly s r.arrive := by
  unfold Race.arrive Race.join
  split
  · exact h.callers _
  · split
    · exact h.callers _
    · exact h.attempt ‹_› _

theorem Orderly.onCaller (h : Orderly s r) (j : Nat) (caller : Caller) (e : Event) :
    Orderly s (r.onCaller j caller e) := by
  unfold Race.onCaller
  split
  · split
    · exact h.callers _
    · exact h
  · exact h.callers _
  · exact h

/-- **One event.** -/
theorem Orderly.step (h : Orderly s r) (e : Event) : Orderly s (r.step s e) := by
  cases e with
  | arrive => exact h.arrive
  | stop => exact h.stop
  | close => exact h.close
  | wake j | leave j =>
    unfold Race.step
    dsimp only
    split
    · exact h.onCaller _ _ _
    · exact h
  | start i | enter i | answer i | handOver i | notify i | command i | resume i | expire i =>
    unfold Race.step
    dsimp only
    split
    · rename_i a ha
      exact h.turned ha (onAttempt_turned (h.placed i a ha).sound _)
    · exact h

/-- What may happen next: an event of the race, or the other side shuts a connection. -/
inductive Moment where
  | event (e : Event)
  | drop (connection : Nat)

/-- The race after a moment. -/
def Race.pass (s : Service) (r : Race) : Moment → Race
  | .event e => r.step s e
  | .drop c => r.shut (some c)

/-- The race after some moments. -/
def Race.after (s : Service) (r : Race) (moments : List Moment) : Race := moments.foldl (pass s) r

/-- What every moment keeps holds after all of them. -/
theorem Race.after_invariant {p : Race → Prop} {moments : List Moment} (h : p r)
    (hpass : ∀ m ∈ moments, ∀ r, p r → p (r.pass s m)) : p (r.after s moments) := by
  induction moments generalizing r with
  | nil => exact h
  | cons m moments ih =>
    exact ih (hpass m List.mem_cons_self r h) fun m' hm' => hpass m' (List.mem_cons_of_mem m hm')

theorem Orderly.drop (h : Orderly s r) (c : Nat) : Orderly s (r.shut (some c)) where
  placed := fun i a ha => (h.placed i a ha).beside (.shut _ c)
  apart := h.apart
  current := fun d hd => Nat.lt_of_lt_of_le (h.current d hd) (Beside.shut _ c).length
  noted := fun hactivated d hd hopen =>
    h.noted hactivated d hd ((Beside.shut _ c).isOpen d (h.current d hd) hopen)

/-- **Any number of moments.** -/
theorem Orderly.after (h : Orderly s r) (moments : List Moment) :
    Orderly s (r.after s moments) := by
  refine Race.after_invariant h fun moment _ r hr => ?_
  cases moment with
  | event e => exact hr.step e
  | drop c => exact hr.drop c

/-! ## Callers that are told -/

/-- Was the caller told that it is connected? -/
def Caller.isConnected : Caller → Bool
  | .left (.ok _) => true
  | _ => false

/-- Was this caller told that it is connected? -/
def Race.told (r : Race) (j : Nat) : Bool := r.callers[j]?.any Caller.isConnected

/-- The caller is told at this event. -/
def Race.Returns (s : Service) (r : Race) (e : Event) (j : Nat) : Prop :=
  r.told j = false ∧ (r.step s e).told j = true

/-- A caller is told without having waited for the newest attempt: it finds an open connection, or
it was waiting for an attempt that is not the newest any more. -/
def Race.overtakes (r : Race) : Event → Bool
  | .arrive => r.warehouse.isConnected
  | .wake j =>
    match r.callers[j]? with
    | some (.waiting i) => i + 1 < r.attempts.length && r.attempts[i]?.any Attempt.endedWell
    | _ => false
  | _ => false

/-- One caller more who is not told anything. -/
theorem told_append {callers : List Caller} {caller : Caller} (hc : caller.isConnected = false) :
    (callers ++ [caller])[j]?.any Caller.isConnected = callers[j]?.any Caller.isConnected := by
  rcases Nat.lt_trichotomy j callers.length with hlt | rfl | hgt
  · rw [List.getElem?_append_left hlt]
  · simp [hc]
  · rw [List.getElem?_eq_none (by simp; omega), List.getElem?_eq_none (by omega)]

theorem told_set {callers : List Caller} {caller : Caller} {k : Nat}
    (h : (callers.set k caller)[j]?.any Caller.isConnected = true)
    (hj : callers[j]?.any Caller.isConnected = false) : caller.isConnected = true := by
  by_cases hjk : k = j
  · subst hjk
    rw [List.getElem?_set_self'] at h
    rcases hk : callers[k]? with - | before
    · rw [hk] at h
      cases h
    · rw [hk] at h
      exact h
  · rw [List.getElem?_set_ne hjk, hj] at h
    cases h

theorem stop_callers (r : Race) : r.stop.callers = r.callers := by
  rcases stop_cases r with ⟨-, hsame⟩ | ⟨i, a, -, -, hstop⟩
  · rw [hsame]
  · rw [hstop]

theorem Race.Turned.callers {next : Race} (h : r.Turned s i a next) : next.callers = r.callers := by
  rcases h with rfl | ⟨v, b, -, rfl⟩ <;> rfl

theorem endedWell_iff : a.endedWell = true ↔ a.result? = some (.ok ()) := by
  unfold Attempt.endedWell Attempt.result?
  split
  · simp_all
  · rename_i hother
    refine ⟨fun h => (nomatch h), fun h => ?_⟩
    split at h
    · rename_i hphase
      cases h
      exact absurd hphase (hother ())
    · cases h

/-- A caller is told so only when it wakes up, and its attempt has ended well. -/
theorem onCaller_told {k : Nat} {caller : Caller} {e : Event} (hj : r.told j = false)
    (h : (r.onCaller k caller e).told j = true) :
    (∃ m, e = .wake m) ∧
      ∃ i a, caller = .waiting i ∧ r.attempts[i]? = some a ∧ a.endedWell = true := by
  unfold Race.onCaller at h
  split at h
  · rename_i i
    split at h
    · rename_i result hresult
      obtain ⟨a, ha, hover⟩ := Option.bind_eq_some_iff.mp hresult
      cases result with
      | error failure => cases told_set h hj
      | ok done => exact ⟨⟨_, rfl⟩, i, a, rfl, ha, endedWell_iff.mpr hover⟩
    · rw [hj] at h
      cases h
  · cases told_set h hj
  · rw [hj] at h
    cases h

/-- Whoever is told did not wait for the newest attempt, or its activation has ended well. -/
theorem returns_cases (h : Orderly s r) {e : Event} (hr : r.Returns s e j) :
    r.overtakes e = true ∨ ∃ i a, i + 1 = r.attempts.length ∧ r.attempts[i]? = some a ∧
      a.endedWell = true := by
  obtain ⟨hbefore, hafter⟩ := hr
  have hsame {next : Race} (hnext : next.callers = r.callers) : ¬ next.told j = true := by
    rw [Race.told, hnext]
    exact Bool.eq_false_iff.mp hbefore
  cases e with
  | arrive =>
    change r.arrive.told j = true at hafter
    unfold Race.arrive Race.join at hafter
    split at hafter
    · exact Or.inl ‹_›
    · split at hafter <;>
        exact absurd ((told_append rfl).symm.trans hafter) (Bool.eq_false_iff.mp hbefore)
  | stop => exact absurd hafter (hsame (stop_callers r))
  | close => exact absurd hafter (hsame (stop_callers r))
  | leave k =>
    unfold Race.step at hafter
    dsimp only at hafter
    split at hafter
    · obtain ⟨⟨m, hleave⟩, -⟩ := onCaller_told hbefore hafter
      cases hleave
    · exact absurd hafter (hsame rfl)
  | wake k =>
    unfold Race.step at hafter
    dsimp only at hafter
    split at hafter
    · rename_i caller hcaller
      obtain ⟨-, i, a, rfl, ha, hwell⟩ := onCaller_told hbefore hafter
      have hi := (List.getElem?_eq_some_iff.mp ha).1
      by_cases hlast : i + 1 = r.attempts.length
      · exact Or.inr ⟨i, a, hlast, ha, hwell⟩
      · refine Or.inl ?_
        simp only [Race.overtakes, hcaller, ha, Option.any_some, hwell, Bool.and_true,
          decide_eq_true_eq]
        omega
    · exact absurd hafter (hsame rfl)
  | start i | enter i | answer i | handOver i | notify i | command i | resume i | expire i =>
    unfold Race.step at hafter
    dsimp only at hafter
    split at hafter
    · rename_i a ha
      exact absurd hafter (hsame (onAttempt_turned (h.placed i a ha).sound _).callers)
    · exact absurd hafter (hsame rfl)

theorem step_wake (s : Service) {k : Nat} {result : Except Failure Unit}
    (hk : r.callers[k]? = some (.waiting i)) (ha : r.attempts[i]? = some a)
    (hresult : a.result? = some result) :
    r.step s (.wake k) = r.setCaller k (.left result) := by
  simp only [Race.step, hk, Race.onCaller, ha, Option.bind_some, hresult]

/-- A caller that does not wait for the newest attempt is told. -/
theorem exists_returns (s : Service) {e : Event} (h : r.overtakes e = true) :
    ∃ j, r.Returns s e j := by
  cases e with
  | arrive =>
    refine ⟨r.callers.length, ?_, ?_⟩
    · simp [Race.told]
    · have hopen : r.warehouse.isConnected = true := h
      change r.arrive.told r.callers.length = true
      rw [Race.arrive, if_pos hopen]
      simp [Race.told, Caller.isConnected]
  | wake k =>
    unfold Race.overtakes at h
    dsimp only at h
    split at h
    · rename_i i hwaiting
      rw [Bool.and_eq_true, Option.any_eq_true] at h
      obtain ⟨-, a, ha, hwell⟩ := h
      have hk := (List.getElem?_eq_some_iff.mp hwaiting).1
      refine ⟨k, ?_, ?_⟩
      · simp [Race.told, hwaiting, Caller.isConnected]
      · rw [step_wake s hwaiting ha (endedWell_iff.mp hwell)]
        simp [Race.setCaller, Race.told, hk, Caller.isConnected]
    · cases h
  | _ => cases h

/-- When the newest attempt has ended well, no other one has the connection in use. -/
theorem Orderly.activated (h : Orderly s r) (hi : i + 1 = r.attempts.length)
    (ha : r.attempts[i]? = some a) (hwell : a.endedWell = true) : r.Activated := by
  intro d hd o ho hod
  have hplaced := h.placed i a ha
  obtain ⟨c, hc⟩ := hplaced.sound.holds_of_endedWell hwell
  obtain ⟨j, hj⟩ := List.mem_iff_getElem?.mp ho
  have hgiven := Attempt.given?_of_holds hc
  -- the connection in use is that of the newest attempt
  have hdc : d = c := by
    rcases hplaced.inUse hi c (Attempt.connection?_of_endedWell hwell hc) with hnone | hsome
    · cases hnone.symm.trans hd
    · exact Option.some.inj (hd.symm.trans hsome)
  subst hdc
  cases h.apart i j a o d ha hj hgiven (Attempt.given?_of_connection? hod)
  cases ha.symm.trans hj
  exact hwell

/-- **Who is told that it is connected, and when.** In a race that starts with no connection, or
with one that was activated, everyone that is told at an event is told after the activation of the
connection in use, exactly when nobody overtakes the newest attempt there, or the activation has
ended well by then. After it all commands of the activation were sent, and the name that it found
is the one that is reported. -/
theorem returns_activated_iff (hw : w.Rested) (s : Service) (moments : List Moment) (e : Event) :
    let r := Race.after s (.start w) moments
    ((∀ j, r.Returns s e j → r.Activated) ↔ (r.overtakes e = true → r.Activated)) ∧
      (r.Activated → ∀ c, r.warehouse.current = some c → r.warehouse.isOpen c = true →
        ∃ found, ActivatedOn r.warehouse c found ∧ ∀ name, found = some name →
          ∀ a : Assistant, a.warehouse = r.warehouse →
            (Assistant.reportConnect (.ok ()) a).1 = .ok (.connected name)) := by
  intro r
  have h : Orderly s r := (Orderly.start hw).after moments
  refine ⟨⟨fun hall hover => ?_, fun hover j hj => ?_⟩, fun hactivated c hc hopen => ?_⟩
  · obtain ⟨j, hj⟩ := exists_returns s hover
    exact hall j hj
  · rcases returns_cases h hj with hyes | ⟨i, a, hi, ha, hwell⟩
    · exact hover hyes
    · exact h.activated hi ha hwell
  · obtain ⟨found, hfound, hname⟩ := h.noted hactivated c hc hopen
    refine ⟨found, hfound, fun name hsome a ha => ?_⟩
    rw [Assistant.reportConnect, ha, hname name hsome]

/-- A warehouse that accepts everything. -/
def welcoming : Service := refusing fun _ => false

/-- Two callers share an attempt, and one of them knows already how it ended. -/
def gathered : List Moment :=
  (Event.arrive :: Event.arrive :: Race.straight welcoming 0 ++ [Event.wake 0]).map .event

/-- After the first connection was shut two callers wait for a second one, and it is activated when
the second caller is told. -/
theorem returns_activated_gathered :
    Rested (run (dropped welcoming)) ∧
      let r := Race.after welcoming (.start (run (dropped welcoming))) gathered
      r.Returns welcoming (.wake 1) 1 ∧ r.Activated ∧ r.warehouse.current = some 1 ∧
        (∃ found, ActivatedOn r.warehouse 1 found) ∧
        r.warehouse.active.plainText = "WH" := by
  have hrested : Rested (run (dropped welcoming)) :=
    rested_run (by simp [dropped, welcoming, refusing_reports])
  obtain ⟨hiff, hreported⟩ := returns_activated_iff hrested welcoming gathered (.wake 1)
  have hreturns : (Race.after welcoming (.start (run (dropped welcoming))) gathered).Returns
      welcoming (.wake 1) 1 := ⟨by decide +kernel, by decide +kernel⟩
  have hactivated := hiff.mpr (fun hover => absurd hover (by decide +kernel)) 1 hreturns
  have hcurrent : (Race.after welcoming (.start (run (dropped welcoming)))
      gathered).warehouse.current = some 1 := by decide +kernel
  obtain ⟨found, hfound, -⟩ := hreported hactivated 1 hcurrent (by decide +kernel)
  exact ⟨hrested, hreturns, hactivated, hcurrent, ⟨found, hfound⟩, by decide +kernel⟩

/-- A caller arrives while the first one waits for the activation. -/
def latecoming : List Moment := (Event.arrive :: Race.loginEvents 0).map .event

/-- A warehouse that can be reached again after the first command. -/
def hiccuping : Service :=
  { welcoming with connector := ⟨fun _ => .ok (), fun n _ =>
      if n = 0 then .error (.broken "RuntimeError" "connection reset") else .ok [listedRow]⟩ }

/-- The latecomer is told before any command was sent. So is a caller that asks again after the
first command of the activation has failed. -/
theorem returns_latecoming :
    Rested .start ∧
      (let r := Race.after welcoming (.start .start) latecoming
      r.Returns welcoming .arrive 1 ∧ ¬ r.Activated ∧ r.warehouse.sent.length = 0 ∧
        r.warehouse.active.truthy = false) ∧
      let w := (connect hiccuping .start).2
      (connect hiccuping .start).1.isOk = false ∧ connect hiccuping w = (.ok (), w) ∧
        w.sent.map Delivery.accepted = [false] ∧ w.active.truthy = false := by
  refine ⟨⟨nofun, nofun⟩, ⟨⟨by decide +kernel, by decide +kernel⟩, ?_, by decide +kernel,
    by decide +kernel⟩, by decide +kernel, ?_, by decide +kernel, by decide +kernel⟩
  · unfold Race.Activated
    decide +kernel
  · rw [connect, if_pos (by decide +kernel)]

end AskTable.Warehouse
