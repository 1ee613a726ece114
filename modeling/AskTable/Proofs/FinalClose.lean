import AskTable.Proofs.SingleFlight

/-!
# Closing for good

Whoever closes the warehouse closes the connection in use, and tells the pending attempt to stop. A
connection that the attempt is still to get is closed later, by its worker or by the attempt, unless
the attempt does not notice any more that it was told to stop.

* `Attempt.Keeps`: an attempt has to close a connection or to take it into use.
* `Attempt.Tidy`: what is known of a login that keeps something.
* `Dealing.opened`, `Dealing.kept`, `Dealing.current`: a dealing loses sight of no connection.
* `Custody`: every open connection is in use or kept; `Custody.pass`, `Custody.after`.
* `Race.ignoresStop`, `Race.reopens`: an attempt takes its connection into use although it was told
  to stop.
* `close_final_iff`: closing is final exactly when no attempt does so.
-/

namespace AskTable.Warehouse

variable {s : Service} {w v : Warehouse} {r next : Race} {i j : Nat} {a b o : Attempt} {e : Event}
  {m : Moment}

/-! ## Connections that are kept -/

/-- The worker has asked for a connection, and has not handed over what it got. -/
def Worker.isBusy : Worker → Bool
  | .calling _ | .answered _ => true
  | _ => false

namespace Attempt

/-- The attempt, or its worker, has got a connection that is not in use yet. -/
def Keeps (a : Attempt) (c : Nat) : Prop :=
  a.login.worker = .answered (.ok c) ∨ a.phase = .waiting ∧ a.login.held = some c

/-- What is held was handed over, and an attempt waits for its worker or has given it up. -/
structure Tidy (a : Attempt) : Prop where
  held : ∀ c, a.login.held = some c → a.login.worker = .finished (.ok (some c))
  waiting : a.login.abandoned = false → a.login.worker.isBusy = true → a.phase = .waiting

theorem Tidy.of_unheld (hnone : a.login.held = none)
    (hwaiting : a.login.abandoned = false → a.login.worker.isBusy = true → a.phase = .waiting) :
    a.Tidy := by
  refine ⟨fun c hc => ?_, hwaiting⟩
  rw [hnone] at hc
  cases hc

theorem Tidy.start : Attempt.start.Tidy := .of_unheld rfl fun _ hbusy => nomatch hbusy

/-- Nothing else of an attempt matters. -/
theorem Tidy.congr (h : a.Tidy) (hphase : b.phase = a.phase) (hlogin : b.login = a.login) :
    b.Tidy := by
  refine ⟨fun c hc => ?_, fun hkept hbusy => ?_⟩
  · rw [hlogin] at hc ⊢
    exact h.held c hc
  · rw [hlogin] at hkept hbusy
    exact hphase.trans (h.waiting hkept hbusy)

theorem Keeps.congr {c : Nat} (h : a.Keeps c) (hphase : b.phase = a.phase)
    (hlogin : b.login = a.login) : b.Keeps c := by
  unfold Keeps
  rw [hphase, hlogin]
  exact h

/-- Nothing is held before the worker has finished. -/
theorem Tidy.held_eq_none (h : a.Tidy) (hworker : ∀ given, a.login.worker ≠ .finished given) :
    a.login.held = none := by
  rcases hheld : a.login.held with - | c
  · rfl
  · exact absurd (h.held c hheld) (hworker _)

end Attempt

/-- The worker of a login that is handed over has finished. If it was given a connection, this is
closed when the login was given up, and held otherwise. -/
theorem handOver_cases {l : Login} {result : Except Failure Nat}
    (h : l.worker = .answered result) :
    (∃ failure, result = .error failure ∧ l.handOver = (⟨.finished (.error failure), l.abandoned,
        l.held⟩, none)) ∨
      ∃ c, result = .ok c ∧
        (l.abandoned = true ∧ l.handOver = (⟨.finished (.ok none), true, l.held⟩, some c) ∨
        l.abandoned = false ∧ l.handOver = (⟨.finished (.ok (some c)), false, some c⟩, none)) := by
  unfold Login.handOver
  rw [h]
  rcases result with failure | c
  · exact Or.inl ⟨failure, rfl, rfl⟩
  · refine Or.inr ⟨c, rfl, ?_⟩
    rcases hgone : l.abandoned with - | -
    · exact Or.inr ⟨rfl, rfl⟩
    · exact Or.inl ⟨rfl, rfl⟩

/-- What is known of a login is known after a dealing. -/
theorem Dealing.tidy (h : Dealing s w a e v b) (ha : a.Tidy) : b.Tidy := by
  cases h with
  | knows => exact ha.congr rfl rfl
  | waits hphase =>
    refine ⟨ha.held, fun hkept hbusy => rfl⟩
  | fails hphase =>
    refine ⟨ha.held, fun hkept hbusy => ?_⟩
    have hwaiting := ha.waiting hkept hbusy
    rcases hphase with hphase | ⟨-, result, hworker, -⟩
    · cases hphase.symm.trans hwaiting
    · have hbusy : a.login.worker.isBusy = true := hbusy
      rw [hworker] at hbusy
      cases hbusy
  | asks hphase hworker =>
    have hnone := ha.held_eq_none (by simp [hworker])
    exact .of_unheld hnone fun _ _ => hphase
  | refused hworker =>
    have hnone : a.login.held = none := by
      rcases hworker with ⟨-, hworker⟩ | ⟨others, hworker⟩ <;>
        exact ha.held_eq_none (by simp [hworker])
    refine .of_unheld hnone fun hkept _ => ?_
    rcases hworker with ⟨hphase, -⟩ | ⟨others, hworker⟩
    · exact hphase
    · exact ha.waiting hkept (by rw [hworker]; rfl)
  | opens hworker =>
    have hnone := ha.held_eq_none (by simp [hworker])
    exact .of_unheld hnone fun hkept _ => ha.waiting hkept (by rw [hworker]; rfl)
  | handsOver hworker _ =>
    have hnone := ha.held_eq_none (by simp [hworker])
    rcases handOver_cases hworker with ⟨failure, -, hlogin⟩ | ⟨c, -, ⟨-, hlogin⟩ | ⟨-, hlogin⟩⟩ <;>
      rw [hlogin]
    · exact .of_unheld hnone fun _ hbusy => nomatch hbusy
    · exact .of_unheld hnone fun _ hbusy => nomatch hbusy
    · refine ⟨fun d hd => ?_, fun _ hbusy => nomatch hbusy⟩
      cases hd
      rfl
  | givesUp => exact .of_unheld rfl fun hkept => nomatch hkept
  | takes _ _ hworker =>
    refine ⟨ha.held, fun _ hbusy => ?_⟩
    have hbusy : a.login.worker.isBusy = true := hbusy
    rw [hworker] at hbusy
    cases hbusy
  | activates hphase hlogin =>
    refine ⟨fun c hc => ?_, fun hkept hbusy => ?_⟩
    · rw [hlogin] at hc ⊢
      exact ha.held c hc
    · rw [hlogin] at hkept hbusy
      cases hphase.symm.trans (ha.waiting hkept hbusy)

/-- A connection that is open after a dealing was open before, or it is new and kept. -/
theorem Dealing.opened (h : Dealing s w a e v b) {c : Nat} (hc : v.isOpen c = true) :
    w.isOpen c = true ∨ c = w.connections.length ∧ b.Keeps c := by
  cases h with
  | opens =>
    rw [isOpen_add (w := w) rfl] at hc
    split at hc
    · rename_i hnew
      subst hnew
      exact Or.inr ⟨rfl, Or.inl rfl⟩
    · exact Or.inl hc
  | handsOver _ hcloses | givesUp _ hcloses => exact Or.inl ((hcloses.isOpen c).mp hc).1
  | activates _ _ _ hconnections =>
    unfold isOpen at hc
    rw [hconnections] at hc
    exact Or.inl hc
  | waits | fails | asks | refused | knows | takes => exact Or.inl hc

theorem Dealing.length_le (h : Dealing s w a e v b) :
    w.connections.length ≤ v.connections.length := by
  cases h with
  | opens =>
    show w.connections.length ≤ (w.connections ++ [true]).length
    rw [List.length_append]
    exact Nat.le_add_right _ _
  | handsOver _ hcloses | givesUp _ hcloses => exact Nat.le_of_eq hcloses.length.symm
  | activates _ _ _ hconnections => exact Nat.le_of_eq (congrArg List.length hconnections).symm
  | waits | fails | asks | refused | knows | takes => exact Nat.le_refl _

/-- A connection that is kept is kept after a dealing, or it is closed or taken into use. -/
theorem Dealing.kept (h : Dealing s w a e v b) (ha : a.Tidy) {c : Nat} (hc : a.Keeps c) :
    b.Keeps c ∨ v.isOpen c = false ∨ v.current = some c := by
  have hunanswered (hnot : a.login.worker ≠ .answered (.ok c))
      (hbefore : ∀ given, a.login.worker ≠ .finished given) : False := by
    rcases hc with hworker | ⟨-, hheld⟩
    · exact hnot hworker
    · exact hbefore _ (ha.held c hheld)
  cases h with
  | knows => exact Or.inl (hc.congr rfl rfl)
  | waits hphase =>
    rcases hc with hworker | ⟨hwaiting, -⟩
    · exact Or.inl (Or.inl hworker)
    · cases hphase.symm.trans hwaiting
  | fails hphase =>
    rcases hc with hworker | ⟨hwaiting, hheld⟩
    · exact Or.inl (Or.inl hworker)
    · rcases hphase with hphase | ⟨-, result, hworker, hnone⟩
      · cases hphase.symm.trans hwaiting
      · have hgiven := ha.held c hheld
        rw [hworker] at hgiven
        cases hgiven
        exact absurd rfl (hnone c)
  | asks _ hworker => exact (hunanswered (by simp [hworker]) (by simp [hworker])).elim
  | refused hworker =>
    rcases hworker with ⟨-, hworker⟩ | ⟨others, hworker⟩ <;>
      exact (hunanswered (by simp [hworker]) (by simp [hworker])).elim
  | opens hworker => exact (hunanswered (by simp [hworker]) (by simp [hworker])).elim
  | @handsOver i result v hworker hcloses =>
    rcases hc with hgiven | ⟨-, hheld⟩
    · cases hworker.symm.trans hgiven
      rcases handOver_cases hworker with ⟨failure, hresult, -⟩ | ⟨d, hresult, hcases⟩
      · cases hresult
      · cases hresult
        rcases hcases with ⟨-, hlogin⟩ | ⟨hkept, hlogin⟩
        · -- the worker closes it
          rw [hlogin] at hcloses
          refine Or.inr (Or.inl (Bool.eq_false_iff.mpr fun hopen => ?_))
          exact ((hcloses.isOpen c).mp hopen).2 rfl
        · have hwaiting := ha.waiting hkept (by rw [hworker]; rfl)
          refine Or.inl (Or.inr ⟨hwaiting, ?_⟩)
          rw [hlogin]
    · cases hworker.symm.trans (ha.held c hheld)
  | givesUp _ hcloses =>
    rcases hc with hworker | ⟨-, hheld⟩
    · exact Or.inl (Or.inl hworker)
    · refine Or.inr (Or.inl (Bool.eq_false_iff.mpr fun hopen => ?_))
      exact ((hcloses.isOpen c).mp hopen).2 hheld
  | takes _ _ hworker =>
    rcases hc with hgiven | ⟨-, hheld⟩
    · cases hworker.symm.trans hgiven
    · cases hworker.symm.trans (ha.held c hheld)
      exact Or.inr (Or.inr rfl)
  | activates hphase hlogin =>
    rcases hc with hworker | ⟨hwaiting, -⟩
    · exact Or.inl (Or.inl (by rw [hlogin, hworker]))
    · cases hphase.symm.trans hwaiting

/-- The connection in use stays, unless the attempt gets its turn and takes its own into use. -/
theorem Dealing.current (h : Dealing s w a e v b) :
    v.current = w.current ∨ a.isEarly = true ∧ b.isEarly = false ∧ ∃ i c, e = .resume i ∧
      v.current = some c ∧ a.phase = .waiting ∧ a.known = true ∧
      a.login.worker = .finished (.ok (some c)) ∧ (a.stopped = true → s.isEndless = false) := by
  cases h with
  | takes hphase hknown hworker hstopped =>
    refine Or.inr ⟨?_, rfl, _, _, rfl, rfl, hphase, hknown, hworker, hstopped⟩
    unfold Attempt.isEarly
    rw [hphase]
  | handsOver _ hcloses | givesUp _ hcloses => exact Or.inl hcloses.current
  | activates _ _ _ _ hcurrent => exact Or.inl hcurrent
  | waits | fails | asks | refused | opens | knows => exact Or.inl rfl

/-- A connection that a worker is given is new. -/
theorem Dealing.given (h : Dealing s w a e v b) {c : Nat} (hc : b.given? = some c) :
    a.given? = some c ∨ c = w.connections.length ∧ c < v.connections.length := by
  cases h with
  | asks | refused => cases hc
  | opens =>
    cases hc
    refine Or.inr ⟨rfl, ?_⟩
    show w.connections.length < (w.connections ++ [true]).length
    rw [List.length_append]
    exact Nat.lt_succ_self _
  | handsOver hworker _ =>
    have hsame : a.given? = Worker.given? (.answered _) := congrArg Worker.given? hworker
    rcases handOver_cases hworker with
      ⟨failure, -, hlogin⟩ | ⟨d, rfl, ⟨-, hlogin⟩ | ⟨-, hlogin⟩⟩ <;>
      rw [Attempt.given?, hlogin] at hc <;> cases hc
    exact Or.inl hsame
  | activates _ hlogin =>
    rw [Attempt.given?, hlogin] at hc
    exact Or.inl hc
  | waits | fails | knows | givesUp | takes => exact Or.inl hc

/-! ## Custody -/

/-- Every open connection is in use or kept by an attempt, and while an attempt may still take one
into use, none is. -/
structure Custody (r : Race) : Prop where
  single : Single r
  tidy : ∀ (i : Nat) (a : Attempt), r.attempts[i]? = some a → a.Tidy
  bound : ∀ (i : Nat) (a : Attempt) (c : Nat), r.attempts[i]? = some a → a.given? = some c →
    c < r.warehouse.connections.length
  current : ∀ c, r.warehouse.current = some c → c < r.warehouse.connections.length
  calm : ∀ (i : Nat) (a : Attempt), r.attempts[i]? = some a → a.isEarly = true →
    r.warehouse.isConnected = false
  kept : ∀ c, r.warehouse.isOpen c = true → r.warehouse.current = some c ∨
    ∃ (i : Nat) (a : Attempt), r.attempts[i]? = some a ∧ a.Keeps c

theorem not_isOver_of_isEarly (h : a.isEarly = true) : a.isOver = false := by
  unfold Attempt.isEarly at h
  unfold Attempt.isOver Attempt.result?
  split at h <;> simp_all

/-- The connection in use is not opened again. -/
theorem isConnected_eq_false (h : w.isConnected = false) (hcurrent : v.current = w.current)
    (hopen : ∀ c, w.current = some c → v.isOpen c = true → w.isOpen c = true) :
    v.isConnected = false := by
  unfold isConnected at h ⊢
  rw [hcurrent]
  rcases hc : w.current with - | c
  · rfl
  · rw [hc] at h
    exact Bool.eq_false_iff.mpr fun hyes => absurd (hopen c hc hyes) (Bool.eq_false_iff.mp h)

/-- While an attempt may still take a connection into use, no other one does. -/
theorem Custody.current_of_early (h : Custody r) (hi : r.attempts[i]? = some a)
    (hd : Dealing s r.warehouse a e v b) (hj : r.attempts[j]? = some o) (hearly : o.isEarly = true)
    (hne : j ≠ i) : v.current = r.warehouse.current := by
  rcases hd.current with hsame | ⟨hwaiting, -⟩
  · exact hsame
  · have hlast := h.single.newest hi (not_isOver_of_isEarly hwaiting)
    have hother := h.single.newest hj (not_isOver_of_isEarly hearly)
    omega

/-- While an attempt may still take a connection into use, none is after a dealing. -/
theorem Custody.calm_deal (h : Custody r) (hi : r.attempts[i]? = some a)
    (hd : Dealing s r.warehouse a e v b) (hj : (r.attempts.set i b)[j]? = some o)
    (hearly : o.isEarly = true) : v.isConnected = false := by
  have hopen : ∀ c, r.warehouse.current = some c → v.isOpen c = true →
      r.warehouse.isOpen c = true := by
    intro c hc ho
    rcases hd.opened ho with hbefore | ⟨rfl, -⟩
    · exact hbefore
    · exact absurd (h.current _ hc) (Nat.lt_irrefl _)
  rcases getElem?_set_cases hi hj with ⟨-, rfl⟩ | ⟨hne, hj⟩
  · have hbefore := h.calm i a hi (hd.early hearly).1
    rcases hd.current with hsame | ⟨-, hlate, -⟩
    · exact isConnected_eq_false hbefore hsame hopen
    · cases hlate.symm.trans hearly
  · have hsame := h.current_of_early hi hd hj hearly hne
    exact isConnected_eq_false (h.calm j o hj hearly) hsame hopen

/-- A dealing loses sight of no connection. -/
theorem Custody.kept_deal (h : Custody r) (hi : r.attempts[i]? = some a)
    (hd : Dealing s r.warehouse a e v b) {c : Nat} (hc : v.isOpen c = true) :
    v.current = some c ∨
      ∃ (j : Nat) (o : Attempt), (r.attempts.set i b)[j]? = some o ∧ o.Keeps c := by
  have hset : (r.attempts.set i b)[i]? = some b :=
    List.getElem?_set_self (List.getElem?_eq_some_iff.mp hi).1
  rcases hd.opened hc with hbefore | ⟨-, hnew⟩
  · rcases h.kept c hbefore with hcurrent | ⟨j, o, hj, hkeeps⟩
    · rcases hd.current with hsame | ⟨hearly, -⟩
      · exact Or.inl (hsame.trans hcurrent)
      · -- nothing is in use while the attempt may take a connection into use
        have hnot := h.calm i a hi hearly
        rw [isConnected, hcurrent, Option.any_some, hbefore] at hnot
        cases hnot
    · by_cases hji : j = i
      · subst hji
        cases hi.symm.trans hj
        rcases hd.kept (h.tidy j a hi) hkeeps with hstill | hshut | hcurrent
        · exact Or.inr ⟨j, b, hset, hstill⟩
        · cases hshut.symm.trans hc
        · exact Or.inl hcurrent
      · exact Or.inr ⟨j, o, (List.getElem?_set_ne (Ne.symm hji)).trans hj, hkeeps⟩
  · exact Or.inr ⟨i, b, hset, hnew⟩

theorem Custody.deal (h : Custody r) (hi : r.attempts[i]? = some a)
    (hd : Dealing s r.warehouse a e v b)
    (hsingle : Single ⟨v, r.attempts.set i b, r.callers⟩) :
    Custody ⟨v, r.attempts.set i b, r.callers⟩ where
  single := hsingle
  tidy := fun j o hj => by
    rcases getElem?_set_cases hi hj with ⟨-, rfl⟩ | ⟨-, hj⟩
    · exact hd.tidy (h.tidy i a hi)
    · exact h.tidy j o hj
  bound := fun j o c hj hc => by
    rcases getElem?_set_cases hi hj with ⟨-, rfl⟩ | ⟨-, hj⟩
    · rcases hd.given hc with hold | ⟨-, hnew⟩
      · exact Nat.lt_of_lt_of_le (h.bound i a c hi hold) hd.length_le
      · exact hnew
    · exact Nat.lt_of_lt_of_le (h.bound j o c hj hc) hd.length_le
  current := fun c hc => by
    rcases hd.current with hsame | ⟨-, -, k, d, -, htaken, -, -, hworker, -⟩
    · exact Nat.lt_of_lt_of_le (h.current c (hsame ▸ hc)) hd.length_le
    · cases htaken.symm.trans hc
      have hgiven : a.given? = some c := by
        rw [Attempt.given?, hworker]
        rfl
      exact Nat.lt_of_lt_of_le (h.bound i a c hi hgiven) hd.length_le
  calm := fun j o => h.calm_deal hi hd
  kept := fun c => h.kept_deal hi hd

/-- A new attempt keeps nothing yet. -/
theorem Custody.attempt (h : Custody r) (hconnected : r.warehouse.isConnected = false)
    {callers : List Caller}
    (hsingle : Single { r with attempts := r.attempts ++ [.start], callers }) :
    Custody { r with attempts := r.attempts ++ [.start], callers } := by
  refine ⟨hsingle, fun j o ho => ?_, fun j o c ho hc => ?_, h.current, fun j o ho _ => hconnected,
    fun c hc => ?_⟩
  · rcases getElem?_concat_cases ho with ho | ⟨-, rfl⟩
    · exact h.tidy j o ho
    · exact .start
  · rcases getElem?_concat_cases ho with ho | ⟨-, rfl⟩
    · exact h.bound j o c ho hc
    · cases hc
  · rcases h.kept c hc with hcurrent | ⟨j, o, ho, hkeeps⟩
    · exact Or.inl hcurrent
    · have hj := (List.getElem?_eq_some_iff.mp ho).1
      exact Or.inr ⟨j, o, (List.getElem?_append_left hj).trans ho, hkeeps⟩

/-- An attempt that is told to stop keeps what it keeps. -/
theorem Custody.stop (h : Custody r) (hsingle : Single r.stop) : Custody r.stop := by
  have hback {j : Nat} {o : Attempt} (ho : r.stop.attempts[j]? = some o) :
      ∃ a, r.attempts[j]? = some a ∧ o.phase = a.phase ∧ o.login = a.login := by
    have hj := (List.getElem?_eq_some_iff.mp ho).1
    rw [stop_length] at hj
    obtain ⟨stopped, hstop⟩ := exists_getElem?_stop (List.getElem?_eq_getElem hj)
    cases ho.symm.trans hstop
    exact ⟨_, List.getElem?_eq_getElem hj, rfl, rfl⟩
  have hwarehouse := stop_warehouse r
  refine ⟨hsingle, fun j o ho => ?_, fun j o c ho hc => ?_, ?_,
    fun j o ho hearly => ?_, fun c hc => ?_⟩
  · obtain ⟨a, ha, hphase, hlogin⟩ := hback ho
    exact (h.tidy j a ha).congr hphase hlogin
  · obtain ⟨a, ha, -, hlogin⟩ := hback ho
    rw [hwarehouse]
    rw [Attempt.given?, hlogin] at hc
    exact h.bound j a c ha hc
  · rw [hwarehouse]
    exact h.current
  · obtain ⟨a, ha, hphase, -⟩ := hback ho
    rw [hwarehouse]
    refine h.calm j a ha ?_
    rwa [Attempt.isEarly, hphase] at hearly
  · rw [hwarehouse] at hc ⊢
    rcases h.kept c hc with hcurrent | ⟨j, o, ho, hkeeps⟩
    · exact Or.inl hcurrent
    · obtain ⟨stopped, hstop⟩ := exists_getElem?_stop ho
      exact Or.inr ⟨j, _, hstop, hkeeps.congr rfl rfl⟩

/-- Closing shuts the connection in use, and opens none. -/
theorem of_isOpen_close {c : Nat} (h : w.close.isOpen c = true) :
    w.isOpen c = true ∧ w.current ≠ some c := by
  unfold Warehouse.close at h
  split at h
  · rename_i hnone
    refine ⟨h, fun hc => ?_⟩
    cases hnone.symm.trans hc
  · rename_i d hd
    have hboth : (w.isOpen c && c != d) = true := (isOpen_shut w d c).symm.trans h
    rw [Bool.and_eq_true, bne_iff_ne] at hboth
    refine ⟨hboth.1, fun hc => hboth.2 ?_⟩
    exact Option.some.inj (hc.symm.trans hd)

theorem Custody.close (h : Custody r) (hsingle : Single r.stop) : Custody r.close := by
  have hnone := close_current r.stop.warehouse
  have hstop := h.stop hsingle
  refine ⟨hsingle, hstop.tidy, fun j o c ho hc => ?_, fun c hc => ?_, fun j o ho hearly => ?_,
    fun c hc => ?_⟩
  · show c < r.stop.warehouse.close.connections.length
    rw [close_length]
    exact hstop.bound j o c ho hc
  · cases hnone.symm.trans hc
  · show r.stop.warehouse.close.isConnected = false
    rw [isConnected, hnone, Option.any_none]
  · obtain ⟨hopen, hother⟩ := of_isOpen_close hc
    rcases hstop.kept c hopen with hcurrent | hkept
    · exact absurd hcurrent hother
    · exact Or.inr hkept

theorem Custody.drop (h : Custody r) (c : Nat) : Custody (r.shut (some c)) := by
  have hopen : ∀ d, (r.warehouse.shut c).isOpen d = true → r.warehouse.isOpen d = true := by
    intro d hd
    rw [isOpen_shut, Bool.and_eq_true] at hd
    exact hd.1
  have hlength : (r.warehouse.shut c).connections.length = r.warehouse.connections.length :=
    List.length_set
  refine ⟨h.single, h.tidy, fun j o d ho hd => ?_, fun d hd => ?_, fun j o ho hearly => ?_,
    fun d hd => h.kept d (hopen d hd)⟩
  · exact Nat.lt_of_lt_of_eq (h.bound j o d ho hd) hlength.symm
  · exact Nat.lt_of_lt_of_eq (h.current d hd) hlength.symm
  · exact isConnected_eq_false (h.calm j o ho hearly) rfl fun d _ => hopen d

/-- **One moment.** -/
theorem Custody.pass (h : Custody r) (s : Service) (m : Moment) : Custody (r.pass s m) := by
  have hsingle := h.single.pass s m
  have hpassage := pass_passage s r m
  generalize r.pass s m = next at hsingle hpassage ⊢
  cases hpassage with
  | idle => exact h
  | joins | tells | leaves => exact ⟨hsingle, h.tidy, h.bound, h.current, h.calm, h.kept⟩
  | begins hconnected => exact h.attempt hconnected hsingle
  | deals _ hi hd => exact h.deal hi hd hsingle
  | stops => exact h.stop hsingle
  | closes => exact h.close hsingle
  | drops c => exact h.drop c

/-- **Any number of moments.** -/
theorem Custody.after (h : Custody r) (s : Service) (moments : List Moment) :
    Custody (r.after s moments) :=
  Race.after_invariant h fun m _ _ hr => hr.pass s m

theorem Custody.start (hsole : w.Sole)
    (hcurrent : ∀ c, w.current = some c → c < w.connections.length) : Custody (.start w) where
  single := .start w
  tidy := fun _ _ ha => nomatch ha
  bound := fun _ _ _ ha => nomatch ha
  current := hcurrent
  calm := fun _ _ ha => nomatch ha
  kept := fun c hc => Or.inl (hsole c hc)

/-! ## Attempts that were told to stop -/

/-- The attempt knows that a connection was handed over, and takes it into use at its next turn
although it was told to stop. -/
def Attempt.ignoresStop (s : Service) (a : Attempt) : Bool :=
  match a.phase, a.known, a.login.worker with
  | .waiting, true, .finished (.ok (some _)) => a.stopped && !s.isEndless
  | _, _, _ => false

/-- At this moment such an attempt gets its turn. -/
def Race.ignoresStop (s : Service) (r : Race) : Moment → Bool
  | .event (.resume i) => r.attempts[i]?.any (Attempt.ignoresStop s)
  | _ => false

/-- At one of the moments an attempt takes a connection into use although it was told to stop. -/
def Race.reopens (s : Service) (r : Race) : List Moment → Bool
  | [] => false
  | m :: moments => r.ignoresStop s m || reopens s (r.pass s m) moments

/-- Every attempt that may still take a connection into use was told to stop. -/
def Silenced (r : Race) : Prop :=
  ∀ (i : Nat) (a : Attempt), r.attempts[i]? = some a → a.isEarly = true → a.stopped = true

/-- Nothing goes on any more: all attempts are over, and no worker is busy. -/
def Race.isQuiet (r : Race) : Bool := r.attempts.all fun a => a.isOver && !a.login.worker.isBusy

/-- To stop means to tell the only attempt that may still take a connection into use. -/
theorem Single.silenced_stop (h : Single r) : Silenced r.stop := by
  intro j o ho hearly
  have hj := (List.getElem?_eq_some_iff.mp ho).1
  rw [stop_length] at hj
  have ha : r.attempts[j]? = some r.attempts[j] := List.getElem?_eq_getElem hj
  obtain ⟨stopped, hstop⟩ := exists_getElem?_stop ha
  cases ho.symm.trans hstop
  have hpending := h.pending? ha (not_isOver_of_isEarly hearly)
  unfold Race.stop at ho
  rw [hpending] at ho
  dsimp only at ho
  rw [ha] at ho
  have hset := List.getElem?_set_self (a := { r.attempts[j] with stopped := true }) hj
  cases ho.symm.trans hset
  rfl

/-- Without new callers this stays so. -/
theorem Silenced.pass (h : Silenced r) (hsingle : Single r) (s : Service)
    (hm : m ≠ .event .arrive) : Silenced (r.pass s m) := by
  have hpassage := pass_passage s r m
  generalize r.pass s m = next at hpassage ⊢
  cases hpassage with
  | idle | tells | leaves | drops => exact h
  | joins | begins => exact absurd rfl hm
  | stops | closes => exact hsingle.silenced_stop
  | @deals e i a b v _ hi hd =>
    intro j o ho hearly
    rcases getElem?_set_cases hi ho with ⟨-, rfl⟩ | ⟨-, ho⟩
    · obtain ⟨hbefore, hsame⟩ := hd.early hearly
      rw [hsame]
      exact h i a hi hbefore
    · exact h j o ho hearly

theorem Attempt.ignoresStop_eq_true {c : Nat} (hphase : a.phase = .waiting)
    (hknown : a.known = true) (hworker : a.login.worker = .finished (.ok (some c)))
    (hstopped : a.stopped = true) (hendless : s.isEndless = false) : a.ignoresStop s = true := by
  unfold Attempt.ignoresStop
  rw [hphase, hknown, hworker, hstopped, hendless]
  rfl

/-- An attempt that ignores that it was told to stop takes its connection into use. -/
theorem Race.ignoresStop.current (h : r.ignoresStop s m = true) :
    (r.pass s m).warehouse.wasConnected = true := by
  unfold Race.ignoresStop at h
  split at h
  · rename_i i
    rw [Option.any_eq_true] at h
    obtain ⟨a, ha, hignores⟩ := h
    unfold Attempt.ignoresStop at hignores
    split at hignores
    · rename_i c hphase hknown hworker
      rw [Bool.and_eq_true, Bool.not_eq_true'] at hignores
      have hresume : r.pass s (.event (.resume i)) = r.takeOver i a (.ok (some c)) := by
        show r.step s (.resume i) = _
        unfold Race.step
        dsimp only
        rw [ha]
        show r.resume s i a = _
        unfold Race.resume
        rw [hphase, hknown, hworker, hignores.2]
        simp
      rw [hresume]
      rfl
    · cases hignores
  · cases h

/-- Nothing else takes a connection into use when all were told to stop. -/
theorem Silenced.current (h : Silenced r) (hnot : r.ignoresStop s m = false)
    (hclose : m ≠ .event .close) : (r.pass s m).warehouse.current = r.warehouse.current := by
  have hpassage := pass_passage s r m
  generalize r.pass s m = next at hpassage ⊢
  cases hpassage with
  | idle | joins | begins | tells | leaves | drops => rfl
  | stops => exact congrArg Warehouse.current (stop_warehouse r)
  | closes => exact absurd rfl hclose
  | @deals e i a b v he hi hd =>
    rcases hd.current with hsame | ⟨hearly, -, k, c, rfl, -, hphase, hknown, hworker, hendless⟩
    · exact hsame
    · cases he
      have hstopped := h i a hi hearly
      have hyes := Attempt.ignoresStop_eq_true hphase hknown hworker hstopped (hendless hstopped)
      have hnow : r.ignoresStop s (.event (.resume i)) = true := by
        unfold Race.ignoresStop
        dsimp only
        rw [hi, Option.any_some, hyes]
      cases hnot.symm.trans hnow

/-- A connection comes into use again exactly when an attempt ignores that it was told to stop. -/
theorem Silenced.wasConnected_after (h : Silenced r) (hsingle : Single r) {later : List Moment}
    (hlater : ∀ m ∈ later, m ≠ .event .arrive ∧ m ≠ .event .close) :
    (r.after s later).warehouse.wasConnected =
      (r.warehouse.wasConnected || r.reopens s later) := by
  induction later generalizing r with
  | nil => exact (Bool.or_false _).symm
  | cons m later ih =>
    obtain ⟨harrive, hclose⟩ := hlater m List.mem_cons_self
    have hrest := ih (h.pass hsingle s harrive) (hsingle.pass s m) fun m' hm' =>
      hlater m' (List.mem_cons_of_mem m hm')
    show ((r.pass s m).after s later).warehouse.wasConnected = _
    rw [hrest, Race.reopens]
    rcases hignores : r.ignoresStop s m with - | -
    · rw [wasConnected, h.current hignores hclose, Bool.false_or, wasConnected]
    · rw [Race.ignoresStop.current hignores, Bool.true_or, Bool.or_true]

/-- When nothing goes on any more, no connection is open but the one in use. -/
theorem Custody.isOpen_quiet (h : Custody r) (hquiet : r.isQuiet = true) {c : Nat}
    (hc : r.warehouse.isOpen c = true) : r.warehouse.current = some c := by
  rcases h.kept c hc with hcurrent | ⟨i, a, ha, hkeeps⟩
  · exact hcurrent
  · have hdone := List.all_eq_true.mp hquiet a (List.mem_of_getElem? ha)
    rw [Bool.and_eq_true, Bool.not_eq_true'] at hdone
    rcases hkeeps with hworker | ⟨hphase, -⟩
    · rw [hworker] at hdone
      cases hdone.2
    · rw [Attempt.isOver, Attempt.result?, hphase] at hdone
      cases hdone.1

/-! ## Closing -/

theorem Attempts.current_lt (h : Attempts s w v)
    (hw : ∀ c, w.current = some c → c < w.connections.length) :
    ∀ c, v.current = some c → c < v.connections.length := by
  cases h with
  | spared => exact hw
  | failed => exact hw
  | made =>
    rintro c ⟨rfl⟩
    show w.connections.length < (w.connections ++ [true]).length
    rw [List.length_append]
    exact Nat.lt_succ_self _

/-- After any calls no connection is open but the one in use, and this is one of those that were
made. -/
theorem run_sole (calls : List (Service × Call)) :
    (run calls).Sole ∧ ∀ c, (run calls).current = some c → c < (run calls).connections.length := by
  induction calls with
  | nil => exact ⟨.start, nofun⟩
  | cons first earlier ih =>
    obtain ⟨s, call⟩ := first
    obtain ⟨hsole, hcurrent⟩ := ih
    cases call with
    | connect =>
      have hattempts := connect_attempts s (run earlier)
      exact ⟨hsole.attempts hattempts, hattempts.current_lt hcurrent⟩
    | describe =>
      obtain ⟨v, ds, hdescribe, hattempts, -⟩ := describe_attempts s (run earlier)
      show (describe s (run earlier)).2.Sole ∧ ∀ c, (describe s (run earlier)).2.current = some c →
        c < (describe s (run earlier)).2.connections.length
      rw [hdescribe]
      exact ⟨(hsole.attempts hattempts).deliver ds, hattempts.current_lt hcurrent⟩
    | execute command =>
      obtain ⟨ds, hsend⟩ := send_frame s command (run earlier)
      show (send s command (run earlier)).2.Sole ∧
        ∀ c, (send s command (run earlier)).2.current = some c →
          c < (send s command (run earlier)).2.connections.length
      rw [hsend]
      exact ⟨hsole.deliver ds, hcurrent⟩
    | close => exact ⟨hsole.close, fun c hc => nomatch (close_current _).symm.trans hc⟩
    | drop d =>
      refine ⟨hsole.shut d, fun c hc => ?_⟩
      exact Nat.lt_of_lt_of_eq (hcurrent c hc) List.length_set.symm

/-- **When closing is final.** The warehouse was used in any way, and any number of callers,
attempts and workers stand anywhere when it is closed. After that nobody asks for a connection any
more, and in the end all attempts are over and all workers done. Then no connection is in use and
none is open, exactly when at no moment in between an attempt took its connection into use although
it was told to stop: one that knew that the connection had been handed over, and did not wait
without a time limit. In either case nothing but the connection in use is open. -/
theorem close_final_iff (s : Service) (calls : List (Service × Call)) (before later : List Moment)
    (hlater : ∀ m ∈ later, m ≠ .event .arrive ∧ m ≠ .event .close)
    (hquiet : (((Race.after s (.start (run calls)) before).step s .close).after s later).isQuiet =
      true) :
    let r := (Race.after s (.start (run calls)) before).step s .close
    let q := r.after s later
    (q.warehouse.wasConnected = false ∧ q.warehouse.openCount = 0 ↔ r.reopens s later = false) ∧
      ∀ c, q.warehouse.isOpen c = true → q.warehouse.current = some c := by
  intro r q
  obtain ⟨hsole, hcurrent⟩ := run_sole calls
  have hbefore := (Custody.start hsole hcurrent).after s before
  have hclosed : Custody r := hbefore.pass s (.event .close)
  have hsilenced : Silenced r := hbefore.single.silenced_stop
  have hlet : r.warehouse.wasConnected = false := by
    show (Warehouse.close _).current.isSome = false
    rw [close_current]
    rfl
  have hagain : q.warehouse.wasConnected = r.reopens s later := by
    rw [hsilenced.wasConnected_after hclosed.single hlater, hlet, Bool.false_or]
  have hopen : ∀ c, q.warehouse.isOpen c = true → q.warehouse.current = some c :=
    fun c => (hclosed.after s later).isOpen_quiet hquiet
  refine ⟨⟨fun h => hagain ▸ h.1, fun hnever => ?_⟩, hopen⟩
  have hnone : q.warehouse.wasConnected = false := hagain.trans hnever
  refine ⟨hnone, openCount_eq_zero fun c => Bool.eq_false_iff.mpr fun hc => ?_⟩
  rw [wasConnected, hopen c hc] at hnone
  cases hnone

/-- An attempt waits for its worker, which waits for the connector. -/
def calling : List Moment := [Event.arrive, .start 0, .enter 0].map .event

/-- The attempt notices that it was told to stop, and then the worker is answered. -/
def answeredLate : List Moment := [Event.resume 0, .answer 0, .handOver 0].map .event

/-- The worker closes the connection that it is given after the warehouse was closed. -/
theorem close_final_answeredLate :
    let q := ((Race.after welcoming (.start (run [])) calling).step welcoming .close).after
      welcoming answeredLate
    q.isQuiet = true ∧ q.warehouse.connections = [false] ∧ q.warehouse.wasConnected = false ∧
      q.warehouse.openCount = 0 := by
  intro q
  have hquiet : q.isQuiet = true := by decide +kernel
  obtain ⟨hiff, -⟩ := close_final_iff welcoming [] calling answeredLate (by simp [answeredLate])
    hquiet
  obtain ⟨hnone, hcount⟩ := hiff.mpr (by decide +kernel)
  exact ⟨hquiet, by decide +kernel, hnone, hcount⟩

/-- The attempt has been told that its worker has finished, and did not get its turn yet. -/
def handedOver : List Moment :=
  calling ++ [Event.answer 0, .handOver 0, .notify 0].map .event

/-- It gets its turn after the warehouse was closed. -/
def takenLate : List Moment :=
  [Event.resume 0, .command 0, .resume 0, .command 0, .resume 0].map .event

/-- The connection comes into use after the warehouse was closed, and it stays open. -/
theorem close_takenLate :
    let q := ((Race.after welcoming (.start .start) handedOver).step welcoming .close).after
      welcoming takenLate
    q.isQuiet = true ∧ q.warehouse.wasConnected = true ∧ q.warehouse.isOpen 0 = true ∧
      q.attempts.length = 1 ∧ q.warehouse.logins = 1 := by
  decide +kernel

end AskTable.Warehouse
