import AskTable.Proofs.Dealings

/-!
# One attempt at a time

Callers that find no open connection share the pending attempt, and begin one only if none is
pending. The attempt does not depend on any of them.

* `Race.asker?`, `Race.askers`: for which attempts the connector was asked to log in.
* `Single`: every attempt but the newest is over; `Single.pass`.
* `Asked`: no attempt asked twice; `Asked.pass`.
* `Race.Serves`: a caller waits for an attempt or was told its result; `Race.Serves.pass`.
* `pass_setCaller`: a caller that has gone away makes no difference to anything else.
* `single_flight`: what holds of all callers and attempts at every moment of a race.
-/

namespace AskTable.Warehouse

variable {s : Service} {r next : Race} {i j : Nat} {a b : Attempt} {m : Moment}
  {moments : List Moment}

namespace Race

/-- The attempt for which the connector is asked to log in at a moment. -/
def asker? (s : Service) (r : Race) (m : Moment) : Option Nat :=
  match m with
  | .event (.enter i) =>
    if (r.pass s m).warehouse.logins = r.warehouse.logins then none else some i
  | _ => none

/-- The attempts for which it was asked, in order. -/
def askers (s : Service) (r : Race) : List Moment → List Nat
  | [] => []
  | m :: moments => (r.asker? s m).toList ++ askers s (r.pass s m) moments

/-- The result of an attempt that is over. -/
def result? (r : Race) (i : Nat) : Option (Except Failure Unit) :=
  r.attempts[i]?.bind Attempt.result?

/-- A caller waits for an attempt, or it was told the result of that attempt. -/
def Serves (r : Race) (i j : Nat) : Prop :=
  r.callers[j]? = some (.waiting i) ∨
    ∃ result, r.result? i = some result ∧ r.callers[j]? = some (.left result)

end Race

/-! ## What becomes of attempts -/

/-- What has become of an attempt: its result stays, and a worker does not ask again. -/
structure Becomes (a b : Attempt) : Prop where
  result : ∀ result, a.result? = some result → b.result? = some result
  asked : a.login.worker ≠ .ready → b.login.worker ≠ .ready

theorem Becomes.refl (a : Attempt) : Becomes a a := ⟨fun _ h => h, id⟩

theorem Becomes.isOver (h : Becomes a b) (ha : a.isOver = true) : b.isOver = true := by
  obtain ⟨result, hresult⟩ := Option.isSome_iff_exists.mp ha
  exact Option.isSome_iff_exists.mpr ⟨result, h.result _ hresult⟩

theorem Dealing.becomes {w v : Warehouse} {e : Event} (h : Dealing s w a e v b) : Becomes a b := by
  refine ⟨fun _ => h.result?, ?_⟩
  rcases h.logins with ⟨-, hasked⟩ | ⟨-, -, -, hnow⟩
  · exact hasked
  · exact fun _ => hnow

/-- At every moment an attempt stays in its place. -/
theorem Passage.exists_becomes (h : Passage s r m next) (ha : r.attempts[i]? = some a) :
    ∃ b, next.attempts[i]? = some b ∧ Becomes a b := by
  cases h with
  | idle | joins | tells | leaves | drops => exact ⟨a, ha, .refl a⟩
  | begins =>
    refine ⟨a, ?_, .refl a⟩
    show (r.attempts ++ [Attempt.start])[i]? = some a
    rw [List.getElem?_append_left (List.getElem?_eq_some_iff.mp ha).1, ha]
  | @deals e k old new v _ hold hdealing =>
    by_cases hik : i = k
    · subst hik
      cases ha.symm.trans hold
      refine ⟨new, ?_, hdealing.becomes⟩
      exact List.getElem?_set_self (List.getElem?_eq_some_iff.mp ha).1
    · refine ⟨a, ?_, .refl a⟩
      show (r.attempts.set k new)[i]? = some a
      rw [List.getElem?_set_ne (Ne.symm hik), ha]
  | stops | closes =>
    obtain ⟨stopped, hstop⟩ := exists_getElem?_stop ha
    exact ⟨_, hstop, fun _ h => h, id⟩

theorem pass_result? (s : Service) (m : Moment) {result : Except Failure Unit}
    (h : r.result? i = some result) : (r.pass s m).result? i = some result := by
  obtain ⟨a, ha, hresult⟩ := Option.bind_eq_some_iff.mp h
  obtain ⟨b, hb, hbecomes⟩ := (pass_passage s r m).exists_becomes ha
  exact Option.bind_eq_some_iff.mpr ⟨b, hb, hbecomes.result _ hresult⟩

/-- A new attempt is begun by a caller that finds neither an open connection nor an attempt that is
pending; no other moment changes how many there are. -/
theorem Passage.length_cases (h : Passage s r m next) :
    next.attempts.length = r.attempts.length ∨
      m = .event .arrive ∧ r.pending? = none ∧ r.warehouse.isConnected = false ∧
        next.attempts = r.attempts ++ [.start] := by
  cases h with
  | idle | joins | tells | leaves | drops => exact Or.inl rfl
  | begins hconnected hpending => exact Or.inr ⟨rfl, hpending, hconnected, rfl⟩
  | deals => exact Or.inl List.length_set
  | stops | closes => exact Or.inl (stop_length r)

/-! ## One attempt -/

/-- Every attempt but the newest is over. -/
def Single (r : Race) : Prop :=
  ∀ (i : Nat) (a : Attempt), r.attempts[i]? = some a → i + 1 ≠ r.attempts.length → a.isOver = true

theorem Single.start (w : Warehouse) : Single (.start w) := fun _ _ ha => nomatch ha

/-- An attempt that is not over is the newest. -/
theorem Single.newest (h : Single r) (ha : r.attempts[i]? = some a) (hnot : a.isOver = false) :
    i + 1 = r.attempts.length := by
  refine Classical.byContradiction fun hne => ?_
  rw [h i a ha hne] at hnot
  cases hnot

/-- An attempt that is not over is the pending one. -/
theorem Single.pending? (h : Single r) (ha : r.attempts[i]? = some a) (hnot : a.isOver = false) :
    r.pending? = some i := by
  have hlength := h.newest ha hnot
  have hlast : r.attempts.getLast? = some a := by
    rw [List.getLast?_eq_getElem?, ← hlength, Nat.add_sub_cancel, ha]
  unfold Race.pending?
  rw [hlast]
  dsimp only
  rw [hnot, ← hlength, Nat.add_sub_cancel]
  rfl

/-- Without a pending attempt all are over. -/
theorem Single.isOver (h : Single r) (hpending : r.pending? = none)
    (ha : r.attempts[i]? = some a) : a.isOver = true := by
  refine Classical.byContradiction fun hnot => ?_
  have hsome := h.pending? ha (Bool.not_eq_true _ ▸ hnot)
  rw [hpending] at hsome
  cases hsome

theorem Single.pass (h : Single r) (s : Service) (m : Moment) : Single (r.pass s m) := by
  intro j b hb hj
  have hpassage := pass_passage s r m
  generalize r.pass s m = next at hpassage hb hj
  have hkept (hlt : j < r.attempts.length) (hover : r.attempts[j].isOver = true) :
      b.isOver = true := by
    obtain ⟨b', hb', hbecomes⟩ := hpassage.exists_becomes (List.getElem?_eq_getElem hlt)
    cases hb.symm.trans hb'
    exact hbecomes.isOver hover
  have hlt := (List.getElem?_eq_some_iff.mp hb).1
  rcases hpassage.length_cases with hlength | ⟨-, hpending, -, hattempts⟩
  · rw [hlength] at hlt hj
    exact hkept hlt (h j _ (List.getElem?_eq_getElem hlt) hj)
  · rw [hattempts, List.length_append, List.length_singleton] at hlt hj
    have hold : j < r.attempts.length := by omega
    exact hkept hold (h.isOver hpending (List.getElem?_eq_getElem hold))

/-- **Any number of moments.** -/
theorem Single.after (h : Single r) (s : Service) (moments : List Moment) :
    Single (r.after s moments) :=
  Race.after_invariant h fun m _ _ hr => hr.pass s m

/-! ## One login for each attempt -/

/-- Closing a connection does not ask for another. -/
theorem close_logins (w : Warehouse) : w.close.logins = w.logins := by
  unfold Warehouse.close
  split <;> rfl

/-- The connector is asked at most once at a moment, by a worker that did not ask before. -/
theorem Passage.logins_cases (h : Passage s r m next) :
    next.warehouse.logins = r.warehouse.logins ∨
      next.warehouse.logins = r.warehouse.logins + 1 ∧ ∃ i a b, m = .event (.enter i) ∧
        r.attempts[i]? = some a ∧ a.login.worker = .ready ∧
        next.attempts[i]? = some b ∧ b.login.worker ≠ .ready := by
  cases h with
  | idle | joins | begins | tells | leaves | drops => exact Or.inl rfl
  | stops => exact Or.inl (congrArg Warehouse.logins (stop_warehouse r))
  | closes =>
    refine Or.inl ?_
    show r.stop.warehouse.close.logins = _
    rw [close_logins, stop_warehouse]
  | @deals e k a b v hk ha hdealing =>
    rcases hdealing.logins with ⟨hsame, -⟩ | ⟨hmore, ⟨i, rfl⟩, hready, hasked⟩
    · exact Or.inl hsame
    · cases hk
      have hlt := (List.getElem?_eq_some_iff.mp ha).1
      exact Or.inr ⟨hmore, k, a, b, rfl, ha, hready, List.getElem?_set_self hlt, hasked⟩

/-- For none of these attempts the connector was asked twice, and their workers have asked. -/
structure Asked (r : Race) (asked : List Nat) : Prop where
  nodup : asked.Nodup
  mem : ∀ i ∈ asked, ∃ a, r.attempts[i]? = some a ∧ a.login.worker ≠ .ready

theorem Asked.pass {asked : List Nat} (h : Asked r asked) (s : Service) (m : Moment) :
    Asked (r.pass s m) (asked ++ (r.asker? s m).toList) ∧
      (r.pass s m).warehouse.logins = r.warehouse.logins + (r.asker? s m).toList.length := by
  have hpassage := pass_passage s r m
  have hmem : ∀ i ∈ asked, ∃ b, (r.pass s m).attempts[i]? = some b ∧ b.login.worker ≠ .ready := by
    intro i hi
    obtain ⟨a, ha, hasked⟩ := h.mem i hi
    obtain ⟨b, hb, hbecomes⟩ := hpassage.exists_becomes ha
    exact ⟨b, hb, hbecomes.asked hasked⟩
  rcases hpassage.logins_cases with hsame | ⟨hmore, i, a, b, rfl, ha, hready, hb, hasked⟩
  · have hnone : r.asker? s m = none := by
      unfold Race.asker?
      split
      · rw [if_pos hsame]
      · rfl
    rw [hnone, Option.toList_none, List.append_nil]
    exact ⟨⟨h.nodup, hmem⟩, hsame⟩
  · have hsome : r.asker? s (.event (.enter i)) = some i := by
      unfold Race.asker?
      exact if_neg (by omega)
    -- the worker was ready, and so it had not asked before
    have hnew : i ∉ asked := by
      intro hi
      obtain ⟨a', ha', hbefore⟩ := h.mem i hi
      cases ha.symm.trans ha'
      exact hbefore hready
    rw [hsome, Option.toList_some]
    refine ⟨⟨?_, fun k hk => ?_⟩, hmore⟩
    · exact List.nodup_append.mpr ⟨h.nodup, by simp, by grind⟩
    · rcases List.mem_append.mp hk with hold | hlast
      · exact hmem k hold
      · rw [List.mem_singleton] at hlast
        subst hlast
        exact ⟨b, hb, hasked⟩

theorem Asked.after {asked : List Nat} (h : Asked r asked) (s : Service) (moments : List Moment) :
    Asked (r.after s moments) (asked ++ r.askers s moments) ∧
      (r.after s moments).warehouse.logins =
        r.warehouse.logins + (r.askers s moments).length := by
  induction moments generalizing r asked with
  | nil => exact ⟨(List.append_nil asked).symm ▸ h, rfl⟩
  | cons m moments ih =>
    obtain ⟨hfirst, hlogins⟩ := h.pass s m
    obtain ⟨hrest, htotal⟩ := ih hfirst
    refine ⟨?_, ?_⟩
    · rw [List.append_assoc] at hrest
      exact hrest
    · show ((r.pass s m).after s moments).warehouse.logins = _
      rw [htotal, hlogins, Race.askers, List.length_append, Nat.add_assoc]

/-! ## Callers -/

/-- A caller that was told something stays so. -/
theorem pass_left (s : Service) (m : Moment) {result : Except Failure Unit}
    (hj : r.callers[j]? = some (.left result)) :
    (r.pass s m).callers[j]? = some (.left result) := by
  have hlt := (List.getElem?_eq_some_iff.mp hj).1
  have hother {k i : Nat} (hk : r.callers[k]? = some (.waiting i)) (caller : Caller) :
      (r.callers.set k caller)[j]? = some (.left result) := by
    have hne : k ≠ j := by
      rintro rfl
      cases hj.symm.trans hk
    rw [List.getElem?_set_ne hne, hj]
  have hpassage := pass_passage s r m
  generalize r.pass s m = next at hpassage ⊢
  cases hpassage with
  | idle | deals | drops => exact hj
  | joins | begins => exact (List.getElem?_append_left hlt).trans hj
  | stops | closes => exact (congrArg (·[j]?) (stop_callers r)).trans hj
  | tells hk => exact hother hk _
  | leaves hk => exact hother hk _

/-- A caller that does not go away waits for its attempt, or is told the result of it. -/
theorem Race.Serves.pass (h : r.Serves i j) (s : Service) (hm : m ≠ .event (.leave j)) :
    (r.pass s m).Serves i j := by
  rcases h with hwaiting | ⟨result, hresult, hleft⟩
  · have hlt := (List.getElem?_eq_some_iff.mp hwaiting).1
    have hpassage := pass_passage s r m
    generalize r.pass s m = next at hpassage ⊢
    cases hpassage with
    | idle | deals | drops => exact Or.inl hwaiting
    | joins | begins => exact Or.inl ((List.getElem?_append_left hlt).trans hwaiting)
    | stops | closes => exact Or.inl ((congrArg (·[j]?) (stop_callers r)).trans hwaiting)
    | @tells i' k result hk hresult =>
      by_cases hkj : k = j
      · subst hkj
        cases hwaiting.symm.trans hk
        exact Or.inr ⟨result, hresult, List.getElem?_set_self hlt⟩
      · exact Or.inl ((List.getElem?_set_ne hkj).trans hwaiting)
    | @leaves i' k hk =>
      have hkj : k ≠ j := by
        rintro rfl
        exact hm rfl
      exact Or.inl ((List.getElem?_set_ne hkj).trans hwaiting)
  · exact Or.inr ⟨result, pass_result? s m hresult, pass_left s m hleft⟩

theorem Race.Serves.after (h : r.Serves i j) (s : Service) (hm : .event (.leave j) ∉ moments) :
    (r.after s moments).Serves i j :=
  Race.after_invariant (p := fun r => r.Serves i j) h
    fun _ hmem _ hr => hr.pass s fun he => hm (he ▸ hmem)

/-- A caller that was told something stays so for good. -/
theorem after_left (s : Service) (moments : List Moment) {result : Except Failure Unit}
    (hj : r.callers[j]? = some (.left result)) :
    (r.after s moments).callers[j]? = some (.left result) :=
  Race.after_invariant (p := fun r => r.callers[j]? = some (.left result)) hj
    fun m _ _ hr => pass_left s m hr

/-- Once the attempt is over, its result is what a caller is told when it wakes up. -/
theorem Race.Serves.wakes (h : r.Serves i j) (s : Service) {result : Except Failure Unit}
    (hresult : r.result? i = some result) :
    (r.step s (.wake j)).callers[j]? = some (.left result) := by
  rcases h with hwaiting | ⟨told, htold, hleft⟩
  · obtain ⟨a, ha, hover⟩ := Option.bind_eq_some_iff.mp hresult
    rw [step_wake s hwaiting ha hover]
    exact List.getElem?_set_self (List.getElem?_eq_some_iff.mp hwaiting).1
  · cases hresult.symm.trans htold
    exact pass_left s (.event (.wake j)) hleft

/-- So it is told, whatever else happens before and after it wakes up. -/
theorem Race.Serves.told (h : r.Serves i j) (s : Service) {result : Except Failure Unit}
    (hresult : r.result? i = some result) (hwake : .event (.wake j) ∈ moments)
    (hstays : .event (.leave j) ∉ moments) :
    (r.after s moments).callers[j]? = some (.left result) := by
  induction moments generalizing r with
  | nil => cases hwake
  | cons m moments ih =>
    rcases List.mem_cons.mp hwake with rfl | hlater
    · exact after_left s moments (h.wakes s hresult)
    · have hfirst : m ≠ .event (.leave j) := fun he => hstays (he ▸ List.mem_cons_self)
      exact ih (h.pass s hfirst) (pass_result? s m hresult) hlater
        fun hmem => hstays (List.mem_cons_of_mem m hmem)

/-! ## Callers that go away -/

section Leaving

variable (s : Service) (r : Race) (i j : Nat) (a : Attempt) (caller : Caller)

theorem shut_setCaller (closed : Option Nat) :
    (r.setCaller j caller).shut closed = (r.shut closed).setCaller j caller := by
  cases closed <;> rfl

theorem giveUp_setCaller (failure : Failure) :
    (r.setCaller j caller).giveUp i a failure = (r.giveUp i a failure).setCaller j caller := by
  unfold Race.giveUp
  dsimp only
  exact shut_setCaller (r.finish i _ _) j caller _

theorem takeOver_setCaller (result : Except Failure (Option Nat)) :
    (r.setCaller j caller).takeOver i a result = (r.takeOver i a result).setCaller j caller := by
  unfold Race.takeOver
  split <;> rfl

theorem goOn_setCaller (activation : Activation) (reply : Except Failure (List Row)) :
    (r.setCaller j caller).goOn s i a activation reply =
      (r.goOn s i a activation reply).setCaller j caller := by
  unfold Race.goOn
  dsimp only
  split <;> rfl

theorem resume_setCaller :
    (r.setCaller j caller).resume s i a = (r.resume s i a).setCaller j caller := by
  unfold Race.resume
  split
  · split
    · exact giveUp_setCaller r i j a caller _
    · exact takeOver_setCaller r i j a caller _
  · split
    · exact giveUp_setCaller r i j a caller _
    · rfl
  · split
    · rfl
    · split
      · exact goOn_setCaller s r i j a caller _ _
      · rfl
  · rfl

/-- What happens to an attempt does not depend on the callers. -/
theorem onAttempt_setCaller (e : Event) :
    (r.setCaller j caller).onAttempt s i a e = (r.onAttempt s i a e).setCaller j caller := by
  unfold Race.onAttempt
  split
  · unfold Race.begin
    split
    · rfl
    · split <;> rfl
  · unfold Race.enter
    split
    · rfl
    · split <;> rfl
  · rfl
  · exact shut_setCaller (r.setAttempt i _) j caller _
  · rfl
  · unfold Race.command
    split <;> rfl
  · exact resume_setCaller s r i j a caller
  · split
    · rfl
    · exact giveUp_setCaller r i j a caller _
  · rfl

theorem stop_setCaller : (r.setCaller j caller).stop = r.stop.setCaller j caller := by
  have hpending : (r.setCaller j caller).pending? = r.pending? := rfl
  unfold Race.stop
  rw [hpending]
  rcases r.pending? with - | i
  · rfl
  · have hplace : (r.setCaller j caller).attempts[i]? = r.attempts[i]? := rfl
    dsimp only
    rw [hplace]
    rcases r.attempts[i]? with - | a <;> rfl

theorem onCaller_setCaller {k : Nat} (hk : k ≠ j) (other : Caller) (e : Event) :
    (r.setCaller j caller).onCaller k other e = (r.onCaller k other e).setCaller j caller := by
  have hcomm (c : Caller) :
      (r.setCaller j caller).setCaller k c = (r.setCaller k c).setCaller j caller :=
    congrArg (Race.mk r.warehouse r.attempts) (List.set_comm _ _ hk.symm)
  have hplace (i : Nat) : (r.setCaller j caller).attempts[i]? = r.attempts[i]? := rfl
  unfold Race.onCaller
  split
  · rw [hplace]
    split
    · exact hcomm _
    · rfl
  · exact hcomm _
  · rfl

/-- What happens to a caller is forgotten when it is put in the place of another. -/
theorem setCaller_onCaller (other : Caller) (e : Event) :
    (r.onCaller j other e).setCaller j caller = r.setCaller j caller := by
  have hset (c : Caller) : (r.setCaller j c).setCaller j caller = r.setCaller j caller :=
    congrArg (Race.mk r.warehouse r.attempts) (List.set_set _)
  unfold Race.onCaller
  split
  · split
    · exact hset _
    · rfl
  · exact hset _
  · rfl

theorem arrive_setCaller (hj : j < r.callers.length) :
    (r.setCaller j caller).arrive = r.arrive.setCaller j caller := by
  have happend (c : Caller) : (r.callers.set j caller) ++ [c] = (r.callers ++ [c]).set j caller :=
    (List.set_append_left j caller hj).symm
  have hpending : (r.setCaller j caller).pending? = r.pending? := rfl
  have hwarehouse : (r.setCaller j caller).warehouse = r.warehouse := rfl
  unfold Race.arrive Race.join
  rw [hpending, hwarehouse]
  split
  · exact congrArg (Race.mk r.warehouse r.attempts) (happend _)
  · split
    · exact congrArg (Race.mk r.warehouse r.attempts) (happend _)
    · exact congrArg (Race.mk r.warehouse (r.attempts ++ [.start])) (happend _)

end Leaving

/-- No caller is forgotten. -/
theorem Passage.callers_length_le (h : Passage s r m next) :
    r.callers.length ≤ next.callers.length := by
  cases h with
  | idle | deals | drops => exact Nat.le_refl _
  | joins | begins =>
    show r.callers.length ≤ (r.callers ++ [_]).length
    rw [List.length_append]
    exact Nat.le_add_right _ _
  | tells | leaves => exact Nat.le_of_eq List.length_set.symm
  | stops | closes => exact Nat.le_of_eq (congrArg List.length (stop_callers r)).symm

/-- A caller that does not wait makes no difference to anything else. -/
theorem pass_setCaller (s : Service) (m : Moment) {told : Except Failure Unit}
    (hj : j < r.callers.length) :
    (r.setCaller j (.left told)).pass s m = (r.pass s m).setCaller j (.left told) := by
  have hself : (r.setCaller j (.left told)).callers[j]? = some (.left told) :=
    List.getElem?_set_self hj
  have hother {k : Nat} (hk : k ≠ j) :
      (r.setCaller j (.left told)).callers[k]? = r.callers[k]? :=
    List.getElem?_set_ne (Ne.symm hk)
  cases m with
  | drop c => rfl
  | event e =>
    show (r.setCaller j (.left told)).step s e = (r.step s e).setCaller j (.left told)
    unfold Race.step
    cases e with
    | arrive => exact arrive_setCaller r j _ hj
    | stop => exact stop_setCaller r j _
    | close =>
      show Race.close _ = (Race.close _).setCaller j _
      unfold Race.close
      rw [stop_setCaller]
      rfl
    | wake k | leave k =>
      dsimp only
      by_cases hk : k = j
      · subst hk
        rw [hself]
        rcases r.callers[k]? with - | other
        · rfl
        · exact (setCaller_onCaller r k _ other _).symm
      · rw [hother hk]
        split
        · exact onCaller_setCaller r j _ hk _ _
        · rfl
    | start i | enter i | answer i | handOver i | notify i | command i | resume i | expire i =>
      dsimp only
      have hplace : (r.setCaller j (.left told)).attempts[i]? = r.attempts[i]? := rfl
      rw [hplace]
      split
      · exact onAttempt_setCaller s r i j _ _ _
      · rfl

/-- So it is for any number of moments. -/
theorem after_setCaller (s : Service) (moments : List Moment) {told : Except Failure Unit}
    (hj : j < r.callers.length) :
    (r.setCaller j (.left told)).after s moments =
      (r.after s moments).setCaller j (.left told) := by
  induction moments generalizing r with
  | nil => rfl
  | cons m moments ih =>
    have hstill : j < (r.pass s m).callers.length :=
      Nat.lt_of_lt_of_le hj (pass_passage s r m).callers_length_le
    show ((r.setCaller j (.left told)).pass s m).after s moments = _
    rw [pass_setCaller s m hj]
    exact ih hstill

/-- **One attempt at a time**, at every moment of a race with any number of callers.

An attempt that is not over is the pending one. The connector is asked at most once for each
attempt, and for nothing else. A new attempt is begun only by a caller that finds no open connection
and no pending attempt; one that finds a pending attempt joins it and changes nothing else. A caller
that waits for an attempt, and does not go away, waits on or is told the result of this attempt; it
is told when it wakes up and the attempt is over. When it goes away, nothing else changes, neither
at once nor later. -/
theorem single_flight (s : Service) (w : Warehouse) (moments : List Moment) :
    let r := Race.after s (.start w) moments
    let asked := Race.askers s (.start w) moments
    (∀ i a, r.attempts[i]? = some a → a.isOver = false → r.pending? = some i) ∧
    (asked.Nodup ∧ (∀ i ∈ asked, i < r.attempts.length) ∧
      r.warehouse.logins = w.logins + asked.length) ∧
    (∀ m, (r.pass s m).attempts.length = r.attempts.length ∨
      m = .event .arrive ∧ r.pending? = none ∧ r.warehouse.isConnected = false ∧
        (r.pass s m).attempts = r.attempts ++ [.start]) ∧
    (∀ i, r.pending? = some i → r.warehouse.isConnected = false →
      r.step s .arrive = { r with callers := r.callers ++ [.waiting i] }) ∧
    ∀ i j, r.callers[j]? = some (.waiting i) →
      (∀ later, .event (.leave j) ∉ later → (r.after s later).Serves i j) ∧
      (∀ later result, r.result? i = some result → .event (.wake j) ∈ later →
        .event (.leave j) ∉ later → (r.after s later).callers[j]? = some (.left result)) ∧
      ∀ later, (r.step s (.leave j)).after s later =
        (r.after s later).setCaller j (.left (.error .cancelled)) := by
  intro r asked
  have hsingle : Single r := (Single.start w).after s moments
  obtain ⟨hasked, hlogins⟩ := Asked.after (r := .start w) ⟨List.nodup_nil, by simp⟩ s moments
  refine ⟨fun i a ha => hsingle.pending? ha, ⟨hasked.nodup, fun i hi => ?_, hlogins⟩,
    fun m => (pass_passage s r m).length_cases, fun i hpending hconnected => ?_,
    fun i j hj => ⟨fun later => ?_, fun later result hresult => ?_, fun later => ?_⟩⟩
  · obtain ⟨a, ha, -⟩ := hasked.mem i hi
    exact (List.getElem?_eq_some_iff.mp ha).1
  · show r.arrive = _
    unfold Race.arrive Race.join
    rw [hpending, hconnected]
    rfl
  · exact Race.Serves.after (Or.inl hj) s
  · exact Race.Serves.told (Or.inl hj) s hresult
  · have hleave : r.step s (.leave j) = r.setCaller j (.left (.error .cancelled)) := by
      unfold Race.step
      dsimp only
      rw [hj]
      rfl
    rw [hleave]
    exact after_setCaller s later (List.getElem?_eq_some_iff.mp hj).1

/-- Three callers share an attempt, and the first one goes away before it is over. -/
def forsaken : List Moment :=
  (Event.arrive :: Event.arrive :: Event.arrive :: Event.leave 0 :: Race.straight welcoming 0).map
    .event

/-- The other two are told that they are connected, after one login. When the second one goes away
as well, the third one is told all the same. -/
theorem single_flight_forsaken :
    let r := Race.after welcoming (.start .start) forsaken
    r.attempts.length = 1 ∧ r.warehouse.logins = 1 ∧
      (r.after welcoming [.event (.wake 2), .event (.wake 1)]).callers[1]? =
        some (.left (.ok ())) ∧
      ((r.step welcoming (.leave 1)).after welcoming [.event (.wake 2)]).callers[2]? =
        some (.left (.ok ())) := by
  intro r
  obtain ⟨-, ⟨-, -, hlogins⟩, -, -, hcallers⟩ := single_flight welcoming .start forsaken
  have hlogins : r.warehouse.logins = 0 + 1 := hlogins
  have hresult : r.result? 0 = some (.ok ()) := rfl
  obtain ⟨-, htold, hleave⟩ := hcallers 0 1 rfl
  obtain ⟨-, hlast, -⟩ := hcallers 0 2 rfl
  refine ⟨rfl, hlogins, htold _ _ hresult (by simp) (by simp), ?_⟩
  rw [hleave]
  exact (List.getElem?_set_ne (by decide)).trans (hlast _ _ hresult (by simp) (by simp))

end AskTable.Warehouse
