import AskTable.Warehouse.Login

/-!
# Logins that are given up

A worker is answered by the connector and then hands over what it got. Before that, after it and in
between the login may be given up, any number of times. However the steps of the two sides follow
one another, the connection is closed once if the login was given up, and not at all otherwise.

* `Step.isWorkers`: the steps of the worker; all other steps give the login up.
* `Remains`: what the worker has still to do; `Remains.run`: it gets done.
* `Fate`: what has become of the answer of the connector; `Fate.step`, `Fate.run`.
* `run_closes_once`: what becomes of it when everybody is done.
-/

namespace AskTable.Warehouse.Login

/-- Is this a step of the worker? -/
def Step.isWorkers : Step → Bool
  | .answer _ | .handOver => true
  | .abandon => false

/-! ## What the worker does -/

/-- The steps that a worker has still to do. -/
inductive Remains : Worker → List Step → Prop
  | everything (result : Except Failure Nat) : Remains .ready [.answer result, .handOver]
  | handOver (result : Except Failure Nat) : Remains (.answered result) [.handOver]
  | nothing (given : Except Failure (Option Nat)) : Remains (.finished given) []

variable {l : Login} {result : Except Failure Nat} {closed : List Nat} {steps : List Step}

/-- Handing over is the last step of a worker. -/
theorem exists_finished_handOver (h : l.worker = .answered result) :
    ∃ given, l.handOver.1.worker = .finished given := by
  unfold handOver
  rw [h]
  cases result with
  | error failure => exact ⟨_, rfl⟩
  | ok c =>
    show ∃ given, (if l.abandoned then _ else _ : Login × Option Nat).1.worker = .finished given
    split
    · exact ⟨_, rfl⟩
    · exact ⟨_, rfl⟩

/-- **One step** brings the worker further, or leaves it where it is. -/
theorem Remains.step {e : Step} (h : Remains l.worker ((e :: steps).filter Step.isWorkers)) :
    Remains (l.step e).1.worker (steps.filter Step.isWorkers) := by
  cases e with
  | abandon => exact h
  | answer given =>
    rw [List.filter_cons_of_pos rfl] at h
    generalize hworker : l.worker = worker at h
    generalize hrest : steps.filter Step.isWorkers = rest at h
    cases h
    have hanswer : (l.answer given).worker = .answered given := by
      rw [answer, hworker]
    show Remains (l.answer given).worker _
    rw [hanswer]
    exact .handOver given
  | handOver =>
    rw [List.filter_cons_of_pos rfl] at h
    generalize hworker : l.worker = worker at h
    generalize hrest : steps.filter Step.isWorkers = rest at h
    cases h
    obtain ⟨given, hfinished⟩ := exists_finished_handOver hworker
    show Remains l.handOver.1.worker _
    rw [hfinished]
    exact .nothing given

/-- **After all steps** the worker is finished. -/
theorem Remains.run (h : Remains l.worker (steps.filter Step.isWorkers)) :
    ∃ given, (l.run steps).1.worker = .finished given := by
  induction steps generalizing l with
  | nil =>
    generalize hworker : l.worker = worker at h
    cases h
    exact ⟨_, hworker⟩
  | cons e steps ih => exact ih h.step

/-! ## Giving up -/

theorem step_abandoned (l : Login) (e : Step) :
    (l.step e).1.abandoned = true ↔ l.abandoned = true ∨ e = .abandon := by
  cases e with
  | abandon => simp [step, abandon]
  | answer given =>
    have hsame : (l.answer given).abandoned = l.abandoned := by
      unfold answer
      split <;> rfl
    simp [step, hsame]
  | handOver =>
    have hsame : l.handOver.1.abandoned = l.abandoned := by
      unfold handOver
      split
      · rfl
      · split <;> rfl
      · rfl
    simp [step, hsame]

/-- A login counts as given up when somebody gave it up. -/
theorem run_abandoned (l : Login) (steps : List Step) :
    (l.run steps).1.abandoned = true ↔ l.abandoned = true ∨ .abandon ∈ steps := by
  induction steps generalizing l with
  | nil => simp [run]
  | cons e steps ih =>
    show ((l.step e).1.run steps).1.abandoned = true ↔ _
    rw [ih, step_abandoned, List.mem_cons, or_assoc, eq_comm (a := e)]

/-! ## What becomes of the connection -/

/-- What has become of the answer of the connector, and which connections were closed. -/
inductive Fate (result : Except Failure Nat) : Login → List Nat → Prop
  | awaited (gone : Bool) : Fate result ⟨.ready, gone, none⟩ []
  /-- The worker has it. -/
  | answered (gone : Bool) : Fate result ⟨.answered result, gone, none⟩ []
  /-- There is no connection. -/
  | failed {failure : Failure} (gone : Bool) : result = .error failure →
      Fate result ⟨.finished (.error failure), gone, none⟩ []
  /-- The connection was handed over and is held. -/
  | held {c : Nat} : result = .ok c → Fate result ⟨.finished (.ok (some c)), false, some c⟩ []
  /-- It was closed, before or after it was handed over, and nobody holds it. -/
  | closed {c : Nat} (given : Option Nat) : result = .ok c →
      Fate result ⟨.finished (.ok given), true, none⟩ [c]

theorem Fate.abandon (h : Fate result l closed) :
    Fate result l.abandon.1 (closed ++ l.abandon.2.toList) := by
  cases h with
  | awaited => exact .awaited true
  | answered => exact .answered true
  | failed _ hresult => exact .failed true hresult
  | held hresult => exact .closed _ hresult
  | closed given hresult => exact .closed given hresult

theorem Fate.handOver (h : Fate result l closed) :
    Fate result l.handOver.1 (closed ++ l.handOver.2.toList) := by
  cases h with
  | awaited gone => exact .awaited gone
  | answered gone =>
    cases hresult : result with
    | error failure => exact .failed gone rfl
    | ok c =>
      cases gone with
      | false => exact .held rfl
      | true => exact .closed none rfl
  | failed gone hresult => exact .failed gone hresult
  | held hresult => exact .held hresult
  | closed given hresult => exact .closed given hresult

theorem Fate.answer (h : Fate result l closed) : Fate result (l.answer result) closed := by
  cases h with
  | awaited gone => exact .answered gone
  | answered gone => exact .answered gone
  | failed gone hresult => exact .failed gone hresult
  | held hresult => exact .held hresult
  | closed given hresult => exact .closed given hresult

/-- **One step.** -/
theorem Fate.step (h : Fate result l closed) {e : Step}
    (he : ∀ given, e = .answer given → given = result) :
    Fate result (l.step e).1 (closed ++ (l.step e).2.toList) := by
  cases e with
  | answer given =>
    obtain rfl := he given rfl
    show Fate given (l.answer given) (closed ++ [])
    rw [List.append_nil]
    exact h.answer
  | handOver => exact h.handOver
  | abandon => exact h.abandon

/-- **Any number of steps**, in which the connector gives one answer. -/
theorem Fate.run (h : Fate result l closed)
    (hsteps : ∀ given, .answer given ∈ steps → given = result) :
    Fate result (l.run steps).1 (closed ++ (l.run steps).2) := by
  induction steps generalizing l closed with
  | nil =>
    show Fate result l (closed ++ [])
    rwa [List.append_nil]
  | cons e steps ih =>
    have hfirst : Fate result (l.step e).1 (closed ++ (l.step e).2.toList) := by
      refine h.step fun given he => hsteps given ?_
      rw [he]
      exact List.mem_cons_self
    have hrest := ih hfirst fun given hgiven => hsteps given (List.mem_cons_of_mem e hgiven)
    rwa [List.append_assoc] at hrest

/-- **A login that is given up closes its connection once.** The worker is answered and then hands
over, and others give the login up before, between or after these two steps. When all are done, the
worker is finished. If the login was given up, the connection was closed once, if there was one, and
nothing else was closed, and nobody holds it any more. If it was not given up, nothing was closed,
and the worker returns what the connector answered. -/
theorem run_closes_once (h : steps.filter Step.isWorkers = [.answer result, .handOver]) :
    (∃ given, (start.run steps).1.worker = .finished given) ∧
    (.abandon ∈ steps → (start.run steps).2 = result.toOption.toList ∧
      (start.run steps).1.held = none) ∧
    (.abandon ∉ steps → (start.run steps).2 = [] ∧
      (start.run steps).1.worker = .finished (result.map some) ∧
      (start.run steps).1.held = result.toOption) := by
  have hanswers : ∀ given, .answer given ∈ steps → given = result := by
    intro given hgiven
    have hmem : .answer given ∈ steps.filter Step.isWorkers := List.mem_filter.mpr ⟨hgiven, rfl⟩
    rw [h] at hmem
    simpa using hmem
  have hremains : Remains start.worker (steps.filter Step.isWorkers) := by
    rw [h]
    exact .everything result
  have hfinished := hremains.run
  have hgone : (start.run steps).1.abandoned = true ↔ .abandon ∈ steps := by
    rw [run_abandoned]
    exact or_iff_right Bool.false_ne_true
  have hfate : Fate result (start.run steps).1 (start.run steps).2 :=
    (Fate.awaited false).run hanswers
  refine ⟨hfinished, ?_⟩
  rw [← hgone]
  generalize (start.run steps).1 = l, (start.run steps).2 = closed at hfate hfinished ⊢
  cases hfate with
  | awaited => cases hfinished with | intro _ hworker => cases hworker
  | answered => cases hfinished with | intro _ hworker => cases hworker
  | failed gone hresult =>
    subst hresult
    exact ⟨fun _ => ⟨rfl, rfl⟩, fun _ => ⟨rfl, rfl, rfl⟩⟩
  | held hresult =>
    subst hresult
    exact ⟨fun hyes => absurd hyes Bool.false_ne_true, fun _ => ⟨rfl, rfl, rfl⟩⟩
  | closed given hresult =>
    subst hresult
    exact ⟨fun _ => ⟨rfl, rfl⟩, fun hnot => absurd rfl hnot⟩

/-- The login is given up while the worker has its connection, and once more after that. -/
def overlapping : List Step := [.answer (.ok 3), .abandon, .handOver, .abandon]

/-- The connection is handed over first, and then given up twice. -/
def outrun : List Step := [.answer (.ok 3), .handOver, .abandon, .abandon]

/-- On either way the connection is closed once. -/
theorem run_closes_once_overlapping :
    overlapping.filter Step.isWorkers = [.answer (.ok 3), .handOver] ∧
      (start.run overlapping).2 = [3] ∧ (start.run overlapping).1.held = none ∧
      outrun.filter Step.isWorkers = [.answer (.ok 3), .handOver] ∧
      (start.run outrun).2 = [3] ∧ (start.run outrun).1.held = none := by
  have hoverlapping : overlapping.filter Step.isWorkers = [.answer (.ok 3), .handOver] := rfl
  have houtrun : outrun.filter Step.isWorkers = [.answer (.ok 3), .handOver] := rfl
  have hfirst := (run_closes_once hoverlapping).2.1 (by simp [overlapping])
  have hsecond := (run_closes_once houtrun).2.1 (by simp [outrun])
  exact ⟨hoverlapping, hfirst.1, hfirst.2, houtrun, hsecond.1, hsecond.2⟩

end AskTable.Warehouse.Login
