import AskTable.Proofs.Traffic

/-!
# The name of the active warehouse

A name is noted when a warehouse can be used, and it stays when a connection is shut and another one
takes its place. So the name that is noted was found on the latest connection that had any.

* `Call`, `run`: the warehouse after one call after another.
* `Finds`: what the activations of a run found, connection by connection; `exists_finds` and
  `Finds.unique`: every run has exactly one such list.
* `Progress`: what a call does, as far as connections and names go; `perform_progress`.
* `Recorded`: what the list tells of the warehouse; `Finds.recorded` for every run.
* `run_active_iff`: the name that is noted is the one that was found on the connection in use,
  exactly when a name was found there or none was noted before. This holds of the name that a
  successful connecting reports, too.
-/

namespace AskTable

open AskTable.Warehouse

namespace Warehouse

open AskTable.Warehouse.Activation

/-! ## Runs of calls -/

/-- What is asked of a warehouse, or done by the other side. -/
inductive Call where
  | connect
  | describe
  | execute (command : Command)
  | close
  /-- The other side shuts a connection. -/
  | drop (connection : Nat)

/-- The warehouse after a call. -/
def Call.perform (s : Service) (w : Warehouse) : Call → Warehouse
  | .connect => (Warehouse.connect s w).2
  | .describe => (Warehouse.describe s w).2
  | .execute command => (send s command w).2
  | .close => w.close
  | .drop c => w.shut c

/-- The warehouse after some calls, the latest of them first, each with a service of its own. -/
def run : List (Service × Call) → Warehouse
  | [] => .start
  | (s, call) :: earlier => call.perform s (run earlier)

/-- What the activation on each connection of a run found. -/
inductive Finds : List (Service × Call) → List (Option Cell) → Prop
  | nothing : Finds [] []
  /-- A call makes no connection. -/
  | kept {s : Service} {call : Call} {earlier : List (Service × Call)}
      {finds : List (Option Cell)} : Finds earlier finds →
      (run ((s, call) :: earlier)).connections.length = (run earlier).connections.length →
      Finds ((s, call) :: earlier) finds
  /-- A call makes a connection, and this is what the activation on it finds. -/
  | made {s : Service} {call : Call} {earlier : List (Service × Call)}
      {finds : List (Option Cell)} {ds : List Delivery} {found : Option Cell} :
      Finds earlier finds →
      (run ((s, call) :: earlier)).connections.length = (run earlier).connections.length + 1 →
      Activates s (run earlier).connections.length (run earlier).sent.length ds found →
      Finds ((s, call) :: earlier) (finds ++ [found])

/-! ## Activations and their finds -/

theorem Tries.unique {k : Connector} {c n : Nat} {names : List Cell} {ds es : List Delivery}
    {found other : Option Cell} (h : Tries k c n names ds found)
    (h' : Tries k c n names es other) : ds = es ∧ found = other := by
  induction h generalizing es with
  | none =>
    cases h'
    exact ⟨rfl, rfl⟩
  | used hr =>
    cases h' with
    | used => exact ⟨rfl, rfl⟩
    | passed hr' => simp [hr] at hr'
  | passed hr _ ih =>
    cases h' with
    | used hr' => simp [hr] at hr'
    | passed _ ht =>
      obtain ⟨rfl, rfl⟩ := ih ht
      exact ⟨rfl, rfl⟩

/-- The replies decide what an activation sends and finds. -/
theorem Activates.unique {s : Service} {c n : Nat} {ds es : List Delivery}
    {found other : Option Cell} (h : Activates s c n ds found) (h' : Activates s c n es other) :
    ds = es ∧ found = other := by
  cases h with
  | unlisted hr ht =>
    cases h' with
    | unlisted _ ht' =>
      obtain ⟨rfl, rfl⟩ := ht.unique ht'
      exact ⟨rfl, rfl⟩
    | empty hr' => simp [hr] at hr'
    | listed hr' => simp [hr] at hr'
  | empty hr =>
    cases h' with
    | unlisted hr' => simp [hr] at hr'
    | empty => exact ⟨rfl, rfl⟩
    | listed hr' => simp [hr] at hr'
  | listed hr ht =>
    cases h' with
    | unlisted hr' => simp [hr] at hr'
    | empty hr' => simp [hr] at hr'
    | listed hr' ht' =>
      rw [hr] at hr'
      cases hr'
      obtain ⟨rfl, rfl⟩ := ht.unique ht'
      exact ⟨rfl, rfl⟩

theorem Tries.accepted_iff {k : Connector} {c n : Nat} {names : List Cell} {ds : List Delivery}
    {found : Option Cell} (h : Tries k c n names ds found) {d : Delivery} :
    d ∈ ds ∧ d.accepted = true ↔ ∃ name, found = some name ∧ d = ⟨c, useCommand name, true⟩ := by
  induction h with
  | none => simp
  | used hr =>
    constructor
    · rintro ⟨hd, -⟩
      exact ⟨_, rfl, List.mem_singleton.mp hd⟩
    · rintro ⟨name, hname, rfl⟩
      cases hname
      exact ⟨List.mem_singleton_self _, rfl⟩
  | passed hr ht ih =>
    rw [← ih, List.mem_cons]
    constructor
    · rintro ⟨rfl | hd, ha⟩
      · cases ha
      · exact ⟨hd, ha⟩
    · rintro ⟨hd, ha⟩
      exact ⟨Or.inr hd, ha⟩

/-- Apart from the list of warehouses, an activation has a command accepted exactly when it finds a
name, and then this is the use of the warehouse of that name. -/
theorem Activates.accepted_iff {s : Service} {c n : Nat} {ds : List Delivery}
    {found : Option Cell} (h : Activates s c n ds found) {d : Delivery}
    (hd : d.command ≠ listCommand) :
    d ∈ ds ∧ d.accepted = true ↔ ∃ name, found = some name ∧ d = ⟨c, useCommand name, true⟩ := by
  have hlist (accepted : Bool) : d ≠ ⟨c, listCommand, accepted⟩ := by
    rintro rfl
    exact hd rfl
  cases h with
  | unlisted _ ht =>
    rw [← ht.accepted_iff, List.mem_cons, or_iff_right (hlist _)]
  | empty =>
    simp [hlist]
  | listed _ ht =>
    rw [← ht.accepted_iff, List.mem_cons, or_iff_right (hlist _)]

theorem useCommand_ne_listCommand (name : Cell) : useCommand name ≠ listCommand := by
  intro h
  simp only [useCommand, listCommand, Command.plain, Command.mk.injEq, Cell.text.injEq,
    and_true] at h
  have htexts := congrArg String.toList h
  rw [String.toList_append] at htexts
  exact absurd (congrArg List.head? htexts) (by simp)

/-- An activation on a connection stands in what was sent, and it found this. -/
def ActivatedOn (w : Warehouse) (c : Nat) (found : Option Cell) : Prop :=
  ∃ s before ds after, w.sent = before ++ ds ++ after ∧ Activates s c before.length ds found

/-- The use of the name that was found was accepted on this connection. -/
theorem ActivatedOn.used {w : Warehouse} {c : Nat} {name : Cell}
    (h : ActivatedOn w c (some name)) : ⟨c, useCommand name, true⟩ ∈ w.sent := by
  obtain ⟨s, before, ds, after, hsent, ha⟩ := h
  have hused := (ha.accepted_iff (useCommand_ne_listCommand name)).mpr ⟨name, rfl, rfl⟩
  rw [hsent]
  exact List.mem_append_left _ (List.mem_append_right _ hused.1)

/-! ## What a call does -/

/-- What a call does, as far as connections and names go. -/
inductive Progress (s : Service) (w : Warehouse) : Warehouse → Prop
  /-- No connection is made, and the name that is noted stays. -/
  | kept {v : Warehouse} : v.connections.length = w.connections.length → v.active = w.active →
      (v.current = w.current ∨ v.current = none) → w.sent <+: v.sent → Progress s w v
  /-- A connection is made and activated, and more may be sent on it. -/
  | made {ds es : List Delivery} {found : Option Cell} :
      Activates s w.connections.length w.sent.length ds found →
      Progress s w (((w.joined s).activated ds found).deliver es)

variable {s : Service} {w v : Warehouse}

theorem Progress.deliver (h : Progress s w v) (ds : List Delivery) :
    Progress s w (v.deliver ds) := by
  cases h with
  | kept hconnections hactive hcurrent hsent =>
    exact .kept hconnections hactive hcurrent (hsent.trans (List.prefix_append _ ds))
  | made ha =>
    rw [deliver_deliver]
    exact .made ha

theorem Progress.refl (s : Service) (w : Warehouse) : Progress s w w :=
  .kept rfl rfl (Or.inl rfl) List.prefix_rfl

theorem connect_progress (hk : s.connector.Reports) (w : Warehouse) :
    Progress s w (connect s w).2 := by
  rw [connect]
  by_cases hopen : w.isConnected = true
  · rw [if_pos hopen]
    exact .refl s w
  · rw [if_neg hopen]
    by_cases hr : Ready s
    · rcases hl : s.connector.login w.logins with fault | done
      · rw [establish_of_error hr hl]
        exact .kept rfl rfl (Or.inl rfl) List.prefix_rfl
      · obtain ⟨ds, found, ha, heq⟩ := activate_eq (w := w.joined s) hk.reply rfl
        rw [establish_of_ok hr hl, heq, ← deliver_nil (activated ds found (w.joined s))]
        exact .made ha
    · obtain ⟨failure, hf⟩ := establish_of_not_ready hr w
      rw [hf]
      exact .refl s w

theorem describe_progress (hk : s.connector.Reports) (w : Warehouse) :
    Progress s w (describe s w).2 := by
  have hensure : Progress s w (ensureConnected s w).2 := by
    rw [ensureConnected]
    split
    · exact connect_progress hk w
    · exact .refl s w
  rw [describe]
  rcases he : ensureConnected s w with ⟨failure | done, v⟩
  · rw [he] at hensure
    exact hensure
  · rw [he] at hensure
    obtain ⟨ds, hds⟩ := send_frame s (catalogCommand s.config.schema) v
    simp only [hds]
    exact hensure.deliver ds

/-- Every call makes progress. -/
theorem perform_progress (hk : s.connector.Reports) (w : Warehouse) (call : Call) :
    Progress s w (call.perform s w) := by
  cases call with
  | connect => exact connect_progress hk w
  | describe => exact describe_progress hk w
  | execute command =>
    obtain ⟨ds, hds⟩ := send_frame s command w
    rw [Call.perform, hds]
    exact (Progress.refl s w).deliver ds
  | close =>
    rw [Call.perform, Warehouse.close]
    split
    · exact .refl s w
    · exact .kept (List.length_set ..) rfl (Or.inr rfl) List.prefix_rfl
  | drop c =>
    exact .kept (List.length_set ..) rfl (Or.inl rfl) List.prefix_rfl

/-! ## What the finds of a run tell -/

/-- The last name that was found. -/
def lastFound (finds : List (Option Cell)) : Option Cell := finds.reverse.findSome? id

theorem lastFound_append (finds : List (Option Cell)) (found : Option Cell) :
    lastFound (finds ++ [found]) = found.or (lastFound finds) := by
  rw [lastFound, List.reverse_append, List.reverse_singleton, List.singleton_append,
    List.findSome?_cons]
  cases found <;> rfl

/-- A list of finds has one for each connection, the newest connection is the one in use if any is,
and the name that is noted is the last one that was found. -/
structure Recorded (finds : List (Option Cell)) (w : Warehouse) : Prop where
  length : finds.length = w.connections.length
  current : ∀ c, w.current = some c → c + 1 = finds.length
  active : w.active = (lastFound finds).getD .null
  sent : ∀ c found, finds[c]? = some found → ActivatedOn w c found

theorem ActivatedOn.of_sent {c : Nat} {found : Option Cell} (h : ActivatedOn w c found)
    (hsent : w.sent <+: v.sent) : ActivatedOn v c found := by
  obtain ⟨s, before, ds, after, hw, ha⟩ := h
  obtain ⟨es, hes⟩ := hsent
  exact ⟨s, before, ds, after ++ es, by rw [← hes, hw, List.append_assoc], ha⟩

theorem Recorded.start : Recorded [] .start :=
  ⟨rfl, by simp [Warehouse.start], rfl, by simp⟩

theorem Recorded.kept {finds : List (Option Cell)} (h : Recorded finds w)
    (hp : Progress s w v) (hlength : v.connections.length = w.connections.length) :
    Recorded finds v := by
  cases hp with
  | kept _ hactive hcurrent hsent =>
    refine ⟨h.length.trans hlength.symm, fun c hc => ?_, hactive.trans h.active,
      fun c found hf => (h.sent c found hf).of_sent hsent⟩
    rcases hcurrent with hw | hnone
    · exact h.current c (hw ▸ hc)
    · rw [hnone] at hc
      cases hc
  | made =>
    simp [Warehouse.deliver, activated, joined] at hlength

theorem Recorded.made {finds : List (Option Cell)} {ds : List Delivery} {found : Option Cell}
    (h : Recorded finds w) (hp : Progress s w v)
    (hlength : v.connections.length = w.connections.length + 1)
    (ha : Activates s w.connections.length w.sent.length ds found) :
    Recorded (finds ++ [found]) v := by
  cases hp with
  | kept hsame => omega
  | @made ds' es found' ha' =>
    obtain ⟨rfl, rfl⟩ := ha.unique ha'
    have hsent : (((w.joined s).activated ds found).deliver es).sent = w.sent ++ (ds ++ es) :=
      List.append_assoc ..
    refine ⟨?_, fun c hc => ?_, ?_, fun c other hc => ?_⟩
    · rw [List.length_append, h.length]
      exact hlength.symm
    · cases hc
      rw [List.length_append, h.length]
      rfl
    · rw [lastFound_append]
      have hactive : (((w.joined s).activated ds found).deliver es).active =
          found.getD w.active := rfl
      rw [hactive, h.active]
      cases found <;> rfl
    · by_cases hlt : c < finds.length
      · rw [List.getElem?_append_left hlt] at hc
        exact (h.sent c other hc).of_sent ⟨ds ++ es, hsent.symm⟩
      · -- the find that was added is the one on the new connection
        have hceq : c = finds.length := by
          have := (List.getElem?_eq_some_iff.mp hc).1
          rw [List.length_append, List.length_singleton] at this
          omega
        subst hceq
        rw [List.getElem?_append_right (Nat.le_refl _), Nat.sub_self] at hc
        cases hc
        exact ⟨s, w.sent, ds, es, hsent.trans (List.append_assoc ..).symm, h.length ▸ ha⟩

variable {calls : List (Service × Call)}

/-- Every run of calls has a list of finds. -/
theorem exists_finds (hk : ∀ e ∈ calls, e.1.connector.Reports) : ∃ finds, Finds calls finds := by
  induction calls with
  | nil => exact ⟨[], .nothing⟩
  | cons e earlier ih =>
    obtain ⟨s, call⟩ := e
    obtain ⟨finds, hf⟩ := ih fun e he => hk e (List.mem_cons_of_mem _ he)
    have hp := perform_progress (hk _ List.mem_cons_self) (run earlier) call
    generalize hv : call.perform s (run earlier) = v at hp
    cases hp with
    | kept hlength => exact ⟨finds, .kept hf (by rw [run, hv, hlength])⟩
    | made ha =>
      refine ⟨_, .made hf ?_ ha⟩
      rw [run, hv]
      simp [Warehouse.deliver, activated, joined]

/-- A run has only one list of finds. -/
theorem Finds.unique {finds others : List (Option Cell)} (h : Finds calls finds)
    (h' : Finds calls others) : finds = others := by
  induction h generalizing others with
  | nothing =>
    cases h'
    rfl
  | kept _ hlength ih =>
    cases h' with
    | kept hf => exact ih hf
    | made _ hmore => omega
  | made _ hlength ha ih =>
    cases h' with
    | kept _ hsame => omega
    | made hf _ ha' => rw [ih hf, (ha.unique ha').2]

/-- The finds of a run tell which name is noted. -/
theorem Finds.recorded {finds : List (Option Cell)} (h : Finds calls finds)
    (hk : ∀ e ∈ calls, e.1.connector.Reports) : Recorded finds (run calls) := by
  induction h with
  | nothing => exact .start
  | kept _ hlength ih =>
    have hrecorded := ih fun e he => hk e (List.mem_cons_of_mem _ he)
    exact hrecorded.kept (perform_progress (hk _ List.mem_cons_self) _ _) hlength
  | made _ hlength ha ih =>
    have hrecorded := ih fun e he => hk e (List.mem_cons_of_mem _ he)
    exact hrecorded.made (perform_progress (hk _ List.mem_cons_self) _ _) hlength ha

/-- The connection in use after a run, with what the activations on all connections found and what
the one on this connection sent. -/
structure InUse (calls : List (Service × Call)) (c : Nat) (finds : List (Option Cell))
    (found : Option Cell) : Prop where
  current : (run calls).current = some c
  all : Finds calls finds
  here : finds[c]? = some found
  sent : ActivatedOn (run calls) c found
  used : ∀ name, found = some name → ⟨c, useCommand name, true⟩ ∈ (run calls).sent

/-- The name that is noted is the one found on the connection in use, exactly unless nothing was
found there and a name was found on an earlier one. -/
theorem exists_inUse (hk : ∀ e ∈ calls, e.1.connector.Reports) {c : Nat}
    (hc : (run calls).current = some c) :
    ∃ finds found, InUse calls c finds found ∧
      ((run calls).active = found.getD .null ↔
        (found = none → (lastFound finds).getD .null = .null)) := by
  obtain ⟨finds, hf⟩ := exists_finds hk
  have hrecorded := hf.recorded hk
  have hlast := hrecorded.current c hc
  have hne : finds ≠ [] := List.ne_nil_of_length_pos (by omega)
  obtain ⟨earlier, found, rfl⟩ : ∃ earlier found, finds = earlier ++ [found] :=
    ⟨finds.dropLast, finds.getLast hne, (List.dropLast_concat_getLast hne).symm⟩
  have hhere : (earlier ++ [found])[c]? = some found := by
    rw [List.length_append, List.length_singleton] at hlast
    have hce : c = earlier.length := by omega
    rw [hce, List.getElem?_concat_length]
  have hsent := hrecorded.sent c found hhere
  have hused : ∀ name, found = some name → ⟨c, useCommand name, true⟩ ∈ (run calls).sent := by
    rintro name rfl
    exact hsent.used
  refine ⟨earlier ++ [found], found, ⟨hc, hf, hhere, hsent, hused⟩, ?_⟩
  rw [hrecorded.active, lastFound_append]
  cases found with
  | none => simp
  | some name => simp

/-- After a successful connecting the connection in use is open. -/
theorem isConnected_of_connect (h : (connect s w).1 = .ok ()) :
    (connect s w).2.isConnected = true := by
  rw [connect] at h ⊢
  by_cases hopen : w.isConnected = true
  · rw [if_pos hopen]
    exact hopen
  · rw [if_neg hopen] at h ⊢
    by_cases hr : Ready s
    · rcases hl : s.connector.login w.logins with fault | done
      · rw [establish_of_error hr hl] at h
        cases h
      · obtain ⟨ds, found, hframe⟩ := activate_frame s (w.joined s)
        rw [establish_of_ok hr hl, hframe]
        simp [isConnected, isOpen, activated, Warehouse.deliver, joined]
    · obtain ⟨failure, hf⟩ := establish_of_not_ready hr w
      rw [hf] at h
      cases h

end Warehouse

namespace Assistant

/-- A successful connecting reports the name that is noted. -/
theorem connectRemote_eq_connected {s : Setup} {a b : Assistant} {name : Cell}
    (h : a.connectRemote s = (.ok (.connected name), b)) :
    (connect s.service a.warehouse).1 = .ok () ∧
      b.warehouse = (connect s.service a.warehouse).2 ∧ b.warehouse.active = name := by
  rcases hc : connect s.service a.warehouse with ⟨failure | done, w⟩
  · simp only [connectRemote, hc, reportConnect, refusal] at h
    split at h
    · split at h <;> cases h
    · cases h
  · simp only [connectRemote, hc, reportConnect] at h
    cases h
    exact ⟨rfl, rfl, rfl⟩

variable {calls : List (Service × Call)}

/-- **The name of the active warehouse** after any calls, with connectors that report their errors.
The name that is noted is the one that the activation on the connection in use has found, exactly
when it has found one or none was noted before. It is the same with the name that a successful
connecting reports, of a connection that is open then. -/
theorem run_active_iff (hk : ∀ e ∈ calls, e.1.connector.Reports) :
    (∀ c, (run calls).current = some c → ∃ finds found, InUse calls c finds found ∧
      ((run calls).active = found.getD .null ↔
        (found = none → (lastFound finds).getD .null = .null))) ∧
    ∀ (s : Setup) (a b : Assistant) (name : Cell), s.service.connector.Reports →
      a.warehouse = run calls → a.connectRemote s = (.ok (.connected name), b) →
      b.warehouse = run ((s.service, .connect) :: calls) ∧
      ∃ c finds found, b.warehouse.isOpen c = true ∧
        InUse ((s.service, .connect) :: calls) c finds found ∧
        (name = found.getD .null ↔ (found = none → (lastFound finds).getD .null = .null)) := by
  refine ⟨fun c hc => exists_inUse hk hc, fun s a b name hs ha h => ?_⟩
  obtain ⟨hok, hb, rfl⟩ := connectRemote_eq_connected h
  have hopen := isConnected_of_connect hok
  have hrun : b.warehouse = run ((s.service, .connect) :: calls) := by
    rw [hb, ha]
    rfl
  rw [← hb] at hopen
  rcases hc : b.warehouse.current with - | c
  · simp [isConnected, hc] at hopen
  · rw [isConnected_of_current hc] at hopen
    have hks : ∀ e ∈ (s.service, Call.connect) :: calls, e.1.connector.Reports :=
      List.forall_mem_cons.mpr ⟨hs, hk⟩
    obtain ⟨finds, found, hinuse, hiff⟩ := exists_inUse hks (hrun ▸ hc)
    exact ⟨hrun, c, finds, found, hopen, hinuse, hrun ▸ hiff⟩

end Assistant

/-! ## Connecting twice -/

namespace Warehouse

open AskTable.Warehouse.Activation

/-- A row with the name of a warehouse. -/
def listedRow : Row := Row.ofList [(.ofText "name", .text "WH")]

/-- A warehouse that accepts every login and refuses some of the commands, by their place. -/
def refusing (refused : Nat → Bool) : Service :=
  { sampleSetup.service with
    connector := ⟨fun _ => .ok (), fun n _ =>
      if refused n then .error (.reported "denied" 1) else .ok [listedRow]⟩ }

theorem refusing_reports (refused : Nat → Bool) : (refusing refused).connector.Reports := by
  constructor
  · intro n fault h
    cases h
  · intro n command fault h
    simp only [refusing] at h
    split at h
    · cases h
      exact ⟨_, _, rfl⟩
    · cases h

/-- The other side shuts the first connection. -/
def dropped (s : Service) : List (Service × Call) := [(s, .drop 0), (s, .connect)]

/-- Everything is refused but the first two commands. -/
def unwilling : Service := refusing fun n => 2 ≤ n

/-- The list of warehouses is refused the second time. -/
def unlisting : Service := refusing fun n => n == 2

theorem finds_dropped {s : Service} (hs : s = unwilling ∨ s = unlisting) :
    Finds (dropped s) [some (.text "WH")] := by
  rcases hs with rfl | rfl
  · have hone : Finds [(unwilling, .connect)] [some (.text "WH")] :=
      .made .nothing (by decide +kernel) (.listed rfl (.used rfl))
    exact .kept hone (by decide +kernel)
  · have hone : Finds [(unlisting, .connect)] [some (.text "WH")] :=
      .made .nothing (by decide +kernel) (.listed rfl (.used rfl))
    exact .kept hone (by decide +kernel)

/-- Connecting again after two commands, what the activation finds is added. -/
theorem finds_again {s : Service} (hs : s = unwilling ∨ s = unlisting) {ds : List Delivery}
    {found : Option Cell} (h : Activates s 1 2 ds found) :
    Finds ((s, .connect) :: dropped s) [some (.text "WH"), found] := by
  have hlengths : (run (dropped s)).connections.length = 1 ∧ (run (dropped s)).sent.length = 2 ∧
      (run ((s, .connect) :: dropped s)).connections.length = 2 := by
    rcases hs with rfl | rfl <;> decide +kernel
  obtain ⟨hmade, hsent, hagain⟩ := hlengths
  have ha : Activates s (run (dropped s)).connections.length (run (dropped s)).sent.length ds
      found := by rwa [hmade, hsent]
  exact .made (finds_dropped hs) (by rw [hagain, hmade]) ha

/-- On the second connection no warehouse can be used. -/
theorem finds_unwilling :
    Finds ((unwilling, .connect) :: dropped unwilling) [some (.text "WH"), none] :=
  finds_again (Or.inl rfl) (.unlisted rfl (.passed rfl (.passed rfl .none)))

/-- On the second connection the first warehouse of the settings can be used. -/
theorem finds_unlisting :
    Finds ((unlisting, .connect) :: dropped unlisting)
      [some (.text "WH"), some (.text "COMPUTE_WH")] :=
  finds_again (Or.inr rfl) (.unlisted rfl (.used rfl))

end Warehouse

namespace Assistant

/-- A setup with a warehouse service. -/
def setupWith (service : Service) : Setup := { sampleSetup with service }

/-- An assistant whose first connection was shut. -/
def shutOutOf (s : Service) : Assistant := { start ⟨"/", []⟩ with warehouse := run (dropped s) }

theorem connectRemote_of_isOk {s : Setup} {a : Assistant}
    (h : (connect s.service a.warehouse).1.isOk = true) :
    (a.connectRemote s).1 = .ok (.connected (connect s.service a.warehouse).2.active) := by
  rcases hc : connect s.service a.warehouse with ⟨failure | done, w⟩
  · rw [hc] at h
    cases h
  · simp only [connectRemote, hc, reportConnect]

/-- A name that is found on the second connection is the one that is reported. -/
theorem run_active_unlisting :
    (∀ e ∈ dropped unlisting, e.1.connector.Reports) ∧
      InUse ((unlisting, .connect) :: dropped unlisting) 1
        [some (.text "WH"), some (.text "COMPUTE_WH")] (some (.text "COMPUTE_WH")) ∧
      ((shutOutOf unlisting).connectRemote (setupWith unlisting)).1 =
        .ok (.connected (.text "COMPUTE_WH")) := by
  have hk : ∀ e ∈ dropped unlisting, e.1.connector.Reports := by
    simp [dropped, unlisting, refusing_reports]
  have hconnected := connectRemote_of_isOk (s := setupWith unlisting) (a := shutOutOf unlisting)
    (by decide +kernel)
  have hcurrent : (run ((unlisting, .connect) :: dropped unlisting)).current = some 1 := by
    decide +kernel
  obtain ⟨-, c, finds, found, -, hinuse, hiff⟩ := (run_active_iff hk).2 (setupWith unlisting)
    (shutOutOf unlisting) _ _ (refusing_reports _) rfl (Prod.ext hconnected rfl)
  cases hinuse.all.unique finds_unlisting
  cases hcurrent.symm.trans hinuse.current
  cases hinuse.here
  have hname := hiff.mpr fun h => nomatch h
  exact ⟨hk, hinuse, by rw [hconnected, hname]; rfl⟩

/-- No name is found on the second connection, and the one of the first is reported. -/
theorem run_active_unwilling :
    unwilling.connector.Reports ∧
      Finds ((unwilling, .connect) :: dropped unwilling) [some (.text "WH"), none] ∧
      (run ((unwilling, .connect) :: dropped unwilling)).current = some 1 ∧
      (run ((unwilling, .connect) :: dropped unwilling)).isOpen 1 = true ∧
      (run ((unwilling, .connect) :: dropped unwilling)).active = .text "WH" ∧
      ((shutOutOf unwilling).connectRemote (setupWith unwilling)).1 =
        .ok (.connected (.text "WH")) := by
  have hk : ∀ e ∈ (unwilling, Call.connect) :: dropped unwilling, e.1.connector.Reports := by
    simp [dropped, unwilling, refusing_reports]
  have hactive : (run ((unwilling, .connect) :: dropped unwilling)).active = .text "WH" :=
    (finds_unwilling.recorded hk).active
  have hconnected := connectRemote_of_isOk (s := setupWith unwilling) (a := shutOutOf unwilling)
    (by decide +kernel)
  exact ⟨refusing_reports _, finds_unwilling, by decide +kernel, by decide +kernel, hactive,
    hconnected.trans (congrArg (fun name => Except.ok (ConnectOutcome.connected name)) hactive)⟩

end Assistant

end AskTable
