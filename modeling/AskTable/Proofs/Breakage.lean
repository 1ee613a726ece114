import AskTable.Proofs.Ledger

/-!
# What breaks on the way to a warehouse

An error that the warehouse reports becomes an error of the assistant. Anything else that a
connector raises is passed on as it is. So the result of an operation tells whether something broke
on the way, and it can be compared with the logins and the commands that the operation made.

* `Broke`: a login or a command between two moments raised an error that is passed on;
  `broke_trans_iff`: between three moments.
* `Tells`: a result tells what broke; `Tells.andThen`: so do two operations in a row.
* `send_tells`, `activate_tells`, `connect_tells`, `describe_tells`: so does each operation.
-/

namespace AskTable.Warehouse

open AskTable.Warehouse.Activation

/-! ## Between two moments -/

/-- The error of a command that is passed on: any but those that the warehouse reports. -/
def RemoteFault.raised? : RemoteFault → Option Fault
  | .reported .. => none
  | .overdue name text | .broken name text => some (.raised name text)

/-- A login or a command between two moments raised an error that is passed on. -/
inductive Broke (k : Connector) (w v : Warehouse) : Fault → Prop
  | login {n : Nat} {name text : String} : w.logins ≤ n → n < v.logins →
      k.login n = .error (.broken name text) → Broke k w v (.raised name text)
  | command {n : Nat} {d : Delivery} {e : RemoteFault} {fault : Fault} : w.sent.length ≤ n →
      v.sent[n]? = some d → k.reply n d.command = .error e → e.raised? = some fault →
      Broke k w v fault

/-- Logins and commands were added, and none was taken back. -/
structure Later (w v : Warehouse) : Prop where
  logins : w.logins ≤ v.logins
  sent : w.sent <+: v.sent

/-- The same logins and commands. -/
def SameRecord (w v : Warehouse) : Prop := w.logins = v.logins ∧ w.sent = v.sent

variable {s : Service} {k : Connector} {w u v : Warehouse} {c : Nat} {fault : Fault}

theorem Later.refl (w : Warehouse) : Later w w := ⟨Nat.le_refl _, List.prefix_refl _⟩

theorem Later.trans (h : Later w u) (h' : Later u v) : Later w v :=
  ⟨Nat.le_trans h.logins h'.logins, h.sent.trans h'.sent⟩

theorem Later.deliver (w : Warehouse) (ds : List Delivery) : Later w (w.deliver ds) :=
  ⟨Nat.le_refl _, List.prefix_append _ _⟩

theorem not_broke_self : ¬ Broke k w w fault := by
  intro h
  cases h with
  | login hn hlt => omega
  | command hn hd => rw [List.getElem?_eq_none hn] at hd; cases hd

/-- Whatever broke did so before or after the moment in between. -/
theorem broke_trans_iff (h : Later w u) (h' : Later u v) :
    Broke k w v fault ↔ Broke k w u fault ∨ Broke k u v fault := by
  have hlogins := h.logins
  have hlogins' := h'.logins
  have hsent := h.sent.length_le
  have hsame : ∀ n, n < u.sent.length → v.sent[n]? = u.sent[n]? := by
    intro n hn
    obtain ⟨ds, hds⟩ := h'.sent
    rw [← hds, List.getElem?_append_left hn]
  constructor
  · intro hb
    cases hb with
    | @login n name text hn hlt hl =>
      by_cases hu : n < u.logins
      · exact Or.inl (.login hn hu hl)
      · exact Or.inr (.login (by omega) hlt hl)
    | @command n d e fault hn hd hr he =>
      by_cases hu : n < u.sent.length
      · exact Or.inl (.command hn (hsame n hu ▸ hd) hr he)
      · exact Or.inr (.command (by omega) hd hr he)
  · rintro (hb | hb)
    · cases hb with
      | login hn hlt hl => exact .login hn (by omega) hl
      | @command n d e fault hn hd hr he =>
        have hu : n < u.sent.length := (List.getElem?_eq_some_iff.mp hd).1
        exact .command hn (hsame n hu ▸ hd) hr he
    · cases hb with
      | login hn hlt hl => exact .login (by omega) hlt hl
      | command hn hd hr he => exact .command (by omega) hd hr he

theorem SameRecord.refl (w : Warehouse) : SameRecord w w := ⟨rfl, rfl⟩

theorem SameRecord.symm (h : SameRecord w v) : SameRecord v w := ⟨h.1.symm, h.2.symm⟩

theorem Broke.congr {w' v' : Warehouse} (h : Broke k w v fault) (hw : SameRecord w w')
    (hv : SameRecord v v') : Broke k w' v' fault := by
  cases h with
  | login hn hlt hl => exact .login (hw.1 ▸ hn) (hv.1 ▸ hlt) hl
  | command hn hd hr he => exact .command (hw.2 ▸ hn) (hv.2 ▸ hd) hr he

theorem broke_congr {w' v' : Warehouse} (hw : SameRecord w w') (hv : SameRecord v v') :
    Broke k w v fault ↔ Broke k w' v' fault :=
  ⟨fun h => h.congr hw hv, fun h => h.congr hw.symm hv.symm⟩

/-! ## Results that tell -/

/-- How an operation of a warehouse may fail: a login or a statement is refused, or an error is
passed on. -/
inductive IsRemote : Failure → Prop
  | auth {e : AssistantError} : e.kind = .remoteAuth → IsRemote (.own e)
  | execution {e : AssistantError} : e.kind = .remoteExecution → IsRemote (.own e)
  | passed (fault : Fault) : IsRemote (.fault fault)

/-- The result of an operation, with the warehouse after it, tells what broke: an error is passed on
exactly if it was raised during the operation or is due for another reason. -/
structure Tells (k : Connector) (w : Warehouse) (due : Fault → Prop)
    (r : Except Failure α × Warehouse) : Prop where
  later : Later w r.2
  fault_iff : ∀ fault, r.1 = .error (.fault fault) ↔ Broke k w r.2 fault ∨ due fault
  isRemote : ∀ failure, r.1 = .error failure → IsRemote failure

variable {due due' : Fault → Prop}

/-- Without an error that is passed on nothing broke. -/
theorem Tells.not_broke {r : Except Failure α × Warehouse} (h : Tells k w due r)
    (hr : ∀ fault, r.1 ≠ .error (.fault fault)) (fault : Fault) :
    ¬ Broke k w r.2 fault ∧ ¬ due fault := by
  have hnone := mt (h.fault_iff fault).mpr (hr fault)
  exact not_or.mp hnone

/-- Only the logins and commands of the two moments matter. -/
theorem Tells.congr {x : Except Failure α} {w' v' : Warehouse} (h : Tells k w due (x, v))
    (hw : SameRecord w w') (hv : SameRecord v v') : Tells k w' due (x, v') := by
  refine ⟨⟨?_, ?_⟩, fun fault => ?_, h.isRemote⟩
  · rw [← hw.1, ← hv.1]
    exact h.later.logins
  · rw [← hw.2, ← hv.2]
    exact h.later.sent
  · rw [← broke_congr hw hv]
    exact h.fault_iff fault

theorem Tells.of_due {r : Except Failure α × Warehouse} (h : Tells k w due r)
    (hdue : ∀ fault, due fault ↔ due' fault) : Tells k w due' r :=
  ⟨h.later, fun fault => by rw [h.fault_iff fault, hdue fault], h.isRemote⟩

/-- An operation that passes nothing on is followed by another one. -/
theorem Tells.andThen {r : Except Failure α × Warehouse} {r' : Except Failure β × Warehouse}
    (h : Tells k w due r) (hr : ∀ fault, r.1 ≠ .error (.fault fault))
    (h' : Tells k r.2 (fun _ => False) r') : Tells k w due r' := by
  refine ⟨h.later.trans h'.later, fun fault => ?_, h'.isRemote⟩
  obtain ⟨hbefore, hdue⟩ := h.not_broke hr fault
  rw [h'.fault_iff fault, broke_trans_iff h.later h'.later]
  constructor
  · rintro (hb | hno)
    · exact Or.inl (Or.inr hb)
    · exact hno.elim
  · rintro ((hb | hb) | hd)
    · exact absurd hb hbefore
    · exact Or.inl hb
    · exact absurd hd hdue

/-- A failure ends an operation, whatever it would have given. -/
theorem Tells.of_error {failure : Failure}
    (h : Tells k w due ((.error failure : Except Failure α), v)) :
    Tells k w due ((.error failure : Except Failure β), v) := by
  refine ⟨h.later, fun fault => ?_, fun failure' hf => ?_⟩
  · rw [← h.fault_iff fault]
    constructor
    · intro he; cases he; rfl
    · intro he; cases he; rfl
  · cases hf
    exact h.isRemote failure rfl

theorem Tells.map {x : Except Failure α} (g : α → β) (h : Tells k w due (x, v)) :
    Tells k w due (x.map g, v) := by
  cases x with
  | error failure => exact h.of_error
  | ok a =>
    refine ⟨h.later, fun fault => ?_, fun failure hf => by cases hf⟩
    rw [← h.fault_iff fault]
    constructor
    · intro he; cases he
    · intro he; cases he

/-- What comes after an operation that succeeded passes nothing on, if it makes no errors of its
own. -/
theorem Tells.fault_iff_of_ok {x : α} {y : Except Failure β} (h : Tells k w due (.ok x, v))
    (hy : ∀ fault, y ≠ .error (.fault fault)) (fault : Fault) :
    y = .error (.fault fault) ↔ Broke k w v fault ∨ due fault := by
  obtain ⟨hbroke, hdue⟩ := h.not_broke (by simp) fault
  constructor
  · intro he
    exact absurd he (hy fault)
  · rintro (hb | hd)
    · exact absurd hb hbroke
    · exact absurd hd hdue

/-! ## Commands -/

/-- Of the commands between two moments there is one. -/
theorem broke_deliver_iff {d : Delivery} :
    Broke k w (w.deliver [d]) fault ↔
      ∃ e, k.reply w.sent.length d.command = .error e ∧ e.raised? = some fault := by
  constructor
  · intro h
    cases h with
    | login hn hlt => exact absurd hlt (by simp; omega)
    | @command n d' e fault hn hd hr he =>
      have hlt : n < (w.deliver [d]).sent.length := (List.getElem?_eq_some_iff.mp hd).1
      rw [length_sent_deliver, List.length_singleton] at hlt
      obtain rfl : n = w.sent.length := by omega
      rw [deliver, List.getElem?_concat_length] at hd
      cases hd
      exact ⟨e, hr, he⟩
  · rintro ⟨e, hr, he⟩
    refine .command (Nat.le_refl _) ?_ hr he
    rw [deliver, List.getElem?_concat_length]

theorem ofCommand_eq_fault_iff {e : RemoteFault} :
    e.ofCommand = .fault fault ↔ e.raised? = some fault := by
  cases e <;> simp [RemoteFault.ofCommand, RemoteFault.raised?]

theorem isRemote_ofCommand (e : RemoteFault) : IsRemote e.ofCommand := by
  cases e with
  | reported => exact .execution rfl
  | overdue => exact .passed _
  | broken => exact .passed _

/-- A command on the connection in use tells what broke. -/
theorem send_tells (hc : w.current = some c) (command : Command) :
    Tells s.connector w (fun _ => False) (send s command w) := by
  rw [send_of_current hc]
  rcases hr : s.connector.reply w.sent.length command with e | rows
  · rw [sendOn_of_error hr]
    refine ⟨.deliver w _, fun fault => ?_, fun failure hf => ?_⟩
    · rw [broke_deliver_iff, Except.error.injEq, ofCommand_eq_fault_iff, or_false, hr]
      simp
    · cases hf
      exact isRemote_ofCommand e
  · rw [sendOn_of_ok hr]
    refine ⟨.deliver w _, fun fault => ?_, fun failure hf => by cases hf⟩
    rw [broke_deliver_iff, or_false, hr]
    simp

theorem send_current (s : Service) (command : Command) (w : Warehouse) :
    (send s command w).2.current = w.current := by
  obtain ⟨ds, hds⟩ := send_frame s command w
  rw [hds, deliver_current]

/-! ## Activations -/

/-- An activation ends with a failure only if this is passed on from a reply. -/
theorem after_cases (s : Service) {a : Activation} {command : Command}
    (ha : a.command? = some command) {reply : Except Failure (List Row)}
    (hreply : ∀ failure, reply = .error failure →
      isRefusal failure = true ∨ ∃ fault, failure = .fault fault) :
    (∃ fault, reply = .error (.fault fault) ∧
      a.after s reply = .finished (.error (.fault fault))) ∨
    (∀ fault, reply ≠ .error (.fault fault)) ∧
      ∀ failure, a.after s reply ≠ .finished (.error failure) := by
  have hnames : ∀ names failure, ofNames names ≠ .finished (.error failure) := by
    intro names failure
    cases names <;> simp [ofNames]
  cases reply with
  | ok rows =>
    refine Or.inr ⟨by simp, fun failure => ?_⟩
    cases a with
    | listing => cases rows <;> simp [after]
    | trying name others => simp [after]
    | finished result => cases ha
  | error failure =>
    rcases hreply failure rfl with hrefusal | ⟨fault, rfl⟩
    · refine Or.inr ⟨?_, fun failure' => ?_⟩
      · rintro fault ⟨⟩
        cases hrefusal
      · cases a with
        | listing => simpa [after, Activation.pass, hrefusal] using hnames _ failure'
        | trying name others => simpa [after, Activation.pass, hrefusal] using hnames _ failure'
        | finished result => cases ha
    · refine Or.inl ⟨fault, rfl, ?_⟩
      cases a with
      | listing => rfl
      | trying name others => rfl
      | finished result => cases ha

/-- A command on the connection in use is refused, or its error is passed on. -/
theorem send_failure (hc : w.current = some c) {command : Command} {failure : Failure}
    (h : send s command w = (.error failure, v)) :
    isRefusal failure = true ∨ ∃ fault, failure = .fault fault := by
  rw [send_of_current hc, sendOn] at h
  split at h
  · cases h
  · rename_i e hr
    cases h
    cases e with
    | reported => exact Or.inl rfl
    | overdue => exact Or.inr ⟨_, rfl⟩
    | broken => exact Or.inr ⟨_, rfl⟩

/-- An activation that goes on after a reply tells what broke if its rest does. -/
theorem after_tells {a : Activation} {command : Command} (ha : a.command? = some command)
    (hc : w.current = some c) {reply : Except Failure (List Row)}
    (hs : send s command w = (reply, v)) (hu : SameRecord u v)
    (hrest : (∀ failure, a.after s reply ≠ .finished (.error failure)) →
      Tells s.connector u (fun _ => False) ((a.after s reply).finish s u)) :
    Tells s.connector w (fun _ => False) ((a.after s reply).finish s u) := by
  have hsent := send_tells (s := s) hc command
  rw [hs] at hsent
  have hreply : ∀ failure, reply = .error failure →
      isRefusal failure = true ∨ ∃ fault, failure = .fault fault := by
    rintro failure rfl
    exact send_failure hc hs
  rcases after_cases s ha hreply with ⟨fault, rfl, hlast⟩ | ⟨hreply, hnext⟩
  · rw [hlast, Activation.finish]
    exact hsent.of_error.congr (.refl w) hu.symm
  · exact hsent.andThen hreply ((hrest hnext).congr hu (.refl _))

theorem note_sameRecord (a : Activation) (reply : Except Failure (List Row)) (w : Warehouse) :
    SameRecord (a.note reply w) w := by
  obtain ⟨found, hfound⟩ := note_frame a reply w
  rw [hfound]
  exact ⟨rfl, List.append_nil _⟩

theorem note_current (a : Activation) (reply : Except Failure (List Row)) (w : Warehouse) :
    (a.note reply w).current = w.current := by
  obtain ⟨found, hfound⟩ := note_frame a reply w
  rw [hfound]
  rfl

/-- The rest of an activation tells what broke. -/
theorem finish_tells {a : Activation} (hc : w.current = some c)
    (ha : ∀ failure, a ≠ .finished (.error failure)) :
    Tells s.connector w (fun _ => False) (a.finish s w) := by
  fun_induction Activation.finish s a w with
  | case1 w result =>
    cases result with
    | error failure => exact absurd rfl (ha failure)
    | ok name =>
      refine ⟨.refl w, fun fault => ?_, fun failure hf => by cases hf⟩
      simp [not_broke_self]
  | case2 w reply v hs ih =>
    have hv : v.current = some c := by
      rw [← hc, ← send_current s listCommand w, hs]
    exact after_tells (a := .listing) rfl hc hs (.refl v) (ih hv)
  | case3 w name others reply v hs ih =>
    have hv : ((trying name others).note reply v).current = some c := by
      rw [note_current, ← hc, ← send_current s (useCommand name) w, hs]
    exact after_tells (a := .trying name others) rfl hc hs (note_sameRecord _ reply v) (ih hv)

theorem activate_tells (hc : w.current = some c) :
    Tells s.connector w (fun _ => False) (activate s w) :=
  finish_tells hc (by simp)

/-! ## Logins -/

/-- A login between two moments. -/
theorem broke_login_iff (hlogins : v.logins = w.logins + 1) (hsent : v.sent = w.sent) :
    Broke k w v fault ↔
      ∃ name text, k.login w.logins = .error (.broken name text) ∧ fault = .raised name text := by
  constructor
  · intro h
    cases h with
    | @login n name text hn hlt hl =>
      obtain rfl : n = w.logins := by omega
      exact ⟨name, text, hl, rfl⟩
    | command hn hd =>
      rw [hsent, List.getElem?_eq_none hn] at hd
      cases hd
  · rintro ⟨name, text, hl, rfl⟩
    exact .login (Nat.le_refl _) (by omega) hl

theorem ofLogin_eq_fault_iff {timeout : Cell} {e : RemoteFault} :
    e.ofLogin timeout = .fault fault ↔
      ∃ name text, e = .broken name text ∧ fault = .raised name text := by
  cases e with
  | reported => simp [RemoteFault.ofLogin]
  | overdue => simp [RemoteFault.ofLogin, timedOut]
  | broken name text =>
    simp only [RemoteFault.ofLogin, Failure.fault.injEq, RemoteFault.broken.injEq]
    constructor
    · rintro rfl
      exact ⟨name, text, ⟨rfl, rfl⟩, rfl⟩
    · rintro ⟨_, _, ⟨rfl, rfl⟩, rfl⟩
      rfl

theorem isRemote_ofLogin (timeout : Cell) (e : RemoteFault) : IsRemote (e.ofLogin timeout) := by
  cases e with
  | reported => exact .auth rfl
  | overdue => exact .auth rfl
  | broken => exact .passed _

/-- A login tells what broke. -/
theorem login_tells (s : Service) (w : Warehouse) :
    Tells s.connector w (fun _ => False) (login s w) := by
  have hlater : Later w (enterLogin s w) := ⟨Nat.le_succ _, List.prefix_refl _⟩
  have hbroke : ∀ fault, Broke s.connector w (enterLogin s w) fault ↔
      ∃ name text, s.connector.login w.logins = .error (.broken name text) ∧
        fault = .raised name text := fun fault => broke_login_iff rfl rfl
  unfold login
  split
  · rcases hl : s.connector.login w.logins with e | done
    · simp only [leaveLogin, hl]
      refine ⟨hlater, fun fault => ?_, fun failure hf => ?_⟩
      · rw [Except.error.injEq, ofLogin_eq_fault_iff, hbroke fault, or_false, hl]
        simp
      · cases hf
        exact isRemote_ofLogin _ e
    · simp only [leaveLogin, hl]
      have hmade : Tells s.connector w (fun _ => False)
          ((.ok w.connections.length : Except Failure Nat), enterLogin s w) := by
        refine ⟨hlater, fun fault => ?_, fun failure hf => by cases hf⟩
        rw [hbroke fault, hl]
        simp
      exact hmade.congr (.refl w) ⟨rfl, rfl⟩
  · refine ⟨.refl w, fun fault => ?_, fun failure hf => ?_⟩
    · simp [not_broke_self, notConfigured]
    · cases hf
      exact .auth rfl

/-- A login is due, and the time for it is no number. -/
structure Untimed (s : Service) (w : Warehouse) (fault : Fault) : Prop where
  due : w.isConnected = false
  time : Patience.of s.config.loginTimeout = .error fault

/-- A login that may be given up tells what broke, or that its time is no number. -/
theorem patientLogin_tells (s : Service) (w : Warehouse) :
    Tells s.connector w (fun fault => Patience.of s.config.loginTimeout = .error fault)
      (patientLogin s w) := by
  have hlogin := login_tells s w
  unfold patientLogin
  rcases hp : Patience.of s.config.loginTimeout with fault | p
  · refine ⟨.refl w, fun fault' => ?_, fun failure hf => ?_⟩
    · simp [not_broke_self]
    · cases hf
      exact .passed fault
  · cases p with
    | endless => exact hlogin.of_due (by simp)
    | some => exact hlogin.of_due (by simp)
    | none =>
      refine ⟨.refl w, fun fault => ?_, fun failure hf => ?_⟩
      · simp [not_broke_self, timedOut]
      · cases hf
        exact .auth rfl

theorem establish_tells (s : Service) (w : Warehouse) :
    Tells s.connector w (fun fault => Patience.of s.config.loginTimeout = .error fault)
      (establish s w) := by
  have hlogin := patientLogin_tells s w
  unfold establish
  rcases hl : patientLogin s w with ⟨failure | c, v⟩
  · rw [hl] at hlogin
    exact hlogin.of_error
  · rw [hl] at hlogin
    have hactivate : Tells s.connector (install c v) (fun _ => False) (activate s (install c v)) :=
      activate_tells rfl
    have hrest : Tells s.connector v (fun _ => False) (activate s (install c v)) :=
      hactivate.congr ⟨rfl, rfl⟩ (.refl _)
    exact (hlogin.andThen (by simp) hrest).map _

theorem connect_tells (s : Service) (w : Warehouse) :
    Tells s.connector w (Untimed s w) (connect s w) := by
  unfold connect
  by_cases hw : w.isConnected = true
  · rw [if_pos hw]
    refine ⟨.refl w, fun fault => ?_, fun failure hf => by cases hf⟩
    constructor
    · intro he; cases he
    · rintro (hb | hd)
      · exact absurd hb not_broke_self
      · rw [hd.due] at hw; cases hw
  · rw [if_neg hw]
    refine (establish_tells s w).of_due fun fault => ⟨fun hp => ⟨?_, hp⟩, Untimed.time⟩
    exact Bool.not_eq_true _ ▸ hw

/-- An attempt leaves some connection in use if there was one. -/
theorem Attempts.exists_current (h : Attempts s w v) (hc : w.current = some c) :
    ∃ d, v.current = some d := by
  rcases hv : v.current with - | d
  · rw [h.current hv] at hc
    cases hc
  · exact ⟨d, rfl⟩

theorem describe_current (hc : w.current = some c) :
    ∃ d, (describe s w).2.current = some d := by
  obtain ⟨v, ds, hw, ha, -⟩ := describe_attempts s w
  rw [hw, deliver_current]
  exact ha.exists_current hc

/-- **Asking for the schema** tells what broke. -/
theorem describe_tells (hc : w.current = some c) :
    Tells s.connector w (Untimed s w) (describe s w) := by
  have hconnect := connect_tells s w
  have hattempts := connect_attempts s w
  have hensure : ensureConnected s w = connect s w := by
    rw [ensureConnected, wasConnected, hc, Option.isSome_some, if_pos rfl]
  rw [describe, hensure]
  rcases he : connect s w with ⟨failure | done, v⟩
  · rw [he] at hconnect
    exact hconnect.of_error
  · rw [he] at hconnect hattempts
    obtain ⟨d, hd⟩ := hattempts.exists_current hc
    exact (hconnect.andThen (by simp) (send_tells hd _)).map _

/-- Asking for the schema and then sending a command tells what broke. -/
theorem describe_send_tells (hc : w.current = some c) {schema : List Descriptor}
    (hd : describe s w = (.ok schema, v)) (command : Command) :
    Tells s.connector w (Untimed s w) (send s command v) := by
  have hdescribe := describe_tells (s := s) hc
  obtain ⟨d, hcurrent⟩ := describe_current (s := s) hc
  rw [hd] at hdescribe hcurrent
  exact hdescribe.andThen (by simp) (send_tells hcurrent command)

end AskTable.Warehouse
