import AskTable.Warehouse.Catalog

/-!
# What is said to a warehouse

What an operation sends to the warehouse depends on the replies. Here the commands are described as
they come one after another, and each operation is shown to send these and to change nothing else.

* `Connector.Reports`: a connector that fails only with errors that the warehouse reports;
  `Connector.Refuses`: one whose commands do.
* `Tries`, `Activates`: the commands of an activation, up to the first name that can be used.
* `activate_eq`: an activation sends them and succeeds; `activate_frame`: what it never touches.
* `Ready`: settings with which a login is begun; `establish_of_ok`, `establish_of_error`: a new
  connection, or a failed login.
-/

namespace AskTable.Warehouse

open AskTable.Warehouse.Activation

/-- A connector that fails only with errors that the warehouse reports. -/
structure Connector.Reports (k : Connector) : Prop where
  login : ∀ n fault, k.login n = .error fault → ∃ text code, fault = .reported text code
  reply : ∀ n command fault, k.reply n command = .error fault →
    ∃ text code, fault = .reported text code

/-- A connector whose commands fail only with errors that the warehouse reports. -/
def Connector.Refuses (k : Connector) : Prop :=
  ∀ n command fault, k.reply n command = .error fault → ∃ text code, fault = .reported text code

/-- The warehouse after more deliveries. -/
def deliver (ds : List Delivery) (w : Warehouse) : Warehouse := { w with sent := w.sent ++ ds }

theorem deliver_deliver (ds es : List Delivery) (w : Warehouse) :
    (w.deliver ds).deliver es = w.deliver (ds ++ es) := by
  simp [deliver]

@[simp]
theorem deliver_current (ds : List Delivery) (w : Warehouse) :
    (w.deliver ds).current = w.current := rfl

@[simp]
theorem deliver_logins (ds : List Delivery) (w : Warehouse) :
    (w.deliver ds).logins = w.logins := rfl

@[simp]
theorem length_sent_deliver (ds : List Delivery) (w : Warehouse) :
    (w.deliver ds).sent.length = w.sent.length + ds.length := by
  simp [deliver]

/-- The warehouse after an activation that made the deliveries and found a name, if any. -/
def activated (ds : List Delivery) (found : Option Cell) (w : Warehouse) : Warehouse :=
  { w.deliver ds with active := found.getD w.active }

variable {s : Service} {w : Warehouse} {c : Nat}

/-! ## Commands -/

theorem send_of_current (h : w.current = some c) (command : Command) :
    send s command w = sendOn s c command w := by
  rw [send, h]

theorem sendOn_of_ok {command : Command} {rows : List Row}
    (h : s.connector.reply w.sent.length command = .ok rows) :
    sendOn s c command w = (.ok rows, w.deliver [⟨c, command, true⟩]) := by
  rw [sendOn, h]
  rfl

theorem sendOn_of_error {command : Command} {fault : RemoteFault}
    (h : s.connector.reply w.sent.length command = .error fault) :
    sendOn s c command w = (.error fault.ofCommand, w.deliver [⟨c, command, false⟩]) := by
  rw [sendOn, h]
  rfl

/-- A command on the connection in use adds its delivery. -/
theorem send_warehouse (h : w.current = some c) (command : Command) :
    (send s command w).2 =
      w.deliver [⟨c, command, (s.connector.reply w.sent.length command).isOk⟩] := by
  rw [send_of_current h]
  rcases hr : s.connector.reply w.sent.length command with fault | rows
  · rw [sendOn_of_error hr]
    rfl
  · rw [sendOn_of_ok hr]
    rfl

/-- A command adds at most a delivery. -/
theorem send_frame (s : Service) (command : Command) (w : Warehouse) :
    ∃ ds, (send s command w).2 = w.deliver ds := by
  rcases h : w.current with - | c
  · refine ⟨[], ?_⟩
    rw [send, h]
    simp [deliver]
  · exact ⟨_, send_warehouse h command⟩

/-! ## Activations -/

/-- The commands that try names in turn on a connection, after so many other commands, up to the
first name that can be used. -/
inductive Tries (k : Connector) (c : Nat) : Nat → List Cell → List Delivery → Option Cell → Prop
  | none {n : Nat} : Tries k c n [] [] none
  | used {n : Nat} {name : Cell} {others : List Cell} {rows : List Row} :
      k.reply n (useCommand name) = .ok rows →
      Tries k c n (name :: others) [⟨c, useCommand name, true⟩] (some name)
  | passed {n : Nat} {name : Cell} {others : List Cell} {fault : RemoteFault}
      {ds : List Delivery} {found : Option Cell} : k.reply n (useCommand name) = .error fault →
      Tries k c (n + 1) others ds found →
      Tries k c n (name :: others) (⟨c, useCommand name, false⟩ :: ds) found

/-- The commands of an activation on a connection, after so many other commands. -/
inductive Activates (s : Service) (c n : Nat) : List Delivery → Option Cell → Prop
  /-- The warehouses cannot be listed, and those of the settings are tried. -/
  | unlisted {fault : RemoteFault} {ds : List Delivery} {found : Option Cell} :
      s.connector.reply n listCommand = .error fault →
      Tries s.connector c (n + 1) (fallbacks s) ds found →
      Activates s c n (⟨c, listCommand, false⟩ :: ds) found
  /-- There are no warehouses. -/
  | empty : s.connector.reply n listCommand = .ok [] →
      Activates s c n [⟨c, listCommand, true⟩] none
  /-- The first of the list is tried, and then those of the settings. -/
  | listed {r : Row} {rows : List Row} {ds : List Delivery} {found : Option Cell} :
      s.connector.reply n listCommand = .ok (r :: rows) →
      Tries s.connector c (n + 1) (listedName r :: fallbacks s) ds found →
      Activates s c n (⟨c, listCommand, true⟩ :: ds) found

theorem isRefusal_ofCommand (text : String) (code : Int) :
    isRefusal (RemoteFault.reported text code).ofCommand = true := rfl

/-- Names are tried until one can be used. -/
theorem finish_ofNames (hk : s.connector.Refuses) (names : List Cell) (h : w.current = some c) :
    ∃ ds found, Tries s.connector c w.sent.length names ds found ∧
      (ofNames names).finish s w = (.ok (found.getD .null), w.activated ds found) := by
  induction names generalizing w with
  | nil =>
    refine ⟨[], none, .none, ?_⟩
    rw [ofNames, Activation.finish]
    simp [activated, deliver]
  | cons name others ih =>
    rw [ofNames, Activation.finish, send_of_current h]
    rcases hr : s.connector.reply w.sent.length (useCommand name) with fault | rows
    · obtain ⟨text, code, rfl⟩ := hk _ _ _ hr
      obtain ⟨ds, found, ht, hf⟩ := ih (w := w.deliver [⟨c, useCommand name, false⟩]) h
      refine ⟨_, found, .passed hr (by simpa using ht), ?_⟩
      rw [sendOn_of_error hr]
      simp only [after, Activation.pass, isRefusal_ofCommand, if_true, note, hf]
      simp [activated, deliver]
    · refine ⟨_, some name, .used hr, ?_⟩
      rw [sendOn_of_ok hr]
      simp only [after, note]
      rw [Activation.finish]
      rfl

/-- **An activation** succeeds when the warehouse reports its errors. It sends its commands and
notes the name that it found. -/
theorem activate_eq (hk : s.connector.Refuses) (h : w.current = some c) :
    ∃ ds found, Activates s c w.sent.length ds found ∧
      activate s w = (.ok (found.getD .null), w.activated ds found) := by
  rw [activate, Activation.finish, send_of_current h]
  rcases hr : s.connector.reply w.sent.length listCommand with fault | rows
  · obtain ⟨text, code, rfl⟩ := hk _ _ _ hr
    obtain ⟨ds, found, ht, hf⟩ :=
      finish_ofNames (w := w.deliver [⟨c, listCommand, false⟩]) hk (fallbacks s) h
    refine ⟨_, found, .unlisted hr (by simpa using ht), ?_⟩
    rw [sendOn_of_error hr]
    simp only [after, Activation.pass, isRefusal_ofCommand, if_true, hf]
    simp [activated, deliver]
  · rw [sendOn_of_ok hr]
    cases rows with
    | nil =>
      refine ⟨_, none, .empty hr, ?_⟩
      simp only [after]
      rw [Activation.finish]
      rfl
    | cons r rows =>
      obtain ⟨ds, found, ht, hf⟩ := finish_ofNames (w := w.deliver [⟨c, listCommand, true⟩]) hk
        (listedName r :: fallbacks s) h
      rw [ofNames] at hf
      refine ⟨_, found, .listed hr (by simpa using ht), ?_⟩
      simp only [after, hf]
      simp [activated, deliver]

/-! ## Frames -/

theorem activated_activated (ds es : List Delivery) (found next : Option Cell) (w : Warehouse) :
    (w.activated ds found).activated es next = w.activated (ds ++ es) (next.or found) := by
  cases next <;> simp [activated, deliver]

theorem note_frame (a : Activation) (reply : Except Failure (List Row)) (w : Warehouse) :
    ∃ found, a.note reply w = w.activated [] found := by
  cases a with
  | trying name others =>
    cases reply with
    | error failure => exact ⟨none, by simp [note, activated, deliver]⟩
    | ok rows => exact ⟨some name, by simp [note, activated, deliver]⟩
  | listing => exact ⟨none, by simp [note, activated, deliver]⟩
  | finished result => exact ⟨none, by simp [note, activated, deliver]⟩

/-- An activation changes nothing but the deliveries and the active name. -/
theorem finish_frame (s : Service) (a : Activation) (w : Warehouse) :
    ∃ ds found, (a.finish s w).2 = w.activated ds found := by
  fun_induction Activation.finish s a w with
  | case1 w result => exact ⟨[], none, by simp [activated, deliver]⟩
  | case2 w reply sent hs ih =>
    obtain ⟨ds, hds⟩ := send_frame s listCommand w
    obtain ⟨es, found, hes⟩ := ih
    rw [hs] at hds
    have hsent : sent = w.activated ds none := hds
    exact ⟨ds ++ es, found.or none, by rw [hes, hsent, activated_activated]⟩
  | case3 w name others reply sent hs ih =>
    obtain ⟨ds, hds⟩ := send_frame s (useCommand name) w
    obtain ⟨used, hused⟩ := note_frame (.trying name others) reply sent
    obtain ⟨es, found, hes⟩ := ih
    rw [hs] at hds
    have hsent : sent = w.activated ds none := hds
    exact ⟨_, _, by rw [hes, hused, hsent, activated_activated, activated_activated]⟩

theorem activate_frame (s : Service) (w : Warehouse) :
    ∃ ds found, (activate s w).2 = w.activated ds found :=
  finish_frame s .listing w

/-! ## Logins -/

/-- The settings allow a login, and there is patience for it. -/
def Ready (s : Service) : Prop :=
  isConfigured s.config = true ∧
    ∃ p, Patience.of s.config.loginTimeout = .ok p ∧ p ≠ .none

/-- The warehouse after a login that was accepted, with the new connection in use. -/
def joined (s : Service) (w : Warehouse) : Warehouse :=
  { enterLogin s w with
    connections := w.connections ++ [true]
    current := some w.connections.length }

theorem patientLogin_of_ready (h : Ready s) :
    patientLogin s w = leaveLogin s w.logins (enterLogin s w) := by
  obtain ⟨hconfigured, p, hp, hne⟩ := h
  have hlogin : login s w = leaveLogin s w.logins (enterLogin s w) := by
    rw [login, if_pos hconfigured]
  rw [← hlogin, patientLogin, hp]
  cases p with
  | endless => rfl
  | some => rfl
  | none => exact absurd rfl hne

/-- Without the settings for it, nothing is begun. -/
theorem patientLogin_of_not_ready (h : ¬ Ready s) (w : Warehouse) :
    ∃ failure, patientLogin s w = (.error failure, w) := by
  unfold patientLogin
  rcases hp : Patience.of s.config.loginTimeout with fault | p
  · exact ⟨_, rfl⟩
  · have hlogin (hne : p ≠ .none) : login s w = (.error notConfigured, w) := by
      rw [login, if_neg fun hconfigured => h ⟨hconfigured, p, hp, hne⟩]
    cases p with
    | endless => exact ⟨_, hlogin (by decide)⟩
    | some => exact ⟨_, hlogin (by decide)⟩
    | none => exact ⟨_, rfl⟩

theorem establish_of_not_ready (h : ¬ Ready s) (w : Warehouse) :
    ∃ failure, establish s w = (.error failure, w) := by
  obtain ⟨failure, hf⟩ := patientLogin_of_not_ready h w
  exact ⟨failure, by rw [establish, hf]⟩

/-- A login that is refused ends the connecting. -/
theorem establish_of_error (h : Ready s) {fault : RemoteFault}
    (hl : s.connector.login w.logins = .error fault) :
    establish s w = (.error (fault.ofLogin s.config.loginTimeout), enterLogin s w) := by
  rw [establish, patientLogin_of_ready h, leaveLogin, hl]

/-- A login that is accepted is followed by an activation. -/
theorem establish_of_ok (h : Ready s) (hl : s.connector.login w.logins = .ok ()) :
    establish s w = (done (activate s (w.joined s)).1, (activate s (w.joined s)).2) := by
  rw [establish, patientLogin_of_ready h, leaveLogin, hl]
  rfl

end AskTable.Warehouse
