import AskTable.Proofs.ActiveWarehouse
import AskTable.Proofs.Turns

/-!
# Activations under way

An attempt sends the commands of its activation one by one, and other attempts may be told to stop
or notice so in between. What was sent tells how far the newest attempt has come.

* `Midway`, `Underway`: how far an activation has come, by the commands that were sent.
* `Continues`: where the reply to the last command leads; `Underway.continues`.
* `Noted`: an activation stands in what was sent, and the name that it found is noted.
* `Rested`: this holds of the connection in use while it is open; `rested_run`.
* `Placed`: what is known of an attempt in its place; `Turn.placed`, `Turn.placed_other`.
* `Turn.noted_cases`: what a turn does to the name that is noted.
-/

namespace AskTable.Warehouse

open AskTable.Warehouse.Activation

/-! ## Activations under way -/

/-- What is left of an activation, after so many commands: the commands that it still sends, and
what it finds. -/
def Rest (s : Service) (c n : Nat) : Activation → List Delivery → Option Cell → Prop
  | .listing, ds, found => Activates s c n ds found
  | .trying name others, ds, found => Tries s.connector c n (name :: others) ds found
  | .finished _, _, _ => False

/-- The last of the commands that were sent are those of an activation, as far as it has come. -/
def Midway (s : Service) (sent : List Delivery) (c : Nat) (activation : Activation) : Prop :=
  ∃ before ds, sent = before ++ ds ∧ ∀ es found, Rest s c sent.length activation es found →
    Activates s c before.length (ds ++ es) found

/-- What a command is answered, after so many others. -/
def answerTo (s : Service) (n : Nat) (command : Command) : Except Failure (List Row) :=
  (s.connector.reply n command).mapError RemoteFault.ofCommand

/-- How far an activation has come, and what its last command was answered, if it was not looked at
yet. -/
inductive Underway (s : Service) (sent : List Delivery) (c : Nat) (activation : Activation) :
    Option (Except Failure (List Row)) → Prop
  | next : Midway s sent c activation → Underway s sent c activation none
  | answered {earlier : List Delivery} {command : Command} :
      activation.command? = some command → Midway s earlier c activation →
      sent = earlier ++ [⟨c, command, (s.connector.reply earlier.length command).isOk⟩] →
      Underway s sent c activation (some (answerTo s earlier.length command))

/-- Where a reply leads. -/
inductive Continues (s : Service) (sent : List Delivery) (c : Nat) (activation : Activation)
    (reply : Except Failure (List Row)) : Prop
  /-- The activation fails. -/
  | failed {failure : Failure} : activation.after s reply = .finished (.error failure) →
      Continues s sent c activation reply
  /-- It is done, and the name that it found is noted, if any. -/
  | found {name : Cell} {found : Option Cell} {before ds : List Delivery} :
      activation.after s reply = .finished (.ok name) → sent = before ++ ds →
      Activates s c before.length ds found →
      (∀ w, (activation.note reply w).active = found.getD w.active) →
      Continues s sent c activation reply
  | goesOn : (∀ result, activation.after s reply ≠ .finished result) →
      Midway s sent c (activation.after s reply) → Continues s sent c activation reply

variable {s : Service} {w v : Warehouse} {c : Nat} {earlier sent : List Delivery} {d : Delivery}
  {activation : Activation}

theorem Midway.start (s : Service) (sent : List Delivery) (c : Nat) :
    Midway s sent c .listing :=
  ⟨sent, [], (List.append_nil sent).symm, fun _ _ h => h⟩

/-- After one more command the activation has come further. -/
theorem Midway.more (h : Midway s earlier c activation) {next : Activation}
    (hstep : ∀ es found, Rest s c (earlier.length + 1) next es found →
      Rest s c earlier.length activation (d :: es) found) : Midway s (earlier ++ [d]) c next := by
  obtain ⟨before, ds, rfl, hrest⟩ := h
  refine ⟨before, ds ++ [d], List.append_assoc _ _ _, fun es found h => ?_⟩
  rw [List.length_append, List.length_singleton] at h
  rw [List.append_assoc, List.singleton_append]
  exact hrest _ _ (hstep es found h)

/-- With its last command the activation is done. -/
theorem Midway.done (h : Midway s earlier c activation) {found : Option Cell}
    (hlast : Rest s c earlier.length activation [d] found) :
    ∃ before ds, earlier ++ [d] = before ++ ds ∧ Activates s c before.length ds found := by
  obtain ⟨before, ds, rfl, hrest⟩ := h
  exact ⟨before, ds ++ [d], List.append_assoc _ _ _, hrest _ _ hlast⟩

/-- After a failure the remaining names are tried, if it is passed over. -/
theorem Midway.pass (h : Midway s earlier c activation) {names : List Cell} {failure : Failure}
    (hafter : activation.after s (.error failure) = Activation.pass names failure)
    (htries : ∀ es found, Tries s.connector c (earlier.length + 1) names es found →
      Rest s c earlier.length activation (d :: es) found) :
    Continues s (earlier ++ [d]) c activation (.error failure) := by
  unfold Activation.pass at hafter
  split at hafter
  · cases names with
    | nil =>
      obtain ⟨before, ds, hsent, ha⟩ := h.done (htries [] none .none)
      refine .found hafter hsent ha fun w => ?_
      cases activation <;> rfl
    | cons name names =>
      refine .goesOn (by rw [hafter]; nofun) ?_
      rw [hafter]
      exact h.more htries
  · exact .failed hafter

/-- Where the answer to the next command leads. -/
theorem Midway.continues (h : Midway s earlier c activation) {command : Command}
    (hcommand : activation.command? = some command) :
    Continues s (earlier ++ [⟨c, command, (s.connector.reply earlier.length command).isOk⟩]) c
      activation (answerTo s earlier.length command) := by
  unfold answerTo
  cases activation with
  | finished result => cases hcommand
  | listing =>
    cases hcommand
    rcases hr : s.connector.reply earlier.length listCommand with fault | rows
    · exact h.pass rfl fun es found ht => .unlisted hr ht
    · cases rows with
      | nil =>
        obtain ⟨before, ds, hsent, ha⟩ := h.done (.empty hr)
        exact .found rfl hsent ha fun w => rfl
      | cons r rows => exact .goesOn nofun (h.more fun es found ht => .listed hr ht)
  | trying name others =>
    cases hcommand
    rcases hr : s.connector.reply earlier.length (useCommand name) with fault | rows
    · exact h.pass rfl fun es found ht => .passed hr ht
    · obtain ⟨before, ds, hsent, ha⟩ := h.done (.used hr)
      exact .found rfl hsent ha fun w => rfl

/-- Where the last answer leads. -/
theorem Underway.continues {reply : Except Failure (List Row)}
    (h : Underway s sent c activation (some reply)) : Continues s sent c activation reply := by
  cases h with
  | answered hcommand hmidway hsent =>
    rw [hsent]
    exact hmidway.continues hcommand

theorem send_eq (h : w.current = some c) (command : Command) :
    send s command w = (answerTo s w.sent.length command,
      w.deliver [⟨c, command, (s.connector.reply w.sent.length command).isOk⟩]) := by
  rw [send_of_current h, answerTo]
  rcases hr : s.connector.reply w.sent.length command with fault | rows
  · exact sendOn_of_error hr
  · exact sendOn_of_ok hr

/-! ## Noted names -/

/-- An activation on a connection stands in what was sent, and the name that it found is noted. -/
def Noted (w : Warehouse) (c : Nat) : Prop :=
  ∃ found, ActivatedOn w c found ∧ ∀ name, found = some name → w.active = name

theorem Noted.mono (h : Noted w c) (hactive : v.active = w.active) (hsent : w.sent <+: v.sent) :
    Noted v c := by
  obtain ⟨found, ha, hname⟩ := h
  exact ⟨found, ha.of_sent hsent, fun name hfound => hactive.trans (hname name hfound)⟩

/-- The connection in use is one of those that were made. While it is open, an activation on it
stands in what was sent. -/
structure Rested (w : Warehouse) : Prop where
  current : ∀ c, w.current = some c → c < w.connections.length
  noted : ∀ c, w.current = some c → w.isOpen c = true → Noted w c

/-- After any calls of which the connectors report their errors. -/
theorem rested_run {calls : List (Service × Call)} (hk : ∀ e ∈ calls, e.1.connector.Reports) :
    Rested (run calls) := by
  obtain ⟨finds, hf⟩ := exists_finds hk
  have hrecorded := hf.recorded hk
  refine ⟨fun c hc => ?_, fun c hc _ => ?_⟩
  · have hlast := hrecorded.current c hc
    have hlength := hrecorded.length
    omega
  · obtain ⟨finds, found, hinuse, hiff⟩ := exists_inUse hk hc
    refine ⟨found, hinuse.sent, fun name hfound => ?_⟩
    have hactive := hiff.mpr fun hnone => absurd (hfound.symm.trans hnone) (Option.some_ne_none _)
    rw [hactive, hfound, Option.getD_some]

/-! ## Attempts in their places -/

/-- What is known of an attempt that is the newest or not. The newest one alone may still have
something to do. Its connection is the one in use, unless that was closed, and while it activates
it, what was sent tells how far it has come. -/
structure Placed (s : Service) (w : Warehouse) (newest : Prop) (a : Attempt) : Prop where
  sound : a.Sound
  bound : ∀ c, a.given? = some c → c < w.connections.length
  settled : ¬ newest → a.isOver = true
  inUse : newest → ∀ c, a.connection? = some c → w.current = none ∨ w.current = some c
  underway : newest → ∀ activation reply, a.phase = .activating activation reply →
    a.stopped = false → ∃ c, a.connection? = some c ∧ w.current = some c ∧
      Underway s w.sent c activation reply

variable {a b o : Attempt} {newest : Prop}

theorem Placed.beside (h : Placed s w newest a) (hb : Beside w v) : Placed s v newest a where
  sound := h.sound
  bound := fun c hc => Nat.lt_of_lt_of_le (h.bound c hc) hb.length
  settled := h.settled
  inUse := by
    rw [hb.current]
    exact h.inUse
  underway := by
    rw [hb.current, hb.sent]
    exact h.underway

/-- Of an attempt that is not the newest less is known. -/
theorem Placed.older (h : Placed s w newest a) (hnot : ¬ newest)
    (hlength : w.connections.length ≤ v.connections.length) : Placed s v newest a where
  sound := h.sound
  bound := fun c hc => Nat.lt_of_lt_of_le (h.bound c hc) hlength
  settled := h.settled
  inUse := fun hnew => absurd hnew hnot
  underway := fun hnew => absurd hnew hnot

/-- Something is to be done for the newest attempt alone. -/
theorem Placed.newest_of_not_over (h : Placed s w newest a) (ha : a.isOver = false) : newest := by
  refine Classical.byContradiction fun hnot => ?_
  rw [h.settled hnot] at ha
  cases ha

theorem not_isOver_of_activating {reply : Option (Except Failure (List Row))}
    (h : a.phase = .activating activation reply) : a.isOver = false := by
  rw [Attempt.isOver, Attempt.result?, h]
  rfl

/-- While the newest attempt is not told to stop, its activation is under way. -/
theorem Placed.exists_underway (h : Placed s w newest a)
    {reply : Option (Except Failure (List Row))} (hphase : a.phase = .activating activation reply)
    (hstopped : a.stopped = false) :
    ∃ c, a.connection? = some c ∧ w.current = some c ∧ Underway s w.sent c activation reply :=
  h.underway (h.newest_of_not_over (not_isOver_of_activating hphase)) _ _ hphase hstopped

/-- What is still under way after a turn. -/
theorem Turn.underway (h : Turn s w a v b) (ha : Placed s w newest a) (hnewest : newest)
    {reply : Option (Except Failure (List Row))} (hphase : b.phase = .activating activation reply)
    (hstopped : b.stopped = false) : ∃ c, b.connection? = some c ∧ v.current = some c ∧
      Underway s v.sent c activation reply := by
  cases h with
  | login hbeside _ hsame =>
    rw [hsame, hbeside.current, hbeside.sent]
    exact ha.underway hnewest _ _ hphase hstopped
  | waits _ _ _ _ _ _ _ hwaits =>
    rcases hwaits with hother | ⟨failure, hother⟩ <;> cases hphase.symm.trans hother
  | takes _ hc =>
    cases hphase
    exact ⟨_, Attempt.given?_of_holds hc, rfl, .next (.start s w.sent _)⟩
  | sends hbefore hcommand =>
    cases hphase
    obtain ⟨c, hconnection, hcurrent, hunderway⟩ := ha.exists_underway hbefore hstopped
    rw [send_eq hcurrent]
    refine ⟨c, (Attempt.connection?_of_activating hbefore).symm.trans hconnection, hcurrent, ?_⟩
    cases hunderway with
    | next hmidway => exact .answered hcommand hmidway rfl
  | @goesOn before reply hbefore hgo hnext =>
    cases hphase
    obtain ⟨c, hconnection, hcurrent, hunderway⟩ := ha.exists_underway hbefore hgo
    refine ⟨c, (Attempt.connection?_of_activating hbefore).symm.trans hconnection,
      (note_current _ _ w).trans hcurrent, .next ?_⟩
    rw [(note_sameRecord before reply w).2]
    cases hunderway.continues with
    | failed hafter => exact absurd hafter (hnext _)
    | found hafter => exact absurd hafter (hnext _)
    | goesOn _ hmidway => exact hmidway
  | told => cases hstopped
  | ends | stops => cases hphase

/-- What is known of an attempt is known after its turn. -/
theorem Turn.placed (h : Turn s w a v b) (ha : Placed s w newest a) : Placed s v newest b where
  sound := h.sound ha.sound
  bound := fun c hc => by
    rcases h.given hc with hgiven | ⟨-, hlt⟩
    · exact Nat.lt_of_lt_of_le (ha.bound c hgiven) h.length_le
    · exact hlt
  settled := fun hnot => (h.isOver (ha.settled hnot)).2
  inUse := fun hnew c hc => by
    rcases h.connection ha.sound with ⟨hsame, hcurrent⟩ | ⟨d, -, hcurrent, hconnection, -⟩
    · rw [hcurrent]
      exact ha.inUse hnew c (hsame ▸ hc)
    · rw [hcurrent, ← hconnection, hc]
      exact Or.inr rfl
  underway := fun hnew _ _ hphase hstopped => h.underway ha hnew hphase hstopped

/-- What is known of another attempt is known after a turn, too. -/
theorem Turn.placed_other (h : Turn s w a v b) {other : Prop} (ha : Placed s w newest a)
    (ho : Placed s w other o) (hone : newest → ¬ other) : Placed s v other o := by
  cases hover : a.isOver with
  | true => exact ho.beside (h.isOver hover).1
  | false => exact ho.older (hone (ha.newest_of_not_over hover)) h.length_le

/-- What a turn does to the name that is noted for the connection in use: nothing, or the turn takes
a connection into use or goes on with its activation, or the activation is done. -/
theorem Turn.noted_cases (h : Turn s w a v b) (ha : Placed s w newest a) :
    (v.current = w.current ∧ v.active = w.active ∧ w.sent <+: v.sent ∧
      (∀ c < w.connections.length, v.isOpen c = true → w.isOpen c = true) ∧
      b.connection? = a.connection? ∧ (b.endedWell = true → a.endedWell = true)) ∨
    (∃ c, v.current = some c ∧ b.connection? = some c ∧ b.endedWell = false) ∨
    ∃ c, v.current = some c ∧ Noted v c := by
  have hkept := h.connection ha.sound
  cases h with
  | login hbeside _ hsame =>
    exact Or.inl ⟨hbeside.current, hbeside.active, hbeside.sent ▸ List.prefix_refl _,
      hbeside.isOpen, hsame, id⟩
  | waits hbeside hnone _ _ _ hnone' _ hwaits =>
    refine Or.inl ⟨hbeside.current, hbeside.active, hbeside.sent ▸ List.prefix_refl _,
      hbeside.isOpen, hnone'.trans hnone.symm, fun hwell => ?_⟩
    rcases hwaits with hphase | ⟨failure, hphase⟩ <;>
      (rw [Attempt.endedWell, hphase] at hwell; cases hwell)
  | takes _ hc => exact Or.inr (Or.inl ⟨_, rfl, Attempt.given?_of_holds hc, rfl⟩)
  | @sends before command hphase _ =>
    obtain ⟨ds, hds⟩ := send_frame s command w
    refine Or.inl ⟨send_current s _ w, by rw [hds]; rfl, by rw [hds]; exact List.prefix_append _ _,
      fun c _ hc => by rw [hds] at hc; exact hc,
      (Attempt.connection?_of_activating hphase).symm,
      fun hwell => absurd hwell Bool.false_ne_true⟩
  | goesOn hphase hgo _ =>
    obtain ⟨c, hconnection, hcurrent, -⟩ := ha.exists_underway hphase hgo
    exact Or.inr (Or.inl ⟨c, (note_current _ _ w).trans hcurrent,
      (Attempt.connection?_of_activating hphase).symm.trans hconnection, rfl⟩)
  | @ends before reply result hphase hgo hresult =>
    obtain ⟨c, hconnection, hcurrent, hunderway⟩ := ha.exists_underway hphase hgo
    have hnow := (note_current before reply w).trans hcurrent
    cases hunderway.continues with
    | failed hafter =>
      cases hresult.symm.trans hafter
      obtain ⟨d, hd⟩ := ha.sound.holds hphase
      rw [Attempt.connection?_of_activating hphase, Attempt.given?_of_holds hd] at hconnection
      exact Or.inr (Or.inl ⟨c, hnow, hd.connection?_over.trans hconnection, rfl⟩)
    | goesOn hnext => exact absurd hresult (hnext _)
    | @found name found earlier ds _ hsent hactivates hactive =>
      refine Or.inr (Or.inr ⟨c, hnow, found, ⟨s, earlier, ds, [], ?_, hactivates⟩, ?_⟩)
      · rw [(note_sameRecord before reply w).2, List.append_nil]
        exact hsent
      · rintro name rfl
        exact hactive w
  | told => exact Or.inl ⟨rfl, rfl, List.prefix_refl _, fun _ _ h => h, rfl, id⟩
  | stops hphase =>
    rcases hkept with ⟨hsame, -⟩ | ⟨d, -, hcurrent, hconnection, hnot⟩
    · exact Or.inl ⟨rfl, rfl, List.prefix_refl _, fun _ _ h => h, hsame,
        fun hwell => absurd hwell Bool.false_ne_true⟩
    · exact Or.inr (Or.inl ⟨d, hcurrent, hconnection, hnot⟩)

end AskTable.Warehouse
