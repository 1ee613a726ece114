import AskTable.Proofs.OwnErrors

/-!
# Kinds of errors

The kind of an error tells what went wrong for the caller. Connecting ends with an outcome whatever
becomes of the login, and a question that is missing is the only one with an error that says so.

* `isBlank_text_iff`: a text is no question if it has nothing but blanks.
* `finish_error`: an activation never fails because something was refused.
* `IsLoginFailure`, `connect_error`: an attempt to connect fails as its login may fail.
* `connectRemote_error`, `success_eq_false_iff`: what the caller is told then.
* `Course.kind`, `submit_validation_iff`: how questions fail.
-/

namespace AskTable

open AskTable.Text

/-! ## Questions without text -/

theorem Text.trim_eq_nil_iff (s : List Char) : trim s = [] ↔ ∀ c ∈ s, isBlank c = true := by
  rw [trim, trimEnd, List.reverse_eq_nil_iff, trimStart_eq_nil_iff, ← trimStart_eq_nil_iff s]
  constructor
  · intro h
    rw [← trimStart_trimStart, trimStart_eq_nil_iff]
    exact fun c hc => h c (List.mem_reverse.mpr hc)
  · intro h c hc
    rw [h] at hc
    cases hc

/-- A text is no question if it has nothing but blanks. -/
theorem Inquiry.isBlank_text_iff (question : String) :
    Inquiry.isBlank (.text question) = true ↔
      ∀ c ∈ question.toList, Text.isBlank c = true := by
  rw [← trim_eq_nil_iff]
  by_cases hempty : question = ""
  · subst hempty
    exact iff_of_true rfl rfl
  · simp [Inquiry.isBlank, Cell.truthy, Cell.plainText, hempty]

/-! ## Errors of the assistant -/

namespace Warehouse

variable {s : Service} {w v : Warehouse} {c : Nat} {failure : Failure}

/-- After a reply an activation ends with an error that is passed on, or it fails as its rest does. -/
theorem after_error {a : Activation} {command : Command} (ha : a.command? = some command)
    (hc : w.current = some c) {reply : Except Failure (List Row)} {u : Warehouse}
    (hs : send s command w = (reply, v))
    (hrest : (∀ failure, a.after s reply ≠ .finished (.error failure)) →
      ((a.after s reply).finish s u).1 = .error failure → ∃ fault, failure = .fault fault)
    (h : ((a.after s reply).finish s u).1 = .error failure) : ∃ fault, failure = .fault fault := by
  have hreply : ∀ failure, reply = .error failure →
      Activation.isRefusal failure = true ∨ ∃ fault, failure = .fault fault := by
    rintro failure rfl
    exact send_failure hc hs
  rcases after_cases s ha hreply with ⟨fault, -, hlast⟩ | ⟨-, hnext⟩
  · rw [hlast, Activation.finish] at h
    cases h
    exact ⟨fault, rfl⟩
  · exact hrest hnext h

/-- An activation fails only with an error that is passed on. -/
theorem finish_error {a : Activation} (hc : w.current = some c)
    (ha : ∀ failure, a ≠ .finished (.error failure))
    (h : (a.finish s w).1 = .error failure) : ∃ fault, failure = .fault fault := by
  fun_induction Activation.finish s a w with
  | case1 w result => exact absurd (congrArg Activation.finished h) (ha failure)
  | case2 w reply v hs ih =>
    have hv : v.current = some c := by
      rw [← hc, ← send_current s Activation.listCommand w, hs]
    exact after_error (a := .listing) rfl hc hs (ih hv) h
  | case3 w name others reply v hs ih =>
    have hv : ((Activation.trying name others).note reply v).current = some c := by
      rw [note_current, ← hc, ← send_current s (Activation.useCommand name) w, hs]
    exact after_error (a := .trying name others) rfl hc hs (ih hv) h

/-- How a login may fail: with an error that says so, or with one that is passed on. -/
inductive IsLoginFailure : Failure → Prop
  | auth {e : AssistantError} : e.kind = .remoteAuth → IsLoginFailure (.own e)
  | passed (fault : Fault) : IsLoginFailure (.fault fault)

theorem isLoginFailure_ofLogin (timeout : Cell) (e : RemoteFault) :
    IsLoginFailure (e.ofLogin timeout) := by
  cases e with
  | reported => exact .auth rfl
  | overdue => exact .auth rfl
  | broken => exact .passed _

theorem login_error (h : (login s w).1 = .error failure) : IsLoginFailure failure := by
  unfold login at h
  split at h
  · unfold leaveLogin at h
    split at h
    · cases h
    · cases h
      exact isLoginFailure_ofLogin _ _
  · cases h
    exact .auth rfl

theorem patientLogin_error (h : (patientLogin s w).1 = .error failure) :
    IsLoginFailure failure := by
  unfold patientLogin at h
  split at h
  · cases h
    exact .passed _
  · cases h
    exact .auth rfl
  · exact login_error h

/-- Connecting fails because the login does, or with an error that is passed on. -/
theorem connect_error (h : (connect s w).1 = .error failure) : IsLoginFailure failure := by
  unfold connect at h
  split at h
  · cases h
  · unfold establish at h
    rcases hl : patientLogin s w with ⟨failure' | c, v⟩
    · rw [hl] at h
      cases h
      exact patientLogin_error (congrArg Prod.fst hl)
    · rw [hl] at h
      rcases ha : (activate s (install c v)).1 with failure' | name
      · simp only [done, ha, Except.map] at h
        cases h
        obtain ⟨fault, rfl⟩ := finish_error rfl (by simp) ha
        exact .passed fault
      · simp only [done, ha, Except.map] at h
        cases h

end Warehouse

namespace Assistant

open AskTable.Warehouse

variable {s : Setup} {a : Assistant} {failure : Failure}

/-- The login of an attempt to connect fails. -/
def LoginFails (s : Setup) (a : Assistant) : Prop :=
  ∃ e, (connect s.service a.warehouse).1 = .error (.own e) ∧ e.kind = .remoteAuth

/-- Connecting fails only with an error that is passed on. -/
theorem connectRemote_error (h : (a.connectRemote s).1 = .error failure) :
    ∃ fault, failure = .fault fault := by
  unfold connectRemote at h
  rcases hc : connect s.service a.warehouse with ⟨failure' | done, w⟩
  · cases connect_error (congrArg Prod.fst hc) with
    | auth hkind => simp [hc, reportConnect, refusal, hkind] at h
    | passed fault =>
      simp only [hc, reportConnect, refusal] at h
      cases h
      exact ⟨fault, rfl⟩
  · simp [hc, reportConnect] at h

/-- Connecting has success unless the login fails. -/
theorem success_eq_false_iff {outcome : ConnectOutcome}
    (h : (a.connectRemote s).1 = .ok outcome) : outcome.success = false ↔ LoginFails s a := by
  unfold connectRemote at h
  unfold LoginFails
  rcases hc : connect s.service a.warehouse with ⟨failure | done, w⟩
  · cases connect_error (congrArg Prod.fst hc) with
    | auth hkind =>
      simp only [hc, reportConnect, refusal, hkind] at h
      cases h
      exact iff_of_true rfl ⟨_, rfl, hkind⟩
    | passed fault => simp [hc, reportConnect, refusal] at h
  · simp only [hc, reportConnect] at h
    cases h
    refine iff_of_false (by simp [ConnectOutcome.success]) ?_
    rintro ⟨e, he, -⟩
    cases he

theorem report_kind {question statement : Cell} {origin : Origin} {rows : List Row}
    {e : AssistantError}
    (h : Inquiry.report s question statement origin rows = .error (.own e)) :
    e.kind = .internalProcessing := by
  obtain ⟨fault, -, hinternal⟩ := report_eq_error_iff.mp h
  cases hinternal
  rfl

theorem isRemote_kind {e : AssistantError} (h : IsRemote (.own e)) : e.kind ≠ .validation := by
  cases h with
  | auth hkind => rw [hkind]; decide
  | execution hkind => rw [hkind]; decide

/-- No question fails for being blank that is not. -/
theorem Course.kind {question : Cell} {b : Assistant} {e : AssistantError}
    (h : Course s question a (.error (.own e)) b) (hblank : Inquiry.isBlank question = false) :
    e.kind ≠ .validation := by
  generalize hr : Except.error (Failure.own e) = result at h
  cases h with
  | blank hyes => rw [hblank] at hyes; cases hyes
  | unread _ _ hload =>
    rcases loadTable_eq_error hload with ⟨e', rfl, hkind⟩ | ⟨fault, rfl⟩
    · cases hr
      rw [hkind]
      decide
    · cases hr
      simp
  | advised => cases hr
  | undescribed _ _ hc hd =>
    cases hr
    exact isRemote_kind ((describe_tells hc).isRemote _ (congrArg Prod.fst hd))
  | untranslated =>
    cases hr
    simp
  | fileAnswered => rw [report_kind hr.symm]; decide
  | refused _ hl _ hs =>
    cases hr
    cases hl with
    | warehouse _ hc hd =>
      exact isRemote_kind ((describe_send_tells hc hd _).isRemote _ (congrArg Prod.fst hs))
  | remoteAnswered => rw [report_kind hr.symm]; decide

/-- A question fails for being blank exactly if it is. -/
theorem submit_validation_iff (question : Cell) :
    (∃ e, (a.submit s question).1 = .error (.own e) ∧ e.kind = .validation) ↔
      Inquiry.isBlank question = true := by
  have hcourse := submit_course s question a
  constructor
  · rintro ⟨e, he, hkind⟩
    rw [he] at hcourse
    cases hblank : Inquiry.isBlank question with
    | true => rfl
    | false => exact absurd hkind (hcourse.kind hblank)
  · intro hblank
    rw [(Course.blank hblank).submit_eq]
    exact ⟨_, rfl, rfl⟩

end Assistant

end AskTable
