import AskTable.Proofs.SessionMode

/-!
# What a failure leaves

The session is replaced in the middle of a question: right after a data file is loaded, and right
after the warehouse has answered a statement. A failure before this point leaves the session as it
was, and a failure after it leaves the new one.

* `Course.submit_eq`: a question takes only one way, so that `Course` tells what becomes of it.
* `FailsAt`: the points at which a question may fail, each with its failure and the session that it
  leaves.
* `Leaves`: the session after a call is the one from before, untouched, or a new one.
* `submit_fails_iff`: a question fails exactly at these points, with these sessions.
* `Reachable.failure_leaves`: what failures leave at every moment of a run.
-/

namespace AskTable.Assistant

open AskTable.File AskTable.Inquiry AskTable.Statement AskTable.Warehouse

variable {s : Setup} {question : Cell} {a b : Assistant}

/-! ## A question takes one way -/

theorem finish_done (s : Setup) (result : Except Failure QueryOutcome) (a : Assistant) :
    (Inquiry.done result).finish s a = (result, a) := by
  rw [Inquiry.finish]

/-- What is left of a question whose data is found. -/
theorem Located.submit_eq {origin : Origin} {schema : List Descriptor}
    (h : Located s a origin schema b) (hblank : isBlank question = false) :
    a.submit s question = (Inquiry.located question origin schema).finish s b := by
  rw [submit, Inquiry.finish]
  cases h with
  | file hfile hload => simp [step, hblank, locate_of_ok hfile hload]
  | warehouse hfile hc hd =>
    simp [step, hblank, locate_of_noFile hfile, locateRemote, wasConnected, hc, hd, withWarehouse]

/-- What is left of a question that is translated. -/
theorem Located.finish_eq {origin : Origin} {schema : List Descriptor} {statement : Cell}
    (h : Located s a origin schema b) (hblank : isBlank question = false)
    (ht : s.translator question (schema.take maxDescriptors) = .ok statement) :
    a.submit s question = (Inquiry.translated question origin statement).finish s
      (b.asked question (schema.take maxDescriptors)) := by
  rw [h.submit_eq hblank, Inquiry.finish]
  simp [step, Inquiry.translate, consult, ht, asked]

/-- A question takes only one way. -/
theorem Course.submit_eq {result : Except Failure QueryOutcome}
    (h : Course s question a result b) : a.submit s question = (result, b) := by
  cases h with
  | blank hblank =>
    rw [submit, Inquiry.finish]
    simp [step, hblank, finish_done]
  | unread hblank hfile hload =>
    rw [submit, Inquiry.finish]
    simp [step, hblank, locate_of_error hfile hload, finish_done]
  | advised hblank hfile hc =>
    rw [submit, Inquiry.finish]
    simp [step, hblank, locate_of_noFile hfile, locateRemote, wasConnected, hc, finish_done]
  | undescribed hblank hfile hc hd =>
    rw [submit, Inquiry.finish]
    simp [step, hblank, locate_of_noFile hfile, locateRemote, wasConnected, hc, hd, finish_done,
      withWarehouse]
  | untranslated hblank hl ht =>
    rw [hl.submit_eq hblank, Inquiry.finish]
    simp [step, Inquiry.translate, consult, ht, finish_done, asked, Inquiry.untranslated]
  | fileAnswered hblank hl ht =>
    rw [hl.finish_eq hblank ht, Inquiry.finish]
    simp [step, answer, finish_done]
  | refused hblank hl ht hs =>
    rw [hl.finish_eq hblank ht, Inquiry.finish]
    simp [step, answer, asked, hs, finish_done, withWarehouse]
  | remoteAnswered hblank hl ht hs =>
    rw [hl.finish_eq hblank ht, Inquiry.finish]
    simp [step, answer, asked, hs, finish_done, withWarehouse]

/-! ## Points of failure -/

/-- The data file is loaded for a question. -/
structure AskedOfFile (s : Setup) (question : Cell) (a : Assistant) (path : String)
    (table : Table) : Prop where
  given : isBlank question = false
  file : dataFile? a.disk s.uploads = some path
  loaded : loadTable a.disk path = .ok table

/-- A question goes to the warehouse: there is no data file, but a connection. -/
structure AskedOfWarehouse (s : Setup) (question : Cell) (a : Assistant) : Prop where
  given : isBlank question = false
  noFile : dataFile? a.disk s.uploads = none
  connected : a.warehouse.wasConnected = true

/-- The points at which a question may fail, each with its failure and the session that it leaves;
`none` stands for the one from before. -/
inductive FailsAt (s : Setup) (question : Cell) (a : Assistant) :
    Failure → Option Session → Prop
  | asking : isBlank question = true → FailsAt s question a blankQuestion none
  | loading {path : String} {failure : Failure} : isBlank question = false →
      dataFile? a.disk s.uploads = some path → loadTable a.disk path = .error failure →
      FailsAt s question a (unread failure) none
  | translating {path : String} {table : Table} {fault : Fault} :
      AskedOfFile s question a path table →
      s.translator question (table.describe.take maxDescriptors) = .error fault →
      FailsAt s question a (untranslated fault) (some (.file path table))
  | analysing {path : String} {table : Table} {statement : Cell} {failure : Failure} :
      AskedOfFile s question a path table →
      s.translator question (table.describe.take maxDescriptors) = .ok statement →
      report s question statement (.file path table) (execute statement table) = .error failure →
      FailsAt s question a failure (some (.file path table))
  | reconnecting {failure : Failure} {w : Warehouse} : AskedOfWarehouse s question a →
      ensureConnected s.service a.warehouse = (.error failure, w) →
      FailsAt s question a failure none
  | describing {failure : Failure} {v w : Warehouse} : AskedOfWarehouse s question a →
      ensureConnected s.service a.warehouse = (.ok (), v) →
      send s.service (catalogCommand s.service.config.schema) v = (.error failure, w) →
      FailsAt s question a failure none
  | remoteTranslating {schema : List Descriptor} {w : Warehouse} {fault : Fault} :
      AskedOfWarehouse s question a → describe s.service a.warehouse = (.ok schema, w) →
      s.translator question (schema.take maxDescriptors) = .error fault →
      FailsAt s question a (untranslated fault) none
  | executing {schema : List Descriptor} {statement : Cell} {failure : Failure}
      {v w : Warehouse} : AskedOfWarehouse s question a →
      describe s.service a.warehouse = (.ok schema, v) →
      s.translator question (schema.take maxDescriptors) = .ok statement →
      send s.service (.plain statement) v = (.error failure, w) → FailsAt s question a failure none
  | remoteAnalysing {schema : List Descriptor} {statement : Cell} {rows : List Row}
      {failure : Failure} {v w : Warehouse} : AskedOfWarehouse s question a →
      describe s.service a.warehouse = (.ok schema, v) →
      s.translator question (schema.take maxDescriptors) = .ok statement →
      send s.service (.plain statement) v = (.ok rows, w) →
      report s question statement .warehouse rows = .error failure →
      FailsAt s question a failure (some .remote)

/-- The session of `b` is the one of `a`, untouched, or a new one in its place. -/
def Leaves (a b : Assistant) : Option Session → Prop
  | none => b.session = a.session ∧ b.swaps = a.swaps
  | some session => b.session = session ∧ b.swaps = a.swaps + 1

theorem Leaves.unique {o o' : Option Session} (h : Leaves a b o) (h' : Leaves a b o') : o = o' := by
  cases o with
  | none =>
    cases o' with
    | none => rfl
    | some session => exact absurd (h.2.symm.trans h'.2) (by omega)
  | some session =>
    cases o' with
    | none => exact absurd (h.2.symm.trans h'.2) (by omega)
    | some session' => rw [h.1.symm.trans h'.1]

/-- The schema cannot be told because there is no connection again, or because it is refused. -/
theorem describe_eq_error {service : Service} {w w' : Warehouse} {failure : Failure}
    (h : describe service w = (.error failure, w')) :
    (∃ v, ensureConnected service w = (.error failure, v)) ∨
    ∃ v v', ensureConnected service w = (.ok (), v) ∧
      send service (catalogCommand service.config.schema) v = (.error failure, v') := by
  rw [describe] at h
  rcases he : ensureConnected service w with ⟨failure' | done, v⟩
  · rw [he] at h
    cases h
    exact Or.inl ⟨_, rfl⟩
  · rw [he] at h
    rcases hs : send service (catalogCommand service.config.schema) v with ⟨failure' | rows, v'⟩
    · simp only [hs, Except.map] at h
      cases h
      exact Or.inr ⟨v, _, rfl, hs⟩
    · simp only [hs, Except.map] at h
      cases h

/-- A question that fails does so at one of the points, and leaves that session. -/
theorem Course.failsAt {failure : Failure} (h : Course s question a (.error failure) b) :
    ∃ o, FailsAt s question a failure o ∧ Leaves a b o := by
  generalize hr : Except.error failure = result at h
  cases h with
  | blank hblank =>
    cases hr
    exact ⟨none, .asking hblank, rfl, rfl⟩
  | unread hblank hfile hload =>
    cases hr
    exact ⟨none, .loading hblank hfile hload, rfl, rfl⟩
  | advised => cases hr
  | undescribed hblank hfile hc hd =>
    cases hr
    have hasked : AskedOfWarehouse s question a := ⟨hblank, hfile, by simp [wasConnected, hc]⟩
    rcases describe_eq_error hd with ⟨v, he⟩ | ⟨v, v', he, hs⟩
    · exact ⟨none, .reconnecting hasked he, rfl, rfl⟩
    · exact ⟨none, .describing hasked he hs, rfl, rfl⟩
  | untranslated hblank hl ht =>
    cases hr
    cases hl with
    | file hfile hload => exact ⟨_, .translating ⟨hblank, hfile, hload⟩ ht, rfl, rfl⟩
    | warehouse hfile hc hd =>
      exact ⟨none, .remoteTranslating ⟨hblank, hfile, by simp [wasConnected, hc]⟩ hd ht, rfl, rfl⟩
  | fileAnswered hblank hl ht =>
    cases hl with
    | file hfile hload => exact ⟨_, .analysing ⟨hblank, hfile, hload⟩ ht hr.symm, rfl, rfl⟩
  | refused hblank hl ht hs =>
    cases hr
    cases hl with
    | warehouse hfile hc hd =>
      exact ⟨none, .executing ⟨hblank, hfile, by simp [wasConnected, hc]⟩ hd ht hs, rfl, rfl⟩
  | remoteAnswered hblank hl ht hs =>
    cases hl with
    | warehouse hfile hc hd =>
      exact ⟨_, .remoteAnalysing ⟨hblank, hfile, by simp [wasConnected, hc]⟩ hd ht hs hr.symm,
        rfl, rfl⟩

theorem AskedOfWarehouse.exists_current (h : AskedOfWarehouse s question a) :
    ∃ c, a.warehouse.current = some c :=
  Option.isSome_iff_exists.mp h.connected

/-- Each of the points is on a way that a question takes. -/
theorem FailsAt.course {failure : Failure} {o : Option Session}
    (h : FailsAt s question a failure o) :
    ∃ b, Course s question a (.error failure) b ∧ Leaves a b o := by
  cases h with
  | asking hblank => exact ⟨_, .blank hblank, rfl, rfl⟩
  | loading hblank hfile hload => exact ⟨_, .unread hblank hfile hload, rfl, rfl⟩
  | translating hf ht =>
    exact ⟨_, .untranslated hf.given (.file hf.file hf.loaded) ht, rfl, rfl⟩
  | analysing hf ht hr =>
    rw [← hr]
    exact ⟨_, .fileAnswered hf.given (.file hf.file hf.loaded) ht, rfl, rfl⟩
  | @reconnecting failure w hw he =>
    obtain ⟨c, hc⟩ := hw.exists_current
    have hd : describe s.service a.warehouse = (.error failure, w) := by
      rw [describe, he]
    exact ⟨_, .undescribed hw.given hw.noFile hc hd, rfl, rfl⟩
  | @describing failure v w hw he hs =>
    obtain ⟨c, hc⟩ := hw.exists_current
    have hd : describe s.service a.warehouse = (.error failure, w) := by
      rw [describe, he]
      simp only [hs, Except.map]
    exact ⟨_, .undescribed hw.given hw.noFile hc hd, rfl, rfl⟩
  | remoteTranslating hw hd ht =>
    obtain ⟨c, hc⟩ := hw.exists_current
    exact ⟨_, .untranslated hw.given (.warehouse hw.noFile hc hd) ht, rfl, rfl⟩
  | executing hw hd ht hs =>
    obtain ⟨c, hc⟩ := hw.exists_current
    exact ⟨_, .refused hw.given (.warehouse hw.noFile hc hd) ht hs, rfl, rfl⟩
  | remoteAnalysing hw hd ht hs hr =>
    obtain ⟨c, hc⟩ := hw.exists_current
    rw [← hr]
    exact ⟨_, .remoteAnswered hw.given (.warehouse hw.noFile hc hd) ht hs, rfl, rfl⟩

/-- A question fails exactly at these points, and each leaves its session. -/
theorem submit_fails_iff (s : Setup) (question : Cell) (a : Assistant) (failure : Failure)
    (o : Option Session) :
    (a.submit s question).1 = .error failure ∧ Leaves a (a.submit s question).2 o ↔
      FailsAt s question a failure o := by
  constructor
  · rintro ⟨hfails, hleaves⟩
    have hcourse := submit_course s question a
    rw [hfails] at hcourse
    obtain ⟨o', hat, hleaves'⟩ := hcourse.failsAt
    rwa [hleaves.unique hleaves']
  · intro hat
    obtain ⟨b, hcourse, hleaves⟩ := hat.course
    rw [hcourse.submit_eq]
    exact ⟨rfl, hleaves⟩

/-! ## Other calls -/

/-- Telling the schema never touches the session. -/
theorem describeSchema_leaves (s : Setup) (a : Assistant) :
    Leaves a (a.describeSchema s).2 none :=
  ⟨rfl, rfl⟩

/-- Connecting that has no success leaves the session as it was. -/
theorem connectRemote_leaves {s : Setup} {a : Assistant}
    (h : ∀ o, (a.connectRemote s).1 = .ok o → o.success = false) :
    Leaves a (a.connectRemote s).2 none := by
  simp only [connectRemote] at h ⊢
  rcases hc : connect s.service a.warehouse with ⟨failure | done, w⟩
  · exact ⟨rfl, rfl⟩
  · rw [hc] at h
    exact absurd (h _ rfl) (by simp [ConnectOutcome.success])

/-! ## Runs -/

/-- **What failures leave** at every moment of a run, whatever the translator and the warehouse do.
A question fails exactly at the points of `FailsAt`, and the session after it is the one that stands
there. When the schema cannot be told or connecting has no success, the session stays as it was. The
session after a call is always sound. -/
theorem Reachable.failure_leaves {a : Assistant} (h : Reachable (fun _ => True) a) (s : Setup) :
    (∀ question failure, (a.submit s question).1 = .error failure →
      ∃ o, FailsAt s question a failure o) ∧
    (∀ question failure o, FailsAt s question a failure o →
      (a.submit s question).1 = .error failure ∧ Leaves a (a.submit s question).2 o) ∧
    (∀ failure, (a.describeSchema s).1 = .error failure → Leaves a (a.describeSchema s).2 none) ∧
    ((∀ o, (a.connectRemote s).1 = .ok o → o.success = false) →
      Leaves a (a.connectRemote s).2 none) ∧
    ∀ e, (a.perform s e).session.Sound := by
  refine ⟨fun question failure hfails => ?_, fun question failure o hat => ?_, fun _ _ => ?_,
    connectRemote_leaves, fun e => ?_⟩
  · have hcourse := submit_course s question a
    rw [hfails] at hcourse
    obtain ⟨o, hat, -⟩ := hcourse.failsAt
    exact ⟨o, hat⟩
  · exact (submit_fails_iff s question a failure o).mpr hat
  · exact describeSchema_leaves s a
  · exact perform_sound s a e (h.invariant (fun _ => Session.sound_idle)
      fun s a e _ ha => perform_sound s a e ha)

/-- A setup whose translator is out of order. -/
def speechless : Setup :=
  { sampleSetup with translator := fun _ _ => .error (.raised "RuntimeError" "out of order") }

/-- A setup whose warehouse accepts no login. -/
def lockedOut : Setup :=
  { sampleSetup with
    service := ⟨sampleSetup.service.config, ⟨fun _ => .error (.report "denied" 0),
      fun _ _ => .ok []⟩⟩ }

/-- The data file that was asked is removed, and the connection is shut. -/
def deserted : Assistant :=
  (visited.perform sampleSetup (.files ⟨"/", []⟩)).perform sampleSetup (.drop 0)

/-- A question that is not translated leaves the file that was loaded for it. Without the file the
next question needs the warehouse, and when nobody can log in the session stays that of the file. -/
theorem failure_leaves_deserted :
    (∃ failure path table, (visited.submit speechless (.text "all")).1 = .error failure ∧
      Leaves visited (visited.submit speechless (.text "all")).2 (some (.file path table))) ∧
    deserted.session.mode = .file ∧
      (∃ failure, (deserted.submit lockedOut (.text "all")).1 = .error failure ∧
        Leaves deserted (deserted.submit lockedOut (.text "all")).2 none) ∧
      Leaves deserted (deserted.describeSchema lockedOut).2 none ∧
      Leaves deserted (deserted.connectRemote lockedOut).2 none := by
  have hvisited : Reachable (fun _ => True) visited :=
    .step _ trivial (.step _ trivial (.step _ trivial (.start _)))
  have hdeserted : Reachable (fun _ => True) deserted := .step _ trivial (.step _ trivial hvisited)
  obtain ⟨-, hquestion, -⟩ := Reachable.failure_leaves hvisited speechless
  obtain ⟨-, hremote, hschema, hconnect, -⟩ := Reachable.failure_leaves hdeserted lockedOut
  refine ⟨?_, by decide +kernel, ?_, ?_, ?_⟩
  · have hfile : dataFile? visited.disk speechless.uploads = some "/uploads/people.csv" := by
      decide +kernel
    have hload : (loadTable visited.disk "/uploads/people.csv").isOk = true := by decide +kernel
    rcases hl : loadTable visited.disk "/uploads/people.csv" with failure | table
    · simp [hl, Except.isOk, Except.toBool] at hload
    · exact ⟨_, _, _, hquestion _ _ _ (.translating ⟨by decide +kernel, hfile, hl⟩ rfl)⟩
  · have hensure : (ensureConnected lockedOut.service deserted.warehouse).1.isOk = false := by
      decide +kernel
    rcases he : ensureConnected lockedOut.service deserted.warehouse with ⟨failure | done, w⟩
    · exact ⟨_, hremote _ _ _ (.reconnecting
        ⟨by decide +kernel, by decide +kernel, by decide +kernel⟩ he)⟩
    · simp [he, Except.isOk, Except.toBool] at hensure
  · have hfails : (deserted.describeSchema lockedOut).1.isOk = false := by decide +kernel
    rcases hs : (deserted.describeSchema lockedOut).1 with failure | catalog
    · exact hschema failure hs
    · simp [hs, Except.isOk, Except.toBool] at hfails
  · have hrefused : (deserted.connectRemote lockedOut).1.toOption.map ConnectOutcome.success =
        some false := by decide +kernel
    refine hconnect fun o ho => ?_
    simpa [ho, Except.toOption] using hrefused

end AskTable.Assistant
