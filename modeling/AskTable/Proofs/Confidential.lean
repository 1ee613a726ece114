import AskTable.Proofs.Failures
import AskTable.Terminal.Launch
import Mathlib.Data.List.Forall2
import Mathlib.Data.List.Induction

/-!
# What a translator may learn

The rows of a data file stay with the assistant: what a translator is asked, and with it a language
model, tells of a file no more than the names of its columns. So two runs that differ in their rows
alone ask it the same.

* `glimpse`: what may be seen of a data file.
* `Inquiry.Twin`, `SameTalk`, `Paired`: inquiries at the same stage, and assistants that have asked
  the translator and told the warehouse the same; `step_paired`: one more stage keeps this.
* `perform_sameTalk`: so does every action.
* `Desk`: an assistant with inquiries under way, whose stages come in any order; `Learner`: a
  translator that remembers; `requestsOf`: what it asks a language model.
* `Twins`: two runs with the same turns and other rows; `Twins.same_prompts`: they ask the same.
-/

namespace AskTable

open AskTable.File AskTable.Inquiry AskTable.Model AskTable.Statement AskTable.Terminal
  AskTable.Warehouse

/-! ## Data files -/

/-- The names of a table's columns. -/
def Table.heading (t : Table) : List Cell := t.columns.map (·.cell)

/-- The columns of a table are described by their names alone. -/
theorem Table.describe_eq (t : Table) :
    t.describe = t.heading.map fun name => ⟨.text localTable, name, .text "VARCHAR", true⟩ := by
  rw [describe, heading, List.map_map]
  rfl

/-- What may be seen of the data file in a folder: whether there is one, whether it can be loaded,
and the names of its columns. -/
def glimpse (folder : String) (disk : Disk) : Option (Option (List Cell)) :=
  (dataFile? disk folder).map fun path => (loadTable disk path).toOption.map Table.heading

theorem glimpse_of_file {folder path : String} {disk : Disk}
    (h : dataFile? disk folder = some path) :
    glimpse folder disk = some ((loadTable disk path).toOption.map Table.heading) := by
  rw [glimpse, h, Option.map_some]

/-- Two folders with the same glimpse: neither has a data file, or both have one that cannot be
loaded, or both have one with the same names. -/
theorem glimpse_eq_cases {folder : String} {disk disk' : Disk}
    (h : glimpse folder disk = glimpse folder disk') :
    (dataFile? disk folder = none ∧ dataFile? disk' folder = none) ∨
    ∃ path path', dataFile? disk folder = some path ∧ dataFile? disk' folder = some path' ∧
      ((∃ failure failure', loadTable disk path = .error failure ∧
        loadTable disk' path' = .error failure') ∨
      ∃ table table', loadTable disk path = .ok table ∧ loadTable disk' path' = .ok table' ∧
        table.heading = table'.heading) := by
  rcases hfile : dataFile? disk folder with - | path
  · refine Or.inl ⟨rfl, ?_⟩
    rw [glimpse, hfile, glimpse, Option.map_none, eq_comm, Option.map_eq_none_iff] at h
    exact h
  · rcases hfile' : dataFile? disk' folder with - | path'
    · rw [glimpse_of_file hfile, glimpse, hfile'] at h
      cases h
    · refine Or.inr ⟨path, path', rfl, rfl, ?_⟩
      rw [glimpse_of_file hfile, glimpse_of_file hfile', Option.some.injEq] at h
      rcases hload : loadTable disk path with failure | table
      · rcases hload' : loadTable disk' path' with failure' | table'
        · exact Or.inl ⟨failure, failure', rfl, rfl⟩
        · rw [hload, hload'] at h
          cases h
      · rcases hload' : loadTable disk' path' with failure' | table'
        · rw [hload, hload'] at h
          cases h
        · rw [hload, hload'] at h
          exact Or.inr ⟨table, table', rfl, rfl, Option.some.inj h⟩

/-! ## Stages -/

/-- Two inquiries are at the same stage about the same question, with the same schema or statement
and data in the same kind of place. Their results may differ. -/
inductive Inquiry.Twin : Inquiry → Inquiry → Prop
  | asked (question : Cell) : Twin (.asked question) (.asked question)
  | located (question : Cell) (schema : List Descriptor) {origin origin' : Origin} :
      origin.mode = origin'.mode →
      Twin (.located question origin schema) (.located question origin' schema)
  | translated (question statement : Cell) {origin origin' : Origin} :
      origin.mode = origin'.mode →
      Twin (.translated question origin statement) (.translated question origin' statement)
  | done (result result' : Except Failure QueryOutcome) : Twin (.done result) (.done result')

/-- Does the next stage of an inquiry load the data file? -/
def Inquiry.loads : Inquiry → Bool
  | .asked question => !isBlank question
  | _ => false

/-- Two assistants have asked the translator the same, and have told the warehouse the same. Their
files and sessions may differ. -/
structure SameTalk (a a' : Assistant) : Prop where
  consulted : a.consulted = a'.consulted
  warehouse : a.warehouse = a'.warehouse

/-- Two inquiries are twins, and so are their assistants. -/
structure Paired (p p' : Inquiry × Assistant) : Prop where
  inquiry : p.1.Twin p'.1
  talk : SameTalk p.2 p'.2

namespace Assistant

variable {s : Setup} {question : Cell} {a a' : Assistant}

theorem locateRemote_paired (s : Setup) (question : Cell) (h : SameTalk a a') :
    Paired (locateRemote s question a) (locateRemote s question a') := by
  unfold locateRemote
  rw [← h.warehouse]
  split
  · rcases describe s.service a.warehouse with ⟨failure | schema, w⟩
    · exact ⟨.done _ _, h.consulted, rfl⟩
    · exact ⟨.located question schema rfl, h.consulted, rfl⟩
  · exact ⟨.done _ _, h.consulted, h.warehouse⟩

/-- Looking for data of which the same may be seen. -/
theorem locate_paired (question : Cell) (h : SameTalk a a')
    (hglimpse : glimpse s.uploads a.disk = glimpse s.uploads a'.disk) :
    Paired (locate s question a) (locate s question a') := by
  rcases glimpse_eq_cases hglimpse with ⟨hfile, hfile'⟩ | ⟨path, path', hfile, hfile', hload⟩
  · rw [locate_of_noFile hfile, locate_of_noFile hfile']
    exact locateRemote_paired s question h
  · rcases hload with ⟨failure, failure', hl, hl'⟩ | ⟨table, table', hl, hl', hnames⟩
    · rw [locate_of_error hfile hl, locate_of_error hfile' hl']
      exact ⟨.done _ _, h⟩
    · have hschema : table.describe = table'.describe := by
        rw [Table.describe_eq, Table.describe_eq, hnames]
      rw [locate_of_ok hfile hl, locate_of_ok hfile' hl', hschema]
      exact ⟨.located question _ rfl, h.consulted, h.warehouse⟩

/-- The same question over the same schema is translated in the same way. -/
theorem translate_paired (s : Setup) (question : Cell) (schema : List Descriptor)
    {origin origin' : Origin} (hmode : origin.mode = origin'.mode) (h : SameTalk a a') :
    Paired (Inquiry.translate s question origin schema a)
      (Inquiry.translate s question origin' schema a') := by
  have hconsulted : a.consulted ++ [(question, schema.take maxDescriptors)] =
      a'.consulted ++ [(question, schema.take maxDescriptors)] := by
    rw [h.consulted]
  simp only [Inquiry.translate, consult]
  rcases s.translator question (schema.take maxDescriptors) with fault | statement
  · exact ⟨.done _ _, hconsulted, h.warehouse⟩
  · exact ⟨.translated question statement hmode, hconsulted, h.warehouse⟩

/-- The same statement is sent to the warehouse, or none is sent. -/
theorem answer_paired (s : Setup) (question statement : Cell) {origin origin' : Origin}
    (hmode : origin.mode = origin'.mode) (h : SameTalk a a') :
    Paired (answer s question origin statement a) (answer s question origin' statement a') := by
  cases origin with
  | file path table =>
    cases origin' with
    | file path' table' => exact ⟨.done _ _, h⟩
    | warehouse => cases hmode
  | warehouse =>
    cases origin' with
    | file path' table' => cases hmode
    | warehouse =>
      simp only [answer]
      rw [← h.warehouse]
      rcases send s.service (.plain statement) a.warehouse with ⟨failure | rows, w⟩
      · exact ⟨.done _ _, h.consulted, rfl⟩
      · exact ⟨.done _ _, h.consulted, rfl⟩

/-- **One stage** keeps two inquiries twins. -/
theorem step_paired {r r' : Inquiry} (hr : r.Twin r') (h : SameTalk a a')
    (hglimpse : r.loads = true → glimpse s.uploads a.disk = glimpse s.uploads a'.disk) :
    Paired (r.step s a) (r'.step s a') := by
  cases hr with
  | asked question =>
    simp only [step]
    by_cases hblank : isBlank question = true
    · rw [if_pos hblank, if_pos hblank]
      exact ⟨.done _ _, h⟩
    · rw [if_neg hblank, if_neg hblank]
      rw [Bool.not_eq_true] at hblank
      exact locate_paired question h (hglimpse (by rw [Inquiry.loads, hblank]; rfl))
  | located question schema hmode => exact translate_paired s question schema hmode h
  | translated question statement hmode => exact answer_paired s question statement hmode h
  | done result result' => exact ⟨.done _ _, h⟩

/-! ## Actions -/

theorem finish_step (s : Setup) (r : Inquiry) (a : Assistant) :
    r.finish s a = (r.step s a).1.finish s (r.step s a).2 := by
  cases r with
  | asked question => rw [Inquiry.finish]
  | located question origin schema => rw [Inquiry.finish]
  | translated question origin statement => rw [Inquiry.finish]
  | done result => rfl

/-- Only the first stage loads a data file. -/
theorem loads_step (s : Setup) (r : Inquiry) (a : Assistant) : (r.step s a).1.loads = false := by
  have hstages := stages_step s r a
  have hbefore : r.stages ≤ 3 := by cases r <;> simp [stages]
  cases hr : (r.step s a).1 with
  | asked question =>
    have hasked : (Inquiry.asked question).stages = 3 := rfl
    rw [hr, hasked] at hstages
    omega
  | located => rfl
  | translated => rfl
  | done => rfl

/-- Twins stay twins to their end. -/
theorem finish_sameTalk (n : Nat) {r r' : Inquiry} (hn : r.stages ≤ n) (hr : r.Twin r')
    (h : SameTalk a a')
    (hglimpse : r.loads = true → glimpse s.uploads a.disk = glimpse s.uploads a'.disk) :
    SameTalk (r.finish s a).2 (r'.finish s a').2 := by
  induction n generalizing r r' a a' with
  | zero =>
    cases hr with
    | asked => simp [stages] at hn
    | located => simp [stages] at hn
    | translated => simp [stages] at hn
    | done => rwa [finish_done, finish_done]
  | succ n ih =>
    have hnext := step_paired hr h hglimpse
    have hstages := stages_step s r a
    rw [finish_step s r, finish_step s r']
    refine ih (by omega) hnext.inquiry hnext.talk fun hloads => ?_
    rw [loads_step] at hloads
    cases hloads

end Assistant

/-- Does an action load the data file? -/
def Action.loads : Action → Bool
  | .submit question => (Inquiry.asked question).loads
  | _ => false

namespace Assistant

variable {s : Setup} {a a' : Assistant}

/-- **Every action** keeps what was said the same. -/
theorem perform_sameTalk (e : Action) (h : SameTalk a a')
    (hglimpse : e.loads = true → glimpse s.uploads a.disk = glimpse s.uploads a'.disk) :
    SameTalk (a.perform s e) (a'.perform s e) := by
  cases e with
  | submit question => exact finish_sameTalk 3 (Nat.le_refl 3) (.asked question) h hglimpse
  | connect =>
    simp only [perform, connectRemote]
    rw [← h.warehouse]
    rcases connect s.service a.warehouse with ⟨failure | done, w⟩
    · exact ⟨h.consulted, rfl⟩
    · exact ⟨h.consulted, rfl⟩
  | schema =>
    simp only [perform, describeSchema]
    rw [← h.warehouse]
    exact ⟨h.consulted, rfl⟩
  | close =>
    simp only [perform, Assistant.close]
    rw [← h.warehouse]
    exact ⟨h.consulted, rfl⟩
  | files disk => exact ⟨h.consulted, h.warehouse⟩
  | drop c =>
    simp only [perform]
    rw [← h.warehouse]
    exact ⟨h.consulted, rfl⟩

end Assistant

/-! ## Desks -/

/-- A translator that remembers what it was asked before. -/
abbrev Learner := List (Cell × List Descriptor) → Translator

/-- A setup with the translator as it is after what it was asked. -/
def Learner.setup (t : Learner) (s : Setup) (a : Assistant) : Setup :=
  { s with translator := t a.consulted }

/-- An assistant with the inquiries that were begun, ended or not. -/
structure Desk where
  assistant : Assistant
  inquiries : List Inquiry

/-- What may happen next. -/
inductive Turn where
  /-- A question is asked. -/
  | ask (question : Cell)
  /-- An inquiry is taken on by one stage. -/
  | advance (place : Nat)
  /-- A call is made and ends before anything else happens. -/
  | act (e : Action)

namespace Desk

/-- The desk after a turn. -/
def turn (t : Learner) (s : Setup) (d : Desk) : Turn → Desk
  | .ask question => { d with inquiries := d.inquiries ++ [.asked question] }
  | .advance i =>
    match d.inquiries[i]? with
    | none => d
    | some r =>
      let (r, a) := r.step (t.setup s d.assistant) d.assistant
      ⟨a, d.inquiries.set i r⟩
  | .act e => { d with assistant := d.assistant.perform (t.setup s d.assistant) e }

/-- Does a turn load the data file? -/
def loads (d : Desk) : Turn → Bool
  | .ask _ => false
  | .advance i => d.inquiries[i]?.any Inquiry.loads
  | .act e => e.loads

/-- Data files are added, replaced or removed. -/
def withFiles (disk : Disk) (d : Desk) : Desk := { d with assistant := { d.assistant with disk } }

end Desk

/-- Two runs with the same turns, whose data files may differ. At each turn that loads them, the
same may be seen of both. -/
inductive Twins (t : Learner) : Desk → Desk → Prop
  | start (disk disk' : Disk) : Twins t ⟨.start disk, []⟩ ⟨.start disk', []⟩
  | files {x y : Desk} (disk disk' : Disk) : Twins t x y →
      Twins t (x.withFiles disk) (y.withFiles disk')
  | turn {x y : Desk} (s : Setup) (e : Turn) : Twins t x y →
      (x.loads e = true → glimpse s.uploads x.assistant.disk = glimpse s.uploads y.assistant.disk) →
      Twins t (x.turn t s e) (y.turn t s e)

/-- Two desks with twin inquiries. -/
structure Desk.Paired (x y : Desk) : Prop where
  talk : SameTalk x.assistant y.assistant
  inquiries : List.Forall₂ Inquiry.Twin x.inquiries y.inquiries

variable {t : Learner} {x y : Desk}

theorem SameTalk.setup {a a' : Assistant} (h : SameTalk a a') (t : Learner) (s : Setup) :
    t.setup s a = t.setup s a' := by
  rw [Learner.setup, Learner.setup, h.consulted]

/-- At each place there are two twins, or no inquiries. -/
theorem twin_getElem? {rs rs' : List Inquiry} (h : List.Forall₂ Inquiry.Twin rs rs') (i : Nat) :
    (rs[i]? = none ∧ rs'[i]? = none) ∨
      ∃ r r', rs[i]? = some r ∧ rs'[i]? = some r' ∧ r.Twin r' := by
  induction h generalizing i with
  | nil => exact Or.inl ⟨rfl, rfl⟩
  | @cons r r' rs rs' hr _ ih =>
    cases i with
    | zero => exact Or.inr ⟨r, r', rfl, rfl, hr⟩
    | succ i => exact ih i

theorem forall₂_twin_set {rs rs' : List Inquiry} (h : List.Forall₂ Inquiry.Twin rs rs') (i : Nat)
    {r r' : Inquiry} (hr : r.Twin r') : List.Forall₂ Inquiry.Twin (rs.set i r) (rs'.set i r') := by
  induction h generalizing i with
  | nil => exact .nil
  | cons hfirst hrest ih =>
    cases i with
    | zero => exact .cons hr hrest
    | succ i => exact .cons hfirst (ih i)

/-- **One turn** keeps two desks paired. -/
theorem Desk.Paired.turn (h : x.Paired y) (s : Setup) (e : Turn)
    (hglimpse : x.loads e = true →
      glimpse s.uploads x.assistant.disk = glimpse s.uploads y.assistant.disk) :
    (x.turn t s e).Paired (y.turn t s e) := by
  have hsetup := h.talk.setup t s
  cases e with
  | ask question =>
    exact ⟨h.talk, List.rel_append h.inquiries (.cons (.asked question) .nil)⟩
  | advance i =>
    simp only [Desk.turn]
    rcases twin_getElem? h.inquiries i with ⟨hnone, hnone'⟩ | ⟨r, r', hr, hr', htwin⟩
    · rw [hnone, hnone']
      exact h
    · have hloads : r.loads = true →
          glimpse s.uploads x.assistant.disk = glimpse s.uploads y.assistant.disk := by
        intro hl
        refine hglimpse ?_
        rw [Desk.loads, hr, Option.any_some, hl]
      have hstep := Assistant.step_paired (s := t.setup s x.assistant) htwin h.talk hloads
      rw [hr, hr', ← hsetup]
      exact ⟨hstep.talk, forall₂_twin_set h.inquiries i hstep.inquiry⟩
  | act e =>
    refine ⟨?_, h.inquiries⟩
    simp only [Desk.turn]
    rw [← hsetup]
    exact Assistant.perform_sameTalk e h.talk hglimpse

/-- Twins stay paired through a run. -/
theorem Twins.paired (h : Twins t x y) : x.Paired y := by
  induction h with
  | start disk disk' => exact ⟨⟨rfl, rfl⟩, .nil⟩
  | files disk disk' _ ih => exact ⟨⟨ih.talk.consulted, ih.talk.warehouse⟩, ih.inquiries⟩
  | turn s e _ hglimpse ih => exact ih.turn s e hglimpse

/-! ## Language models -/

/-- What a language model is asked when the translator is asked this, one request after another. Its
replies may depend on the requests before. -/
def requestsOf (replies : List Request → Request → Reply) (t : Translation)
    (consulted : List (Cell × List Descriptor)) : List Request :=
  consulted.foldl (fun sent c => sent ++ (translateOrPlan (replies sent) t c.1 c.2).requests) []

/-- The translator that asks such a model, or follows the rules. -/
def modelLearner (replies : List Request → Request → Reply) (t : Translation) : Learner :=
  fun consulted => translatorOf (replies (requestsOf replies t consulted)) t

/-- Each time the translator is asked, its requests are added to those before. -/
theorem requestsOf_concat (replies : List Request → Request → Reply) (t : Translation)
    (consulted : List (Cell × List Descriptor)) (c : Cell × List Descriptor) :
    requestsOf replies t (consulted ++ [c]) = requestsOf replies t consulted ++
      (translateOrPlan (replies (requestsOf replies t consulted)) t c.1 c.2).requests := by
  rw [requestsOf, List.foldl_append]
  rfl

/-- A model without memory is asked the requests that a launch tells of. -/
theorem requestsOf_const (l : Launch) (model : Request → Reply)
    (consulted : List (Cell × List Descriptor)) :
    requestsOf (fun _ => model) l.translation consulted = l.requests model consulted := by
  induction consulted using List.reverseRecOn with
  | nil => rfl
  | append_singleton consulted c ih =>
    rw [requestsOf_concat, ih, Launch.requests, Launch.requests, List.flatMap_append,
      List.flatMap_singleton]

/-- **No value of a data file reaches the translator**, and with it no language model. Two runs have
the same turns, in any order of their stages, and any data files. Where a file is loaded, the names
of its columns are the same in both runs, or there is none in either, or none that can be loaded.
Then the translator is asked the same questions over the same schemas, in the same order, and it
asks a language model the same. The warehouse is told the same, too. -/
theorem Twins.same_prompts (h : Twins t x y) :
    x.assistant.consulted = y.assistant.consulted ∧
      (∀ replies translation, t = modelLearner replies translation →
        requestsOf replies translation x.assistant.consulted =
          requestsOf replies translation y.assistant.consulted) ∧
      x.assistant.warehouse = y.assistant.warehouse := by
  have hconsulted := h.paired.talk.consulted
  refine ⟨hconsulted, fun replies translation _ => ?_, h.paired.talk.warehouse⟩
  rw [hconsulted]

/-- A disk with a workbook of names and ages. -/
def ageDisk (people : List (List Cell)) : Disk := ⟨"/", [("/uploads/people.xlsx",
  .file (.workbook [[.text "name", .text "age"] :: people]))]⟩

/-- One person. -/
def oneAge : Disk := ageDisk [[.text "Ada", .int 36]]

/-- Two other people. -/
def twoAges : Disk := ageDisk [[.text "Bob", .int 7], [.text "Eve", .int 41]]

theorem glimpse_ages : glimpse "/uploads" oneAge = glimpse "/uploads" twoAges := by
  have hone : dataFile? oneAge "/uploads" = some "/uploads/people.xlsx" := by decide +kernel
  have htwo : dataFile? twoAges "/uploads" = some "/uploads/people.xlsx" := by decide +kernel
  have hnames : (loadTable oneAge "/uploads/people.xlsx").toOption.map Table.heading =
      some [.text "name", .text "age"] := rfl
  have hnames' : (loadTable twoAges "/uploads/people.xlsx").toOption.map Table.heading =
      some [.text "name", .text "age"] := rfl
  rw [glimpse_of_file hone, glimpse_of_file htwo, hnames, hnames']

/-- A model that counts what it was asked. -/
def countingReplies (sent : List Request) (_ : Request) : Reply :=
  .content (some (if sent.isEmpty then "SELECT name FROM UPLOADED_DATA"
    else "SELECT age FROM UPLOADED_DATA"))

/-- The model is used, with a key. -/
def withModel : Translation := ⟨true, some "sk-1", some "gpt-4o-mini", none⟩

/-- A question is asked and its data is found; another one is asked and answered; then the first one
is translated and answered. -/
def interleaved (disk : Disk) : Desk :=
  let t := modelLearner countingReplies withModel
  let begun := (Desk.mk (.start disk) []).turn t sampleSetup (.ask (.text "show name"))
  let located := ((begun.withFiles disk).turn t sampleSetup (.advance 0)).withFiles disk
  let between := located.turn t sampleSetup (.act (.submit (.text "show age")))
  (between.turn t sampleSetup (.advance 0)).turn t sampleSetup (.advance 0)

/-- Two runs over other people, of another number, ask the model the same twice. -/
theorem same_prompts_interleaved :
    Twins (modelLearner countingReplies withModel) (interleaved oneAge) (interleaved twoAges) ∧
      (interleaved oneAge).assistant.session.table?.map (·.rows.length) = some 1 ∧
      (interleaved twoAges).assistant.session.table?.map (·.rows.length) = some 2 ∧
      (interleaved oneAge).assistant.consulted = (interleaved twoAges).assistant.consulted ∧
      requestsOf countingReplies withModel (interleaved oneAge).assistant.consulted =
        requestsOf countingReplies withModel (interleaved twoAges).assistant.consulted ∧
      (requestsOf countingReplies withModel
        (interleaved oneAge).assistant.consulted).length = 2 := by
  have hstart : Twins (modelLearner countingReplies withModel) ⟨.start oneAge, []⟩
      ⟨.start twoAges, []⟩ := .start _ _
  have hasked := hstart.turn sampleSetup (.ask (.text "show name")) (by intro h; cases h)
  have hlocated := (hasked.files oneAge twoAges).turn sampleSetup (.advance 0) fun _ => glimpse_ages
  have hbetween := (hlocated.files oneAge twoAges).turn sampleSetup
    (.act (.submit (.text "show age"))) fun _ => glimpse_ages
  have htranslated := hbetween.turn sampleSetup (.advance 0)
    fun hloads => absurd hloads (by decide +kernel)
  have htwins : Twins (modelLearner countingReplies withModel) (interleaved oneAge)
      (interleaved twoAges) := htranslated.turn sampleSetup (.advance 0)
    fun hloads => absurd hloads (by decide +kernel)
  obtain ⟨hconsulted, hrequests, -⟩ := Twins.same_prompts htwins
  have hone : (interleaved oneAge).assistant.session.table?.map (·.rows.length) = some 1 := by
    decide +kernel
  have htwo : (interleaved twoAges).assistant.session.table?.map (·.rows.length) = some 2 := by
    decide +kernel
  have hlength : (requestsOf countingReplies withModel
      (interleaved oneAge).assistant.consulted).length = 2 := by decide +kernel
  exact ⟨htwins, hone, htwo, hconsulted, hrequests countingReplies withModel rfl, hlength⟩

end AskTable
