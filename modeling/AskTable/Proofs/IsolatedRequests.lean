import AskTable.Proofs.Confidential

/-!
# Requests that do not disturb each other

A question that is asked of a data file loads the file, and from then on it works with what it
loaded. Other questions, connecting and new files replace the session of the assistant in between,
and none of this changes its answer.

* `Move`, `Desk.after`: what may happen at a desk, from turns of inquiries to any change of the
  assistant.
* `Desk.ownSetups`: the setups with which one inquiry is taken on.
* `Inquiry.isLocal`, `step_local`: an inquiry that has loaded its file does not depend on the
  assistant.
* `getElem?_after`: whatever happens, it comes as far as it would come by itself.
* `submit_of_load`: what a data file answers by itself.
* `isolated_outcome`: the outcome is that of the question alone, at the moment of its loading.
-/

namespace AskTable

open AskTable.File AskTable.Inquiry AskTable.Model AskTable.Statement AskTable.Warehouse

/-! ## Desks -/

/-- What may happen at a desk. -/
inductive Move where
  /-- A turn, with a setup of its own. -/
  | turn (s : Setup) (e : Turn)
  /-- Something else changes the assistant, as a connecting does that is under way. -/
  | change (a : Assistant)

namespace Desk

/-- The desk after a move. -/
def move (t : Learner) (d : Desk) : Move → Desk
  | .turn s e => d.turn t s e
  | .change a => { d with assistant := a }

/-- The desk after some moves. -/
def after (t : Learner) (d : Desk) (moves : List Move) : Desk := moves.foldl (move t) d

/-- The setup with which a move takes an inquiry on, if it does. -/
def ownSetup? (t : Learner) (i : Nat) (d : Desk) : Move → Option Setup
  | .turn s (.advance j) => if j = i then some (t.setup s d.assistant) else none
  | _ => none

/-- The setups with which an inquiry is taken on, in order. -/
def ownSetups (t : Learner) (i : Nat) (d : Desk) : List Move → List Setup
  | [] => []
  | m :: moves => (d.ownSetup? t i m).toList ++ (d.move t m).ownSetups t i moves

end Desk

/-! ## Inquiries by themselves -/

namespace Inquiry

/-- The inquiry has loaded its data file, or it is done. -/
def isLocal : Inquiry → Bool
  | .located _ (.file ..) _ | .translated _ (.file ..) _ | .done _ => true
  | _ => false

/-- An inquiry is taken on by some stages, each with a setup of its own; nothing else happens. -/
def alone (a : Assistant) (r : Inquiry) : List Setup → Inquiry
  | [] => r
  | s :: setups => (r.step s a).1.alone a setups

end Inquiry

variable {t : Learner} {s : Setup} {d : Desk} {i : Nat} {r : Inquiry} {question : Cell}
  {path : String} {table : Table}

/-- An inquiry that has loaded its file does not depend on the assistant. -/
theorem step_local (h : r.isLocal = true) (s : Setup) (a a' : Assistant) :
    (r.step s a).1 = (r.step s a').1 ∧ (r.step s a).1.isLocal = true := by
  cases r with
  | asked question => cases h
  | located question origin schema =>
    cases origin with
    | warehouse => cases h
    | file path table =>
      simp only [step, Inquiry.translate, Assistant.consult]
      rcases s.translator question (schema.take maxDescriptors) with fault | statement
      · exact ⟨rfl, rfl⟩
      · exact ⟨rfl, rfl⟩
  | translated question origin statement =>
    cases origin with
    | warehouse => cases h
    | file path table => exact ⟨rfl, rfl⟩
  | done result => exact ⟨rfl, rfl⟩

/-- The turn of an inquiry takes it on. -/
theorem getElem?_advance (t : Learner) (s : Setup) (hr : d.inquiries[i]? = some r) :
    (d.turn t s (.advance i)).inquiries[i]? =
      some (r.step (t.setup s d.assistant) d.assistant).1 := by
  unfold Desk.turn
  dsimp only
  rw [hr]
  exact List.getElem?_set_self (List.getElem?_eq_some_iff.mp hr).1

/-- At a move an inquiry stays as it is, or it is taken on. -/
theorem getElem?_move (m : Move) (hr : d.inquiries[i]? = some r) :
    (d.move t m).inquiries[i]? = some (match d.ownSetup? t i m with
      | some s => (r.step s d.assistant).1
      | none => r) := by
  have hi := (List.getElem?_eq_some_iff.mp hr).1
  cases m with
  | change a => exact hr
  | turn s e =>
    cases e with
    | ask question => exact (List.getElem?_append_left hi).trans hr
    | act e => exact hr
    | advance j =>
      unfold Desk.ownSetup?
      dsimp only
      by_cases hj : j = i
      · subst hj
        rw [if_pos rfl]
        exact getElem?_advance t s hr
      · rw [if_neg hj]
        show (d.turn t s (.advance j)).inquiries[i]? = _
        unfold Desk.turn
        dsimp only
        split
        · exact hr
        · exact (List.getElem?_set_ne hj).trans hr

/-- **Whatever happens**, an inquiry that has loaded its file comes as far as by itself. -/
theorem getElem?_after (a : Assistant) (moves : List Move) (hr : d.inquiries[i]? = some r)
    (hlocal : r.isLocal = true) :
    (d.after t moves).inquiries[i]? = some (r.alone a (d.ownSetups t i moves)) := by
  induction moves generalizing d r with
  | nil => exact hr
  | cons m moves ih =>
    have hmove := getElem?_move (t := t) m hr
    show ((d.move t m).after t moves).inquiries[i]? = _
    unfold Desk.ownSetups
    rcases hown : d.ownSetup? t i m with - | s
    · rw [hown] at hmove
      exact ih hmove hlocal
    · rw [hown] at hmove
      obtain ⟨hsame, hstill⟩ := step_local hlocal s d.assistant a
      have hrest := ih hmove hstill
      dsimp only at hrest
      rw [hsame] at hrest
      exact hrest

/-- An inquiry that is done stays so. -/
theorem alone_done (a : Assistant) (result : Except Failure QueryOutcome) (setups : List Setup) :
    (Inquiry.done result).alone a setups = .done result := by
  induction setups with
  | nil => rfl
  | cons s setups ih => exact ih

/-! ## What a data file answers -/

/-- What the translator of a setup replies to a question about a table. -/
def Setup.replyTo (s : Setup) (question : Cell) (table : Table) : Except Fault Cell :=
  s.translator question (table.describe.take maxDescriptors)

/-- The outcome of a question whose data file was loaded, from the reply of its translator and the
time at which the rows are looked at. -/
def fileOutcome (question : Cell) (path : String) (table : Table) (time : String) :
    Except Fault Cell → Except Failure QueryOutcome
  | .error fault => .error (Inquiry.untranslated fault)
  | .ok statement =>
    match Report.analyze time question statement (execute statement table)
      (Origin.file path table).source with
    | .ok envelope => .ok (.answered (.file path table) envelope)
    | .error e => .error (.own e)

/-- With two stages more a question is done whose file was loaded. -/
theorem alone_located (a : Assistant) (s₁ s₂ : Setup) (setups : List Setup) :
    (Inquiry.located question (.file path table) table.describe).alone a (s₁ :: s₂ :: setups) =
      .done (fileOutcome question path table s₂.time (s₁.replyTo question table)) := by
  have htranslated : ((Inquiry.located question (.file path table) table.describe).step s₁ a).1 =
      match s₁.replyTo question table with
      | .ok statement => .translated question (.file path table) statement
      | .error fault => .done (.error (Inquiry.untranslated fault)) := by
    simp only [step, Inquiry.translate, Assistant.consult, Setup.replyTo]
    rcases s₁.translator question (table.describe.take maxDescriptors) with fault | statement
    · rfl
    · rfl
  unfold Inquiry.alone
  rw [htranslated]
  rcases s₁.replyTo question table with fault | statement
  · exact alone_done a _ _
  · exact alone_done a _ _

/-- A question that is done has the outcome of the reply that its own translator gave, at the time
at which it was done. -/
theorem eq_fileOutcome {a : Assistant} {setups : List Setup}
    {result : Except Failure QueryOutcome} {time : String} {reply : Except Fault Cell}
    (h : (Inquiry.located question (.file path table) table.describe).alone a setups = .done result)
    (hreply : ∀ s₁ ∈ setups.head?, reply = s₁.replyTo question table)
    (htime : ∀ s₂ ∈ setups[1]?, time = s₂.time) :
    result = fileOutcome question path table time reply := by
  match setups with
  | [] => cases h
  | [s₁] =>
    rw [hreply s₁ rfl]
    simp only [Inquiry.alone, step, Inquiry.translate, Assistant.consult] at h
    unfold Setup.replyTo
    rcases hgiven : s₁.translator question (table.describe.take maxDescriptors) with
      fault | statement
    · rw [hgiven] at h
      cases h
      rfl
    · rw [hgiven] at h
      cases h
  | s₁ :: s₂ :: setups =>
    rw [alone_located] at h
    rw [hreply s₁ rfl, htime s₂ rfl]
    exact (Inquiry.done.inj h).symm

/-- Where a question stands once its data file was loaded, or was not. -/
def Inquiry.ofLoad (question : Cell) (path : String) (loaded : Except Failure Table) : Inquiry :=
  if isBlank question then .done (.error blankQuestion)
  else match loaded with
    | .error failure => .done (.error (unread failure))
    | .ok table => .located question (.file path table) table.describe

theorem Inquiry.ofLoad_cases (question : Cell) (path : String) (loaded : Except Failure Table) :
    (∃ result, ofLoad question path loaded = .done result) ∨
      ∃ table, loaded = .ok table ∧
        ofLoad question path loaded = .located question (.file path table) table.describe := by
  unfold ofLoad
  split
  · exact Or.inl ⟨_, rfl⟩
  · rcases loaded with failure | table
    · exact Or.inl ⟨_, rfl⟩
    · exact Or.inr ⟨table, rfl, rfl⟩

/-- The first stage depends on the data file alone. -/
theorem step_asked {a : Assistant} (question : Cell)
    (hfile : dataFile? a.disk s.uploads = some path) :
    ((Inquiry.asked question).step s a).1 =
      Inquiry.ofLoad question path (loadTable a.disk path) := by
  simp only [step]
  unfold Inquiry.ofLoad
  split
  · rfl
  · rcases hload : loadTable a.disk path with failure | table
    · rw [Assistant.locate_of_error hfile hload]
    · rw [Assistant.locate_of_ok hfile hload]

/-- When the first stage already ends a question, that is its outcome. -/
theorem submit_of_done {a : Assistant} {result : Except Failure QueryOutcome}
    (h : ((Inquiry.asked question).step s a).1 = .done result) :
    (a.submit s question).1 = result := by
  unfold Assistant.submit
  rw [Assistant.finish_step, h, Assistant.finish_done]

/-- Otherwise the outcome comes from the loaded table and the reply of the translator. -/
theorem submit_of_located {a : Assistant} (h : ((Inquiry.asked question).step s a).1 =
      .located question (.file path table) table.describe) :
    (a.submit s question).1 =
      fileOutcome question path table s.time (s.replyTo question table) := by
  unfold Assistant.submit
  rw [Assistant.finish_step, h, Assistant.finish_step]
  simp only [step, Inquiry.translate, Assistant.consult, Setup.replyTo]
  rcases s.translator question (table.describe.take maxDescriptors) with fault | statement
  · rw [Assistant.finish_done]
    rfl
  · rw [Assistant.finish_step]
    simp only [step, answer]
    rw [Assistant.finish_done]
    rfl

/-- **Requests do not disturb each other.** An inquiry is taken on for the first time while there is
a data file, at any desk. After that anything happens: other questions are asked and taken on, the
assistant connects, files are replaced, or the assistant changes in any other way. After two more
turns of its own the inquiry is done. Then its outcome is the one of the question alone, asked of
any assistant with the files of that first turn, if its translator gives the reply that the inquiry
got, and the rows are looked at at the same time. -/
theorem isolated_outcome (t : Learner) (s₀ : Setup) (d : Desk) (i : Nat) (question : Cell)
    (path : String) (hi : d.inquiries[i]? = some (.asked question))
    (hfile : dataFile? d.assistant.disk s₀.uploads = some path) (moves : List Move) :
    let begun := d.turn t s₀ (.advance i)
    let own := begun.ownSetups t i moves
    ∃ r, (begun.after t moves).inquiries[i]? = some r ∧
      (2 ≤ own.length → ∃ result, r = .done result) ∧
      ∀ result, r = .done result → ∀ (s : Setup) (a : Assistant), s.uploads = s₀.uploads →
        a.disk = d.assistant.disk →
        (∀ table, loadTable d.assistant.disk path = .ok table →
          ∀ s₁ ∈ own.head?, s.replyTo question table = s₁.replyTo question table) →
        (∀ s₂ ∈ own[1]?, s.time = s₂.time) → result = (a.submit s question).1 := by
  intro begun own
  have hbegun : begun.inquiries[i]? =
      some (Inquiry.ofLoad question path (loadTable d.assistant.disk path)) :=
    (getElem?_advance t s₀ hi).trans (congrArg some (step_asked question hfile))
  have halone {s : Setup} {a : Assistant} (huploads : s.uploads = s₀.uploads)
      (hdisk : a.disk = d.assistant.disk) : ((Inquiry.asked question).step s a).1 =
        Inquiry.ofLoad question path (loadTable d.assistant.disk path) := by
    have hsame : dataFile? a.disk s.uploads = some path := by rw [hdisk, huploads, hfile]
    rw [step_asked question hsame, hdisk]
  rcases Inquiry.ofLoad_cases question path (loadTable d.assistant.disk path) with
    ⟨given, hdone⟩ | ⟨table, hload, hlocated⟩
  · -- the first turn has ended the inquiry
    rw [hdone] at hbegun
    refine ⟨_, getElem?_after d.assistant moves hbegun rfl, fun _ => ⟨given, alone_done _ _ _⟩,
      fun result hresult s a huploads hdisk _ _ => ?_⟩
    rw [alone_done] at hresult
    rw [submit_of_done ((halone huploads hdisk).trans hdone)]
    exact (Inquiry.done.inj hresult).symm
  · rw [hlocated] at hbegun
    refine ⟨_, getElem?_after d.assistant moves hbegun rfl, fun hlength => ?_,
      fun result hresult s a huploads hdisk hreply htime => ?_⟩
    · obtain ⟨s₁, s₂, setups, hown⟩ : ∃ s₁ s₂ setups, own = s₁ :: s₂ :: setups := by
        match own, hlength with
        | s₁ :: s₂ :: setups, _ => exact ⟨s₁, s₂, setups, rfl⟩
      show ∃ result, Inquiry.alone d.assistant _ own = _
      rw [hown]
      exact ⟨_, alone_located d.assistant s₁ s₂ setups⟩
    · rw [submit_of_located ((halone huploads hdisk).trans hlocated)]
      exact eq_fileOutcome hresult (hreply table hload) htime

/-- Two questions are asked about the ages of people. -/
def twoQuestions : Desk :=
  ⟨.start oneAge, [.asked (.text "show name"), .asked (.text "show age")]⟩

/-- After the first question has loaded the file, this is replaced, the assistant connects, and the
second question loads the new file. The stages of the two follow one another crosswise. -/
def crosswise : List Move :=
  [.act (.files twoAges), .act .connect, .advance 1, .advance 1, .advance 0, .advance 1,
    .advance 0].map (.turn sampleSetup)

/-- In the end the session holds the new file, with two people. The first question is answered from
the old one, with one. -/
theorem isolated_outcome_crosswise :
    let t := modelLearner countingReplies withModel
    let begun := twoQuestions.turn t sampleSetup (.advance 0)
    let last := begun.after t crosswise
    dataFile? oneAge sampleSetup.uploads = some "/uploads/people.xlsx" ∧
      last.assistant.session.table?.map (·.rows.length) = some 2 ∧
      (loadTable oneAge "/uploads/people.xlsx").toOption.map (·.rows.length) = some 1 ∧
      ∃ s ∈ (begun.ownSetups t 0 crosswise).head?, last.inquiries[0]? =
        some (.done ((Assistant.start oneAge).submit s (.text "show name")).1) := by
  intro t begun last
  have hfile : dataFile? oneAge sampleSetup.uploads = some "/uploads/people.xlsx" := by
    decide +kernel
  have hsetups : (begun.ownSetups t 0 crosswise).map (fun s => (s.uploads, s.time)) =
      [(sampleSetup.uploads, sampleSetup.time), (sampleSetup.uploads, sampleSetup.time)] := by
    decide +kernel
  obtain ⟨r, hr, hdone, halone⟩ := isolated_outcome t sampleSetup twoQuestions 0
    (.text "show name") "/uploads/people.xlsx" rfl hfile crosswise
  change 2 ≤ (begun.ownSetups t 0 crosswise).length → _ at hdone
  change ∀ result, _ → ∀ (s : Setup) (a : Assistant), _ → _ →
    (∀ table, _ → ∀ s₁ ∈ (begun.ownSetups t 0 crosswise).head?, _) →
    (∀ s₂ ∈ (begun.ownSetups t 0 crosswise)[1]?, _) → _ at halone
  generalize begun.ownSetups t 0 crosswise = own at hsetups hdone halone ⊢
  obtain ⟨s₁, s₂, rfl⟩ : ∃ s₁ s₂, own = [s₁, s₂] := by
    have hlength := congrArg List.length hsetups
    rw [List.length_map] at hlength
    exact List.length_eq_two.mp hlength
  simp only [List.map_cons, List.map_nil, List.cons.injEq, Prod.mk.injEq] at hsetups
  obtain ⟨⟨huploads, htime⟩, ⟨-, htime'⟩, -⟩ := hsetups
  obtain ⟨result, rfl⟩ := hdone (Nat.le_refl 2)
  have hsame := halone result rfl s₁ (.start oneAge) huploads rfl
    (fun table _ s hs => by cases hs; rfl) fun s hs => by cases hs; exact htime.trans htime'.symm
  have hlast := congrArg (fun o => some (Inquiry.done o)) hsame
  exact ⟨hfile, by decide +kernel, by decide +kernel, s₁, rfl, hr.trans hlast⟩

end AskTable
