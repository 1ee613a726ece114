import AskTable.Proofs.ErrorKinds
import AskTable.Terminal.Basic
import Mathlib.Data.List.TakeWhile

/-!
# Exit codes

The options say what is done at the terminal, and the exit code says how it ended. This is so when the
assistant fails only with errors of its own, its outcomes can be shown, and so can the errors that
come up. A talk goes on whatever a line leads to, until the user leaves; but an error whose text the
screen cannot draw ends it there and then.

* `put_eq_ok_iff`: what is drawn one by one is drawn if every part can be.
* `isShowable`, `failsOwn`: outcomes that can be shown, and operations that fail as they should.
* `Wish.after`, `line_assistant`: what a line makes of the assistant.
* `Wish.isSmooth`, `areSmooth`, `isSmooth`: nothing else comes up with a wish, with several of them
  and in a run.
* `Wish.complaint?`, `complaints`, `runComplaints`: the texts of the errors that come up.
* `Codes`, `conclude_codes`, `conclude_of_undrawn`: the exit code of a single command, and the error
  that cannot be drawn.
* `converse_append`, `converse_of_undrawn`: the talk goes on line by line, unless there is one.
* `Refused`, `opened`: the login fails first of all, or the terminal is open.
* `Ends`, `run_ends_iff`: how a run ends under each of the options.
-/

namespace AskTable

open AskTable.Terminal

namespace Terminal

variable {α β : Type} {screen : Screen} {s : Setup} {o : Options} {t u : Terminal} {text : String}
  {lines : List String}

/-! ## Going on -/

@[simp] theorem andThen_ok (x : α) (t : Terminal) (next : α → Terminal → Ran β) :
    andThen (.ok x, t) next = next x t :=
  rfl

theorem andThen_of_ok {r : Ran α} {next : α → Terminal → Ran β} {x : α} (h : r.1 = .ok x) :
    andThen r next = next x r.2 := by
  obtain ⟨result, t⟩ := r
  cases h
  rfl

theorem andThen_of_error {r : Ran α} {next : α → Terminal → Ran β} {failure : Failure}
    (h : r.1 = .error failure) : andThen r next = (.error failure, r.2) := by
  obtain ⟨result, t⟩ := r
  cases h
  rfl

theorem andThen_assistant {r : Ran α} {next : α → Terminal → Ran β}
    (h : ∀ x t, (next x t).2.assistant = t.assistant) :
    (andThen r next).2.assistant = r.2.assistant := by
  obtain ⟨result, t⟩ := r
  cases result with
  | ok x => exact h x t
  | error failure => rfl

/-! ## Showing -/

/-- Showing changes nothing else. -/
theorem put_assistant (drawings : List Drawing) (t : Terminal) :
    (t.put screen drawings).2.assistant = t.assistant := by
  induction drawings generalizing t with
  | nil => rfl
  | cons d drawings ih =>
    rw [put]
    cases screen.faultIn? d with
    | some fault => rfl
    | none => exact ih _

theorem draws_iff {d : Drawing} : screen.draws d = true ↔ screen.faultIn? d = none :=
  Option.isNone_iff_eq_none

/-- What is drawn one by one is drawn if every part can be. -/
theorem put_eq_ok_iff {drawings : List Drawing} :
    (t.put screen drawings).1 = .ok () ↔ drawings.all screen.draws = true := by
  induction drawings generalizing t with
  | nil => exact iff_of_true rfl rfl
  | cons d drawings ih =>
    rw [put, List.all_cons, Bool.and_eq_true, draws_iff]
    cases screen.faultIn? d with
    | some fault => exact iff_of_false nofun nofun
    | none => exact ih.trans (and_iff_right rfl).symm

theorem put_of_undrawn {d : Drawing} (h : ¬ screen.draws d = true) :
    ∃ fault, (t.put screen [d]).1 = .error (.fault fault) := by
  rw [draws_iff] at h
  obtain ⟨fault, hfault⟩ := Option.ne_none_iff_exists'.mp h
  exact ⟨fault, by rw [put, hfault]⟩

/-- Texts without an opening bracket can be drawn. -/
theorem draws_of_unmarked {d : Drawing} (h : ∀ text ∈ d.marked, '[' ∉ text.toList) :
    screen.draws d = true :=
  draws_iff.mpr (List.findSome?_eq_none_iff.mpr fun text htext => screen.unmarked text (h text htext))

/-- An outcome can be shown. -/
def isShowable (screen : Screen) (o : Options) (outcome : QueryOutcome) : Bool :=
  if o.json then outcome.document.isOk
  else screen.draws (.note outcome.message) && outcome.envelope?.all fun e =>
    (Drawing.statement e).all screen.draws &&
      e.answer.toOption.any fun answer => (Drawing.results e answer).all screen.draws

theorem putCatalog_assistant (o : Options) (c : Catalog) (t : Terminal) :
    (t.putCatalog screen o c).2.assistant = t.assistant :=
  put_assistant _ _

theorem putDocument_assistant (document : Except Fault Json) (t : Terminal) :
    (t.putDocument screen document).2.assistant = t.assistant := by
  unfold putDocument
  split
  · exact put_assistant _ _
  · rfl

theorem putDocument_of_isOk {document : Except Fault Json} (h : document.isOk = true)
    (t : Terminal) : (t.putDocument screen document).1 = .ok () := by
  cases document with
  | error fault => cases h
  | ok document => rfl

theorem putEnvelope_assistant (e : Report.Envelope) (t : Terminal) :
    (t.putEnvelope screen e).2.assistant = t.assistant := by
  rw [putEnvelope, andThen_assistant, put_assistant]
  intro _ t
  split
  · exact put_assistant _ _
  · rfl

theorem putOutcome_assistant (o : Options) (outcome : QueryOutcome) (t : Terminal) :
    (t.putOutcome screen o outcome).2.assistant = t.assistant := by
  unfold putOutcome
  split
  · exact putDocument_assistant _ _
  · rw [andThen_assistant, put_assistant]
    intro _ t
    split
    · exact putEnvelope_assistant _ _
    · rfl

theorem putEnvelope_of_draws {e : Report.Envelope}
    (hstatement : (Drawing.statement e).all screen.draws = true)
    (hanswer : (e.answer.toOption.any fun answer =>
      (Drawing.results e answer).all screen.draws) = true)
    (t : Terminal) : (t.putEnvelope screen e).1 = .ok () := by
  rw [putEnvelope, andThen_of_ok (put_eq_ok_iff.mpr hstatement)]
  cases he : e.answer with
  | error fault =>
    rw [he] at hanswer
    cases hanswer
  | ok answer =>
    rw [he] at hanswer
    exact put_eq_ok_iff.mpr hanswer

theorem putOutcome_of_isShowable {outcome : QueryOutcome}
    (h : isShowable screen o outcome = true) (t : Terminal) :
    (t.putOutcome screen o outcome).1 = .ok () := by
  unfold isShowable at h
  unfold putOutcome
  split
  · rename_i hjson
    rw [if_pos hjson] at h
    exact putDocument_of_isOk h t
  · rename_i hjson
    rw [if_neg hjson, Bool.and_eq_true] at h
    obtain ⟨hmessage, henvelope⟩ := h
    rw [andThen_of_ok (put_eq_ok_iff.mpr (by simpa using hmessage))]
    cases he : outcome.envelope? with
    | none => rfl
    | some e =>
      rw [he, Option.all_some, Bool.and_eq_true] at henvelope
      exact putEnvelope_of_draws henvelope.1 henvelope.2 _

/-! ## Operations of the assistant -/

/-- An operation fails only with an error of the assistant. -/
def failsOwn (result : Except Failure α) : Bool :=
  match result with
  | .ok _ | .error (.own _) => true
  | .error _ => false

theorem failsOwn_cases {result : Except Failure α} (h : failsOwn result = true) :
    (∃ e, result = .error (.own e)) ∨ ∃ x, result = .ok x := by
  cases result with
  | ok x => exact Or.inr ⟨x, rfl⟩
  | error failure =>
    cases failure with
    | own e => exact Or.inl ⟨e, rfl⟩
    | fault => cases h
    | cancelled => cases h

/-- The assistant after it did what the user wishes. -/
def Wish.after (s : Setup) (a : Assistant) : Wish → Assistant
  | .leave => a
  | .connect => (a.connectRemote s).2
  | .schema => (a.describeSchema s).2
  | .question text => (a.submit s (.text text)).2

/-- A wish leads to errors of the assistant at most, and its outcome can be shown. -/
def Wish.isSmooth (screen : Screen) (s : Setup) (o : Options) (a : Assistant) : Wish → Bool
  | .leave => true
  | .connect => failsOwn (a.connectRemote s).1
  | .schema =>
    let result := (a.describeSchema s).1
    failsOwn result && result.toOption.all fun c => screen.draws (catalogDrawing o c)
  | .question text =>
    let result := (a.submit s (.text text)).1
    failsOwn result && result.toOption.all (isShowable screen o)

/-- So do several wishes, one after another. -/
def areSmooth (screen : Screen) (s : Setup) (o : Options) : Assistant → List Wish → Bool
  | _, [] => true
  | a, w :: wishes => w.isSmooth screen s o a && areSmooth screen s o (w.after s a) wishes

/-- What the options ask for, or else what the user says before leaving. -/
def wishes (o : Options) (lines : List String) : List Wish :=
  if o.schema then [.schema]
  else match o.query with
    | some question => [.question question]
    | none => if o.connect then [] else (lines.map Wish.ofLine).takeWhile (· != .leave)

/-- The outcome of connecting first of all can be shown. -/
def isFirstShowable (screen : Screen) (o : Options) (outcome : ConnectOutcome) : Bool :=
  if o.json then (outcome.document Cell.strict).isOk
  else screen.draws (.note (fullMessage outcome ++ modeText outcome))

/-- All that is done in a run leads to errors of the assistant at most, and its outcomes can be
shown. -/
def isSmooth (screen : Screen) (s : Setup) (o : Options) (lines : List String) (a : Assistant) :
    Bool :=
  if o.connect then
    let (result, a) := a.connectRemote s
    failsOwn result && result.toOption.all fun outcome => isFirstShowable screen o outcome &&
      (!outcome.success || areSmooth screen s o a (wishes o lines))
  else areSmooth screen s o a (wishes o lines)

/-! ## Errors -/

/-- The text of the error that is shown, if there is one. -/
def complaintOf (told : AssistantError → String × Nat) (result : Except Failure α) :
    Option String :=
  match result with
  | .error (.own e) => some (told e).1
  | _ => none

/-- The text of the error that a wish leads to, if it does. -/
def Wish.complaint? (s : Setup) (a : Assistant) : Wish → Option String
  | .leave | .connect => none
  | .schema => complaintOf schemaError (a.describeSchema s).1
  | .question text => complaintOf questionError (a.submit s (.text text)).1

/-- The texts of the errors that several wishes lead to, one after another. -/
def complaints (s : Setup) : Assistant → List Wish → List String
  | _, [] => []
  | a, w :: wishes => (w.complaint? s a).toList ++ complaints s (w.after s a) wishes

/-- The texts of the errors that come up in a run. -/
def runComplaints (s : Setup) (o : Options) (lines : List String) (a : Assistant) : List String :=
  if o.connect then
    let (result, a) := a.connectRemote s
    if result.toOption.any ConnectOutcome.success then complaints s a (wishes o lines) else []
  else complaints s a (wishes o lines)

/-- The screen can draw the texts of some errors. -/
def DrawsAll (screen : Screen) (texts : List String) : Prop :=
  ∀ text ∈ texts, screen.draws (.note text) = true

/-! ## Single commands -/

/-- The exit code of a command: 2 after errors of some kind, 1 after other errors of the assistant,
and 0 after results. -/
structure Codes (kind : ErrorKind) (result : Except Failure α) (code : Nat) : Prop where
  refused : code = 2 ↔ ∃ e, result = .error (.own e) ∧ e.kind = kind
  failed : code = 1 ↔ ∃ e, result = .error (.own e) ∧ e.kind ≠ kind
  done : code = 0 ↔ ∃ x, result = .ok x

theorem codes_ok (kind : ErrorKind) (x : α) : Codes kind (.ok x) 0 where
  refused := by simp
  failed := by simp
  done := by simp

theorem codes_refused {kind : ErrorKind} {e : AssistantError} (h : e.kind = kind) :
    Codes kind (.error (.own e) : Except Failure α) 2 where
  refused := by simp [h]
  failed := by simp [h]
  done := by simp

theorem codes_failed {kind : ErrorKind} {e : AssistantError} (h : e.kind ≠ kind) :
    Codes kind (.error (.own e) : Except Failure α) 1 where
  refused := by simp [h]
  failed := by simp [h]
  done := by simp

theorem conclude_assistant {told : AssistantError → String × Nat}
    {view : α → Terminal → Ran Unit} (hview : ∀ x t, (view x t).2.assistant = t.assistant)
    (result : Except Failure α) (t : Terminal) :
    (conclude screen told view result t).2.assistant = t.assistant := by
  unfold conclude
  split
  · exact hview _ _
  · exact put_assistant _ _
  · rfl

/-- A command ends with the exit code of its result. -/
theorem conclude_codes {kind : ErrorKind} {told : AssistantError → String × Nat}
    (htold : ∀ e, (told e).2 = if e.kind == kind then 2 else 1) {view : α → Terminal → Ran Unit}
    {result : Except Failure α} (hown : failsOwn result = true)
    (hview : ∀ x, result = .ok x → (view x t).1 = .ok ())
    (hdrawn : ∀ text ∈ complaintOf told result, screen.draws (.note text) = true) :
    ∃ code, (conclude screen told view result t).1 = .ok code ∧ Codes kind result code := by
  rcases failsOwn_cases hown with ⟨e, rfl⟩ | ⟨x, rfl⟩
  · have hput : (t.put screen [.note (told e).1]).1 = .ok () :=
      put_eq_ok_iff.mpr (by simpa using hdrawn _ rfl)
    have hcode : (conclude screen told view (.error (.own e)) t).1 = .ok (told e).2 := by
      rw [conclude, exit, hput]
      rfl
    rw [htold] at hcode
    by_cases hkind : e.kind = kind
    · exact ⟨2, by simpa [hkind] using hcode, codes_refused hkind⟩
    · exact ⟨1, by simpa [hkind] using hcode, codes_failed hkind⟩
  · refine ⟨0, ?_, codes_ok kind x⟩
    rw [conclude, exit, hview x rfl]
    rfl

/-- An error that cannot be drawn takes the place of the exit code. -/
theorem conclude_of_undrawn {told : AssistantError → String × Nat} {view : α → Terminal → Ran Unit}
    {result : Except Failure α} (hcomplaint : complaintOf told result = some text)
    (hno : ¬ screen.draws (.note text) = true) :
    ∃ fault, (conclude screen told view result t).1 = .error (.fault fault) := by
  unfold complaintOf at hcomplaint
  split at hcomplaint
  · rename_i e
    cases hcomplaint
    obtain ⟨fault, hfault⟩ := put_of_undrawn (t := t) hno
    refine ⟨fault, ?_⟩
    rw [conclude, exit, hfault]
    rfl
  · cases hcomplaint

theorem describe_eq : t.describe screen s o =
    conclude screen schemaError (putCatalog screen o) (t.assistant.describeSchema s).1
      { t with assistant := (t.assistant.describeSchema s).2 } :=
  rfl

theorem ask_eq {question : String} : t.ask screen s o question =
    conclude screen questionError (putOutcome screen o) (t.assistant.submit s (.text question)).1
      { t with assistant := (t.assistant.submit s (.text question)).2 } :=
  rfl

theorem describe_assistant :
    (t.describe screen s o).2.assistant = (t.assistant.describeSchema s).2 := by
  rw [describe_eq, conclude_assistant (putCatalog_assistant o)]

theorem ask_assistant {question : String} :
    (t.ask screen s o question).2.assistant = (t.assistant.submit s (.text question)).2 := by
  rw [ask_eq, conclude_assistant (putOutcome_assistant o)]

theorem describe_codes (h : Wish.schema.isSmooth screen s o t.assistant = true)
    (hdrawn : ∀ text ∈ Wish.schema.complaint? s t.assistant, screen.draws (.note text) = true) :
    ∃ code, (t.describe screen s o).1 = .ok code ∧
      Codes .sourceUnavailable (t.assistant.describeSchema s).1 code := by
  rw [Wish.isSmooth, Bool.and_eq_true] at h
  obtain ⟨hown, hshow⟩ := h
  rw [describe_eq]
  refine conclude_codes (fun e => ?_) hown (fun c hc => ?_) hdrawn
  · unfold schemaError
    split <;> rfl
  · rw [hc] at hshow
    exact put_eq_ok_iff.mpr (by simpa [Except.toOption] using hshow)

theorem ask_codes {question : String}
    (h : (Wish.question question).isSmooth screen s o t.assistant = true)
    (hdrawn : ∀ text ∈ (Wish.question question).complaint? s t.assistant,
      screen.draws (.note text) = true) :
    ∃ code, (t.ask screen s o question).1 = .ok code ∧
      Codes .validation (t.assistant.submit s (.text question)).1 code := by
  rw [Wish.isSmooth, Bool.and_eq_true] at h
  obtain ⟨hown, hshow⟩ := h
  rw [ask_eq]
  refine conclude_codes (fun e => ?_) hown (fun outcome houtcome => ?_) hdrawn
  · unfold questionError
    split <;> rfl
  · rw [houtcome] at hshow
    exact putOutcome_of_isShowable hshow _

theorem describe_of_undrawn {c : String} (hc : Wish.schema.complaint? s t.assistant = some c)
    (hno : ¬ screen.draws (.note c) = true) :
    ∃ fault, (t.describe screen s o).1 = .error (.fault fault) := by
  rw [describe_eq]
  exact conclude_of_undrawn hc hno

theorem ask_of_undrawn {question c : String}
    (hc : (Wish.question question).complaint? s t.assistant = some c)
    (hno : ¬ screen.draws (.note c) = true) :
    ∃ fault, (t.ask screen s o question).1 = .error (.fault fault) := by
  rw [ask_eq]
  exact conclude_of_undrawn hc hno

/-! ## The talk -/

theorem connect_assistant : (t.connect screen s).2.assistant = (t.assistant.connectRemote s).2 := by
  unfold connect
  dsimp only
  split
  · exact put_assistant _ _
  · rfl

/-- A line makes of the assistant what its wish does. -/
theorem line_assistant :
    (t.line screen s o text).2.assistant = (Wish.ofLine text).after s t.assistant := by
  unfold line
  cases Wish.ofLine text with
  | leave => rfl
  | connect => exact (andThen_assistant fun _ _ => rfl).trans connect_assistant
  | schema => exact (andThen_assistant fun _ _ => rfl).trans describe_assistant
  | question question => exact (andThen_assistant fun _ _ => rfl).trans ask_assistant

/-- What is said of an attempt to connect, apart from its details, holds no mark. -/
theorem draws_connected (outcome : ConnectOutcome) :
    screen.draws (.note (outcome.message ++ modeText outcome)) = true := by
  refine draws_of_unmarked (List.forall_mem_singleton.mpr ?_)
  cases outcome with
  | connected warehouse =>
    show '[' ∉ ("Connected to Snowflake successfully" ++ " (mode: remote)").toList
    decide
  | refused mode details =>
    show '[' ∉ ("Failed to connect to Snowflake" ++ (" (mode: " ++ mode.name ++ ")")).toList
    cases mode <;> decide

/-- Whatever comes of a line, the talk goes on after it if its error can be drawn. -/
theorem line_of_isSmooth (hstay : Wish.ofLine text ≠ .leave)
    (h : (Wish.ofLine text).isSmooth screen s o t.assistant = true)
    (hdrawn : ∀ c ∈ (Wish.ofLine text).complaint? s t.assistant, screen.draws (.note c) = true) :
    (t.line screen s o text).1 = .ok false := by
  unfold line
  cases hwish : Wish.ofLine text with
  | leave => exact absurd hwish hstay
  | connect =>
    rw [hwish] at h
    rcases hr : t.assistant.connectRemote s with ⟨failure | outcome, a⟩
    · obtain ⟨fault, rfl⟩ := Assistant.connectRemote_error (congrArg Prod.fst hr)
      simp [Wish.isSmooth, hr, failsOwn] at h
    · have hput (u : Terminal) :
          (u.put screen [.note (outcome.message ++ modeText outcome)]).1 = .ok () :=
        put_eq_ok_iff.mpr (by simpa using draws_connected outcome)
      simp only [connect, hr]
      rw [andThen_of_ok (hput _)]
  | schema =>
    rw [hwish] at h hdrawn
    obtain ⟨code, hcode, -⟩ := describe_codes h hdrawn
    exact congrArg Prod.fst (andThen_of_ok hcode)
  | question question =>
    rw [hwish] at h hdrawn
    obtain ⟨code, hcode, -⟩ := ask_codes h hdrawn
    exact congrArg Prod.fst (andThen_of_ok hcode)

/-- An error that cannot be drawn ends the talk. -/
theorem line_of_undrawn {c : String} (hc : (Wish.ofLine text).complaint? s t.assistant = some c)
    (hno : ¬ screen.draws (.note c) = true) :
    ∃ fault, (t.line screen s o text).1 = .error (.fault fault) := by
  unfold line
  cases hwish : Wish.ofLine text with
  | leave | connect =>
    rw [hwish] at hc
    cases hc
  | schema =>
    rw [hwish] at hc
    obtain ⟨fault, hfault⟩ := describe_of_undrawn (o := o) hc hno
    exact ⟨fault, congrArg Prod.fst (andThen_of_error hfault)⟩
  | question question =>
    rw [hwish] at hc
    obtain ⟨fault, hfault⟩ := ask_of_undrawn (o := o) hc hno
    exact ⟨fault, congrArg Prod.fst (andThen_of_error hfault)⟩

/-- The terminal once the user was asked for a line. -/
def asked (t : Terminal) : Terminal := { t with shown := t.shown ++ [invitation.item] }

theorem put_invitation : t.put screen [invitation] = (.ok (), t.asked) := by
  have hnone : screen.faultIn? invitation = none :=
    draws_iff.mp (draws_of_unmarked (List.forall_mem_singleton.mpr (by decide)))
  rw [put, hnone]
  rfl

/-- The terminal after a line of the talk, which the user was asked for. -/
def handled (screen : Screen) (s : Setup) (o : Options) (t : Terminal) (text : String) : Terminal :=
  (t.asked.line screen s o text).2

theorem asked_assistant (t : Terminal) : t.asked.assistant = t.assistant := rfl

theorem handled_assistant :
    (t.handled screen s o text).assistant = (Wish.ofLine text).after s t.assistant := by
  rw [handled, line_assistant, asked_assistant]

theorem converse_eq (text : String) (lines : List String) :
    t.converse screen s o (text :: lines) = andThen (t.asked.line screen s o text) fun ended t =>
      if ended then (.ok 0, t) else t.converse screen s o lines := by
  rw [converse, put_invitation, andThen_ok]

theorem converse_cons (hstay : Wish.ofLine text ≠ .leave)
    (h : (Wish.ofLine text).isSmooth screen s o t.assistant = true)
    (hdrawn : ∀ c ∈ (Wish.ofLine text).complaint? s t.assistant, screen.draws (.note c) = true)
    (lines : List String) :
    t.converse screen s o (text :: lines) = (t.handled screen s o text).converse screen s o lines := by
  rw [← asked_assistant t] at h hdrawn
  have hline : (t.asked.line screen s o text).1 = .ok false := line_of_isSmooth hstay h hdrawn
  rw [converse_eq, andThen_of_ok hline, if_neg Bool.false_ne_true, handled]

theorem converse_leave (h : Wish.ofLine text = .leave) (lines : List String) :
    t.converse screen s o (text :: lines) = (.ok 0, t.asked) := by
  rw [converse_eq, line, h]
  rfl

/-- The lines before the user leaves are handled one after another, and no line after that. -/
theorem converse_append {exit : String} {before : List String}
    (hstay : ∀ text ∈ before, Wish.ofLine text ≠ .leave) (hexit : Wish.ofLine exit = .leave)
    (h : areSmooth screen s o t.assistant (before.map Wish.ofLine) = true)
    (hdrawn : DrawsAll screen (complaints s t.assistant (before.map Wish.ofLine)))
    (after : List String) :
    t.converse screen s o (before ++ exit :: after) =
      (.ok 0, (before.foldl (handled screen s o) t).asked) := by
  -- each line is smooth for the assistant that the lines before it leave
  induction before generalizing t with
  | nil => exact converse_leave hexit after
  | cons text before ih =>
    obtain ⟨htext, hbefore⟩ := List.forall_mem_cons.mp hstay
    rw [List.map_cons, areSmooth, Bool.and_eq_true] at h
    rw [List.map_cons, complaints, DrawsAll, List.forall_mem_append] at hdrawn
    obtain ⟨hhere, hlater⟩ := hdrawn
    have hassistant : (t.handled screen s o text).assistant = _ := handled_assistant
    rw [← hassistant] at hlater h
    rw [List.cons_append, converse_cons htext h.1 (by simpa using hhere),
      ih hbefore h.2 hlater, List.foldl_cons]

/-- The first error that cannot be drawn ends the talk. -/
theorem converse_of_undrawn {before : List String}
    (hstay : ∀ text ∈ before, Wish.ofLine text ≠ .leave)
    (h : areSmooth screen s o t.assistant (before.map Wish.ofLine) = true)
    (hno : ¬ DrawsAll screen (complaints s t.assistant (before.map Wish.ofLine)))
    (after : List String) :
    ∃ fault, (t.converse screen s o (before ++ after)).1 = .error (.fault fault) := by
  induction before generalizing t with
  | nil => exact absurd (fun text htext => absurd htext List.not_mem_nil) hno
  | cons text before ih =>
    obtain ⟨htext, hbefore⟩ := List.forall_mem_cons.mp hstay
    rw [List.map_cons, areSmooth, Bool.and_eq_true] at h
    rw [List.map_cons, complaints, DrawsAll, List.forall_mem_append] at hno
    have hassistant : (t.handled screen s o text).assistant = _ := handled_assistant
    by_cases hhere : ∀ c ∈ (Wish.ofLine text).complaint? s t.assistant,
        screen.draws (.note c) = true
    · rw [← hassistant] at hno h
      rw [List.cons_append, converse_cons htext h.1 hhere]
      exact ih hbefore h.2 fun hlater => hno ⟨by simpa using hhere, hlater⟩
    · obtain ⟨c, hc, hundrawn⟩ : ∃ c, (Wish.ofLine text).complaint? s t.assistant = some c ∧
          ¬ screen.draws (.note c) = true := by simpa using hhere
      rw [← asked_assistant t] at hc
      obtain ⟨fault, hfault⟩ := line_of_undrawn (o := o) hc hundrawn
      refine ⟨fault, ?_⟩
      rw [List.cons_append, converse_eq, andThen_of_error hfault]

theorem foldl_handled_assistant (before : List String) :
    (before.foldl (handled screen s o) t).assistant =
      (before.map Wish.ofLine).foldl (Wish.after s) t.assistant := by
  induction before generalizing t with
  | nil => rfl
  | cons text before ih => rw [List.foldl_cons, ih, handled_assistant, List.map_cons, List.foldl_cons]

/-- The wishes before the first one to leave. -/
theorem takeWhile_append {exit : String} {before after : List String}
    (hstay : ∀ text ∈ before, Wish.ofLine text ≠ .leave) (hexit : Wish.ofLine exit = .leave) :
    ((before ++ exit :: after).map Wish.ofLine).takeWhile (· != .leave) =
      before.map Wish.ofLine := by
  rw [List.map_append, List.map_cons, hexit,
    List.takeWhile_append_of_pos (by simpa using hstay), List.takeWhile_cons_of_neg (by simp),
    List.append_nil]

/-- Before the first line with which the user leaves there is none. -/
theorem exists_first_leave {exit : String} (hmem : exit ∈ lines) (hexit : Wish.ofLine exit = .leave) :
    ∃ before first after, lines = before ++ first :: after ∧
      (∀ text ∈ before, Wish.ofLine text ≠ .leave) ∧ Wish.ofLine first = .leave := by
  induction lines with
  | nil => cases hmem
  | cons text lines ih =>
    by_cases htext : Wish.ofLine text = .leave
    · exact ⟨[], text, lines, rfl, by simp, htext⟩
    · have hlater : exit ∈ lines := by
        rcases List.mem_cons.mp hmem with rfl | hlater
        · exact absurd hexit htext
        · exact hlater
      obtain ⟨before, first, after, rfl, hstay, hfirst⟩ := ih hlater
      exact ⟨text :: before, first, after, rfl, List.forall_mem_cons.mpr ⟨htext, hstay⟩, hfirst⟩

/-! ## Everything -/

/-- The terminal once the warehouse is connected, if it has to be. -/
def opened (screen : Screen) (s : Setup) (o : Options) (t : Terminal) : Terminal :=
  if o.connect then (t.connectFirst screen s o).2 else t

theorem putFirst_assistant (outcome : ConnectOutcome) (t : Terminal) :
    (t.putFirst screen o outcome).2.assistant = t.assistant := by
  unfold putFirst
  split
  · exact putDocument_assistant _ _
  · exact put_assistant _ _

/-- Nothing but connecting is done before. -/
theorem opened_assistant (h : o.connect = true) :
    (t.opened screen s o).assistant = (t.assistant.connectRemote s).2 := by
  rw [opened, if_pos h]
  unfold connectFirst
  rcases t.assistant.connectRemote s with ⟨failure | outcome, a⟩
  · rfl
  · exact (andThen_assistant fun _ _ => rfl).trans (putFirst_assistant _ _)

/-- The warehouse has to be connected first, and the login fails. -/
def Refused (s : Setup) (o : Options) (t : Terminal) : Prop :=
  o.connect = true ∧ t.assistant.LoginFails s

/-- How a run ends. -/
structure Ends (screen : Screen) (s : Setup) (o : Options) (lines : List String) (t : Terminal) :
    Prop where
  /-- Nothing more is done when the login fails. -/
  refused : Refused s o t → t.run s o lines screen = (.ok 1, (t.opened screen s o).close) ∧
    (t.opened screen s o).assistant = (t.assistant.connectRemote s).2
  /-- The schema is shown, whatever the question is. -/
  schema : ¬ Refused s o t → o.schema = true → ∃ code,
    (∀ query, t.run s { o with query } lines screen =
      (.ok code, ((t.opened screen s o).describe screen s o).2.close)) ∧
    Codes .sourceUnavailable ((t.opened screen s o).assistant.describeSchema s).1 code
  /-- The question is answered. -/
  question : ¬ Refused s o t → o.schema = false → ∀ question, o.query = some question → ∃ code,
    t.run s o lines screen = (.ok code, ((t.opened screen s o).ask screen s o question).2.close) ∧
    Codes .validation ((t.opened screen s o).assistant.submit s (.text question)).1 code ∧
    (code = 2 ↔ ∀ c ∈ question.toList, Text.isBlank c = true)
  /-- There is nothing to do but to connect. -/
  connected : ¬ Refused s o t → o.schema = false → o.query = none → o.connect = true →
    t.run s o lines screen = (.ok 0, (t.opened screen s o).close)
  /-- The lines before the user leaves are handled one after another. -/
  talk : o.connect = false → o.schema = false → o.query = none → ∀ before exit after,
    lines = before ++ exit :: after → (∀ text ∈ before, Wish.ofLine text ≠ .leave) →
    Wish.ofLine exit = .leave →
    t.run s o lines screen = (.ok 0, ((before.foldl (handled screen s o) t).asked).close) ∧
    (before.foldl (handled screen s o) t).assistant =
      (before.map Wish.ofLine).foldl (Wish.after s) t.assistant

theorem run_of_code {code : Nat} (h : t.opening screen s o = (.ok (some code), u)) :
    t.run s o lines screen = (.ok code, u.close) := by
  rw [run, h, afterOpening]

theorem run_of_error {failure : Failure} (h : (t.opening screen s o).1 = .error failure) :
    (t.run s o lines screen).1 = .error failure := by
  rw [run]
  rcases hr : t.opening screen s o with ⟨result, u⟩
  rw [hr] at h
  cases h
  rfl

theorem run_of_talk (h : t.opening screen s o = (.ok none, t)) :
    t.run s o lines screen =
      ((t.converse screen s o lines).1, (t.converse screen s o lines).2.close) := by
  rw [run, h, afterOpening]

theorem command_of_schema (hschema : o.schema = true) {code : Nat}
    (h : (t.describe screen s o).1 = .ok code) :
    t.command screen s o = (.ok (some code), (t.describe screen s o).2) := by
  rw [command, if_pos hschema, andThen_of_ok h]

theorem command_of_question {question : String} (hschema : o.schema = false)
    (hquery : o.query = some question) {code : Nat} (h : (t.ask screen s o question).1 = .ok code) :
    t.command screen s o = (.ok (some code), (t.ask screen s o question).2) := by
  rw [command, hschema, if_neg Bool.false_ne_true, hquery]
  exact andThen_of_ok h

theorem command_of_none (hschema : o.schema = false) (hquery : o.query = none) :
    t.command screen s o = (.ok (if o.connect then some 0 else none), t) := by
  rw [command, hschema, if_neg Bool.false_ne_true, hquery]

theorem putFirst_of_isFirstShowable {outcome : ConnectOutcome}
    (h : isFirstShowable screen o outcome = true) (t : Terminal) :
    (t.putFirst screen o outcome).1 = .ok () := by
  unfold isFirstShowable at h
  unfold putFirst
  split
  · rename_i hjson
    rw [if_pos hjson] at h
    exact putDocument_of_isOk h t
  · rename_i hjson
    rw [if_neg hjson] at h
    exact put_eq_ok_iff.mpr (by simpa using h)

/-- Connecting first ends with an outcome that is shown. -/
theorem connectFirst_of_isSmooth (hconnect : o.connect = true)
    (h : isSmooth screen s o lines t.assistant = true) :
    ∃ outcome, (t.assistant.connectRemote s).1 = .ok outcome ∧
      t.connectFirst screen s o = (.ok outcome.success, t.opened screen s o) ∧
      (outcome.success = true →
        areSmooth screen s o (t.opened screen s o).assistant (wishes o lines) = true) := by
  rw [opened_assistant hconnect, opened, if_pos hconnect]
  rw [isSmooth, if_pos hconnect] at h
  unfold connectFirst
  rcases hr : t.assistant.connectRemote s with ⟨failure | outcome, a⟩
  · obtain ⟨fault, rfl⟩ := Assistant.connectRemote_error (congrArg Prod.fst hr)
    rw [hr] at h
    cases h
  · rw [hr] at h
    simp only [failsOwn, Except.toOption, Option.all_some, Bool.true_and, Bool.and_eq_true,
      Bool.or_eq_true, Bool.not_eq_true'] at h
    obtain ⟨hshow, hrest⟩ := h
    refine ⟨outcome, rfl, ?_, fun hsuccess => hrest.resolve_left (by simp [hsuccess])⟩
    dsimp only
    rw [andThen_of_ok (putFirst_of_isFirstShowable hshow _)]

/-- A run ends at once if the login fails. -/
theorem opening_of_refused (hhealth : o.health = false)
    (h : isSmooth screen s o lines t.assistant = true) (hrefused : Refused s o t) :
    t.opening screen s o = (.ok (some 1), t.opened screen s o) := by
  obtain ⟨hconnect, hfails⟩ := hrefused
  obtain ⟨outcome, houtcome, hfirst, -⟩ := connectFirst_of_isSmooth hconnect h
  rw [(Assistant.success_eq_false_iff houtcome).mpr hfails] at hfirst
  simp [opening, hhealth, hconnect, hfirst]

/-- Otherwise it goes on with what the options ask for. -/
theorem opening_of_not_refused (hhealth : o.health = false)
    (h : isSmooth screen s o lines t.assistant = true) (hgoes : ¬ Refused s o t) :
    t.opening screen s o = (t.opened screen s o).command screen s o ∧
      areSmooth screen s o (t.opened screen s o).assistant (wishes o lines) = true ∧
      runComplaints s o lines t.assistant =
        complaints s (t.opened screen s o).assistant (wishes o lines) := by
  cases hconnect : o.connect with
  | false =>
    rw [isSmooth, hconnect, if_neg Bool.false_ne_true] at h
    rw [opened, runComplaints, hconnect, if_neg Bool.false_ne_true, if_neg Bool.false_ne_true]
    exact ⟨by simp [opening, hhealth, hconnect], h, rfl⟩
  | true =>
    obtain ⟨outcome, houtcome, hfirst, hrest⟩ := connectFirst_of_isSmooth hconnect h
    have hsuccess : outcome.success = true := by
      cases hsuccess : outcome.success with
      | true => rfl
      | false =>
        exact absurd ⟨hconnect, (Assistant.success_eq_false_iff houtcome).mp hsuccess⟩ hgoes
    have hcomplaints : runComplaints s o lines t.assistant =
        complaints s (t.opened screen s o).assistant (wishes o lines) := by
      rw [opened_assistant hconnect]
      simp [runComplaints, hconnect, houtcome, hsuccess, Except.toOption]
    rw [hsuccess] at hfirst
    exact ⟨by simp [opening, hhealth, hconnect, hfirst], hrest hsuccess, hcomplaints⟩

/-- Without a connection no error comes up that is shown as one. -/
theorem runComplaints_of_refused (h : isSmooth screen s o lines t.assistant = true)
    (hrefused : Refused s o t) : runComplaints s o lines t.assistant = [] := by
  obtain ⟨outcome, houtcome, -⟩ := connectFirst_of_isSmooth hrefused.1 h
  have hfails := (Assistant.success_eq_false_iff houtcome).mpr hrefused.2
  simp [runComplaints, hrefused.1, houtcome, hfails, Except.toOption]

/-- When the schema is asked for, the question makes no difference. -/
theorem isSmooth_query (hschema : o.schema = true) (query : Option String) (a : Assistant) :
    isSmooth screen s { o with query } lines a = isSmooth screen s o lines a := by
  have hwishes : wishes { o with query } lines = wishes o lines := by
    rw [wishes, wishes, if_pos hschema, if_pos hschema]
  have hare : ∀ ws a, areSmooth screen s { o with query } a ws = areSmooth screen s o a ws := by
    intro ws
    induction ws with
    | nil => exact fun a => rfl
    | cons w ws ih =>
      intro a
      rw [areSmooth, areSmooth, ih]
      rfl
  simp only [isSmooth, hwishes, hare]
  rfl

/-- The user talks to the assistant. -/
def Talks (o : Options) : Prop := o.connect = false ∧ o.schema = false ∧ o.query = none

theorem opening_of_talks (hhealth : o.health = false) (h : Talks o) :
    t.opening screen s o = (.ok none, t) := by
  obtain ⟨hconnect, hschema, hquery⟩ := h
  simp [opening, hhealth, hconnect, command_of_none hschema hquery]

/-- If all errors that come up can be drawn, the run ends as it should. -/
theorem ends_of_drawsAll (hhealth : o.health = false)
    (hsmooth : isSmooth screen s o lines t.assistant = true)
    (hdrawn : DrawsAll screen (runComplaints s o lines t.assistant)) :
    Ends screen s o lines t where
  refused hrefused :=
    ⟨run_of_code (opening_of_refused hhealth hsmooth hrefused), opened_assistant hrefused.1⟩
  schema hgoes hschema := by
    obtain ⟨-, hcalls, hcomplaints⟩ := opening_of_not_refused hhealth hsmooth hgoes
    rw [wishes, if_pos hschema, areSmooth, Bool.and_eq_true] at hcalls
    rw [hcomplaints, wishes, if_pos hschema, complaints, complaints, List.append_nil] at hdrawn
    obtain ⟨code, hcode, hcodes⟩ := describe_codes hcalls.1 fun c hc => hdrawn c (by simpa using hc)
    refine ⟨code, fun query => ?_, hcodes⟩
    have hsame := (isSmooth_query (o := o) hschema query t.assistant).trans hsmooth
    obtain ⟨hopening, -⟩ := opening_of_not_refused (o := { o with query }) hhealth hsame hgoes
    have hcommand := command_of_schema (o := { o with query }) hschema hcode
    exact run_of_code (hopening.trans hcommand)
  question hgoes hschema question hquery := by
    obtain ⟨hopening, hcalls, hcomplaints⟩ := opening_of_not_refused hhealth hsmooth hgoes
    have hwishes : wishes o lines = [.question question] := by
      rw [wishes, hschema, if_neg Bool.false_ne_true, hquery]
    rw [hwishes, areSmooth, Bool.and_eq_true] at hcalls
    rw [hcomplaints, hwishes, complaints, complaints, List.append_nil] at hdrawn
    obtain ⟨code, hcode, hcodes⟩ := ask_codes hcalls.1 fun c hc => hdrawn c (by simpa using hc)
    refine ⟨code, run_of_code (hopening.trans (command_of_question hschema hquery hcode)), hcodes, ?_⟩
    rw [hcodes.refused, Assistant.submit_validation_iff, Inquiry.isBlank_text_iff]
  connected hgoes hschema hquery hconnect := by
    obtain ⟨hopening, -⟩ := opening_of_not_refused hhealth hsmooth hgoes
    refine run_of_code (hopening.trans ?_)
    rw [command_of_none hschema hquery, if_pos hconnect]
  talk hconnect hschema hquery before exit after hlines hstay hexit := by
    have hgoes : ¬ Refused s o t := fun h => absurd (hconnect.symm.trans h.1) Bool.false_ne_true
    obtain ⟨-, hcalls, hcomplaints⟩ := opening_of_not_refused hhealth hsmooth hgoes
    have hopened : t.opened screen s o = t := by rw [opened, hconnect, if_neg Bool.false_ne_true]
    have hwishes : wishes o lines = before.map Wish.ofLine := by
      rw [wishes, hschema, if_neg Bool.false_ne_true, hquery, hconnect, hlines]
      exact takeWhile_append hstay hexit
    rw [hopened, hwishes] at hcalls
    rw [hcomplaints, hopened, hwishes] at hdrawn
    refine ⟨?_, foldl_handled_assistant before⟩
    rw [run_of_talk (opening_of_talks hhealth ⟨hconnect, hschema, hquery⟩), hlines,
      converse_append hstay hexit hcalls hdrawn]

/-- A single command ends with the error that cannot be drawn. -/
theorem command_of_undrawn (hcommand : ¬ Talks o)
    (hno : ¬ DrawsAll screen (complaints s t.assistant (wishes o lines))) :
    ∃ fault, (t.command screen s o).1 = .error (.fault fault) := by
  have hone {w : Wish} (h : ¬ DrawsAll screen (complaints s t.assistant [w])) :
      ∃ c, w.complaint? s t.assistant = some c ∧ ¬ screen.draws (.note c) = true := by
    simpa [DrawsAll, complaints] using h
  cases hschema : o.schema with
  | true =>
    rw [wishes, if_pos hschema] at hno
    obtain ⟨c, hc, hundrawn⟩ := hone hno
    obtain ⟨fault, hfault⟩ := describe_of_undrawn (o := o) hc hundrawn
    exact ⟨fault, by rw [command, if_pos hschema, andThen_of_error hfault]⟩
  | false =>
    rw [wishes, hschema, if_neg Bool.false_ne_true] at hno
    cases hquery : o.query with
    | some question =>
      rw [hquery] at hno
      obtain ⟨c, hc, hundrawn⟩ := hone hno
      obtain ⟨fault, hfault⟩ := ask_of_undrawn (o := o) hc hundrawn
      refine ⟨fault, ?_⟩
      rw [command, hschema, if_neg Bool.false_ne_true, hquery]
      exact congrArg Prod.fst (andThen_of_error hfault)
    | none =>
      -- there is nothing to do but to connect, which leads to no error here
      have hconnect : o.connect = true := by
        by_contra hconnect
        exact hcommand ⟨Bool.eq_false_iff.mpr hconnect, hschema, hquery⟩
      rw [hquery, hconnect, if_pos rfl] at hno
      exact absurd (fun text htext => absurd htext List.not_mem_nil) hno

/-- The first error that cannot be drawn ends the run. -/
theorem run_of_undrawn (hhealth : o.health = false)
    (hsmooth : isSmooth screen s o lines t.assistant = true)
    (hno : ¬ DrawsAll screen (runComplaints s o lines t.assistant)) :
    ∃ fault, (t.run s o lines screen).1 = .error (.fault fault) := by
  have hgoes : ¬ Refused s o t := by
    intro hrefused
    rw [runComplaints_of_refused hsmooth hrefused] at hno
    exact hno fun text htext => absurd htext List.not_mem_nil
  obtain ⟨hopening, hcalls, hcomplaints⟩ := opening_of_not_refused hhealth hsmooth hgoes
  rw [hcomplaints] at hno
  by_cases htalks : Talks o
  · obtain ⟨hconnect, hschema, hquery⟩ := htalks
    have hopened : t.opened screen s o = t := by rw [opened, hconnect, if_neg Bool.false_ne_true]
    rw [hopened, wishes, hschema, if_neg Bool.false_ne_true, hquery, hconnect,
      if_neg Bool.false_ne_true, List.takeWhile_map] at hno hcalls
    obtain ⟨fault, hfault⟩ := converse_of_undrawn (fun text htext => by
      simpa using List.mem_takeWhile_imp htext) hcalls hno
      (lines.dropWhile ((· != .leave) ∘ Wish.ofLine))
    rw [List.takeWhile_append_dropWhile] at hfault
    refine ⟨fault, ?_⟩
    rw [run_of_talk (opening_of_talks hhealth ⟨hconnect, hschema, hquery⟩), hfault]
  · obtain ⟨fault, hfault⟩ := command_of_undrawn htalks hno
    exact ⟨fault, run_of_error (by rw [hopening, hfault])⟩

/-- **Exit codes tell what happened**, whatever the options, the lines and the assistant are, exactly
when every error that comes up can be drawn. When the login fails, nothing more is done. The schema
comes before the question, and each has its own exit code for a result, for the error that is
expected and for other errors of the assistant. In a talk, which the user leaves, every line is
handled once, after those before it. -/
theorem run_ends_iff (hhealth : o.health = false)
    (hsmooth : isSmooth screen s o lines t.assistant = true)
    (hleaves : Talks o → ∃ exit ∈ lines, Wish.ofLine exit = .leave) :
    Ends screen s o lines t ↔ DrawsAll screen (runComplaints s o lines t.assistant) := by
  refine ⟨fun hends => ?_, ends_of_drawsAll hhealth hsmooth⟩
  by_contra hno
  obtain ⟨fault, hfault⟩ := run_of_undrawn hhealth hsmooth hno
  have hcode : ∃ code, (t.run s o lines screen).1 = .ok code := by
    by_cases hrefused : Refused s o t
    · exact ⟨1, by rw [(hends.refused hrefused).1]⟩
    · cases hschema : o.schema with
      | true =>
        obtain ⟨code, hrun, -⟩ := hends.schema hrefused hschema
        exact ⟨code, congrArg Prod.fst (hrun o.query)⟩
      | false =>
        cases hquery : o.query with
        | some question =>
          obtain ⟨code, hrun, -⟩ := hends.question hrefused hschema question hquery
          exact ⟨code, by rw [hrun]⟩
        | none =>
          cases hconnect : o.connect with
          | true => exact ⟨0, by rw [hends.connected hrefused hschema hquery hconnect]⟩
          | false =>
            obtain ⟨exit, hmem, hexit⟩ := hleaves ⟨hconnect, hschema, hquery⟩
            obtain ⟨before, first, after, hlines, hstay, hfirst⟩ := exists_first_leave hmem hexit
            have htalk := hends.talk hconnect hschema hquery before first after hlines hstay hfirst
            exact ⟨0, by rw [htalk.1]⟩
  obtain ⟨code, hcode⟩ := hcode
  rw [hcode] at hfault
  cases hfault

/-! ## Newcomers -/

/-- Someone at the terminal of an assistant that has done nothing yet. -/
def newcomer : Terminal := ⟨Assistant.start sampleDisk, []⟩

/-- Where a piece of a text begins for the first time. -/
def placeOf? (piece s : List Char) : Option Nat :=
  (List.range s.length).find? fun i => piece.isPrefixOf (s.drop i)

theorem placeOf?_of_not_mem {c : Char} {piece s : List Char} (h : c ∉ s) :
    placeOf? (c :: piece) s = none := by
  refine List.find?_eq_none.mpr fun i _ hfound => h ?_
  exact List.mem_of_mem_drop ((List.isPrefixOf_iff_prefix.mp hfound).subset List.mem_cons_self)

/-- A screen for texts in which nothing opens: `[/b]` closes nothing then. -/
def closingScreen : Screen where
  fault? text := (placeOf? ['[', '/', 'b', ']'] text.toList).map fun i => .raised "MarkupError"
    ("closing tag '[/b]' at position " ++ Text.natText i ++ " doesn't match any open tag")
  unmarked text h := by rw [placeOf?_of_not_mem h, Option.map_none]

/-- There is no connection at first, and a blank line is no question. The user goes on after that,
and what is said after leaving is not heard. -/
theorem run_ends_newcomer :
    let before := [":schema", "  ", "show name", ":connect", ":schema"]
    let lines := before ++ " :Exit" :: ["show age"]
    isSmooth closingScreen sampleSetup Options.default lines newcomer.assistant = true ∧
      runComplaints sampleSetup Options.default lines newcomer.assistant =
        ["No remote connection: connect to Snowflake first", "Query is required"] ∧
      Ends closingScreen sampleSetup Options.default lines newcomer ∧
      newcomer.run sampleSetup Options.default lines closingScreen = (.ok 0,
        ((before.foldl (handled closingScreen sampleSetup Options.default) newcomer).asked).close) := by
  intro before lines
  have hsmooth :
      isSmooth closingScreen sampleSetup Options.default lines newcomer.assistant = true := by
    decide +kernel
  have hcomplaints : runComplaints sampleSetup Options.default lines newcomer.assistant =
      ["No remote connection: connect to Snowflake first", "Query is required"] := by
    decide +kernel
  have hdrawn : DrawsAll closingScreen
      (runComplaints sampleSetup Options.default lines newcomer.assistant) := by
    rw [hcomplaints]
    exact List.forall_mem_cons.mpr ⟨by decide +kernel, List.forall_mem_singleton.mpr (by decide +kernel)⟩
  have hleaves : Talks Options.default → ∃ exit ∈ lines, Wish.ofLine exit = .leave :=
    fun _ => ⟨" :Exit", by decide, by decide +kernel⟩
  have hends : Ends closingScreen sampleSetup Options.default lines newcomer :=
    (run_ends_iff rfl hsmooth hleaves).mpr hdrawn
  have htalk := hends.talk rfl rfl rfl before " :Exit" ["show age"] rfl (by decide +kernel)
    (by decide +kernel)
  exact ⟨hsmooth, hcomplaints, hends, htalk.1⟩

/-- A warehouse that refuses to list its columns and says why. -/
def quotingSetup : Setup :=
  { sampleSetup with
    service := ⟨sampleSetup.service.config, ⟨fun _ => .ok (), fun _ command =>
      if command.parameters.isSome then .error (.report "unexpected '[/b]'" 0) else .ok []⟩⟩ }

/-- The reason cannot be drawn: the talk ends there, before the user leaves. -/
theorem run_quoting :
    let lines := [":connect", ":schema", ":exit"]
    isSmooth closingScreen quotingSetup Options.default lines newcomer.assistant = true ∧
      (newcomer.run quotingSetup Options.default lines closingScreen).1 =
        .error (.fault (.raised "MarkupError"
          "closing tag '[/b]' at position 39 doesn't match any open tag")) ∧
      ¬ Ends closingScreen quotingSetup Options.default lines newcomer := by
  intro lines
  have hrun : (newcomer.run quotingSetup Options.default lines closingScreen).1 =
      .error (.fault (.raised "MarkupError"
        "closing tag '[/b]' at position 39 doesn't match any open tag")) := by decide +kernel
  refine ⟨by decide +kernel, hrun, fun hends => ?_⟩
  have htalk := hends.talk rfl rfl rfl [":connect", ":schema"] ":exit" [] rfl (by decide +kernel)
    (by decide +kernel)
  rw [htalk.1] at hrun
  cases hrun

end Terminal

end AskTable
