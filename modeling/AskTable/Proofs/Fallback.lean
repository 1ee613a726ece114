import AskTable.Model.Translator
import AskTable.Proofs.DigitRuns
import AskTable.Proofs.Plans

/-!
# Falling back to the rules

A question in words always has a plan, so there is a statement whatever a model answers. A text of
the model takes its place, and a reply without one is replaced by it, but a failure that the service
does not report itself ends the translation.

* `ofQuestion_eq_ok_of_texts`, `planStatement_eq_ok_of_texts`: over columns with names, only a
  number with too many digits has no plan.
* `Request.of_eq_ok`: over tables with names there is a request.
* `Reply.given?`, `Reply.fault?`: the statement in a reply and the fault that it raises.
* `translateOrPlan_eq`: what is asked and answered, without the steps in between.
* `translateOrPlan_falls_back_iff`: the statement of the model, and otherwise the planned one, is
  the result exactly when the reply raises no fault; there is at most one request.
-/

namespace AskTable.Question

open AskTable.Text AskTable.Number

/-! ## The statement of the rules -/

/-- A question whose numbers can be read has a plan over columns with names. -/
theorem ofQuestion_eq_ok_of_texts {question : String} (texts : List String)
    (h : DigitsWithin maxDigits question.toList) :
    ∃ p, Plan.ofQuestion question (texts.map .text) = .ok p := by
  have hp := ofQuestion_texts question texts
  rw [limitOf_eq_ok h] at hp
  exact ⟨_, hp⟩

theorem Plan.statement_ne_empty (p : Plan) (table : String) : p.statement table ≠ "" := by
  simp [Plan.statement, String.append_eq_empty_iff]

/-- Tables and columns have names. -/
def Named (schema : List Descriptor) : Prop :=
  ∀ d ∈ schema, (∃ table, d.table = .text table) ∧ ∃ column, d.column = .text column

theorem Named.columns {schema : List Descriptor} (h : Named schema) :
    ∃ texts : List String, schema.map (·.column) = texts.map .text := by
  induction schema with
  | nil => exact ⟨[], rfl⟩
  | cons d schema ih =>
    obtain ⟨-, column, hd⟩ := h d List.mem_cons_self
    obtain ⟨texts, ht⟩ := ih fun d hd => h d (List.mem_cons_of_mem _ hd)
    exact ⟨column :: texts, by rw [List.map_cons, List.map_cons, hd, ht]⟩

theorem planStatement_eq_ok_of_texts {question : String} {schema : List Descriptor}
    (hdigits : DigitsWithin maxDigits question.toList) (hnames : Named schema) :
    ∃ planned, planStatement (.text question) schema = .ok planned ∧ planned ≠ "" := by
  obtain ⟨texts, htexts⟩ := hnames.columns
  obtain ⟨p, hp⟩ := ofQuestion_eq_ok_of_texts texts hdigits
  exact ⟨_, planStatement_eq_ok.mpr ⟨question, p, rfl, htexts ▸ hp, rfl⟩, p.statement_ne_empty _⟩

end AskTable.Question

namespace AskTable.Model

open AskTable.Text AskTable.Question AskTable.Number

/-! ## Requests and replies -/

theorem mapM_tableName {schema : List Descriptor} (h : Named schema) :
    ∃ names, schema.mapM (fun d => tableName 0 d.table) = .ok names := by
  refine exists_mapM_eq_ok.mpr fun d hd => ?_
  obtain ⟨⟨table, htable⟩, -⟩ := h d hd
  rw [htable]
  exact ⟨table, rfl⟩

/-- Over tables with names there is a request, with the key that was given. -/
theorem Request.of_eq_ok {schema : List Descriptor} (h : Named schema)
    (apiKey model dialect : String) (question : Cell) :
    ∃ request, Request.of apiKey model dialect question schema = .ok request ∧
      request.apiKey = apiKey := by
  obtain ⟨names, hn⟩ := mapM_tableName h
  have htables : tableNames schema = .ok (names.eraseDups.mergeSort fun a b => a ≤ b) :=
    bind_eq_ok.mpr ⟨names, hn, rfl⟩
  exact ⟨_, bind_eq_ok.mpr ⟨_, htables, rfl⟩, rfl⟩

/-- The fault that a reply raises. A refusal of the service is none. -/
def Reply.fault? : Reply → Option Fault
  | .content _ => none
  | .refused => none
  | .raised name text => some (.raised name text)
  | .noChoices => some .outOfRange

/-- The text of a reply without its fences, unless nothing is left of it. -/
def Reply.given? : Reply → Option String
  | .content text => nonempty? (some (withoutFences (text.getD "")))
  | _ => none

theorem ne_empty_of_nonempty? {s : Option String} {t : String} (h : nonempty? s = some t) :
    t ≠ "" := by
  have ht := (Option.filter_eq_some_iff.mp h).2
  simpa using ht

theorem Reply.given?_ne_empty {r : Reply} {sql : String} (h : r.given? = some sql) : sql ≠ "" := by
  cases r with
  | content => exact ne_empty_of_nonempty? h
  | _ => cases h

theorem Reply.statement?_eq (r : Reply) :
    r.statement? = match r.fault? with
      | some fault => .error fault
      | none => .ok r.given? := by
  cases r with
  | content text =>
    simp only [statement?, fault?, given?, nonempty?, Option.filter_some]
    cases (withoutFences (text.getD "")).isEmpty <;> rfl
  | _ => rfl

/-! ## The translation -/

/-- Is the model asked at all? -/
def Translation.asks (t : Translation) : Bool := t.useModel && (nonempty? t.key).isSome

/-- What comes of a reply when the rules have planned a statement. -/
def Reply.orPlanned (r : Reply) (planned : String) : Except Fault String :=
  match r.fault? with
  | some fault => .error fault
  | none => .ok (r.given?.getD planned)

variable (model : Request → Reply) (t : Translation) {question : Cell} {schema : List Descriptor}

theorem translateOrPlan_of_not_asks {t : Translation} (h : t.asks = false) :
    translateOrPlan model t question schema = ⟨planStatement question schema, []⟩ := by
  rw [Translation.asks] at h
  rw [translateOrPlan, h]
  rfl

/-- A model that is asked gets one request, and its reply decides. -/
theorem translateOrPlan_of_asks {t : Translation} (h : t.asks = true) (hnames : Named schema)
    {planned : String} (hplanned : planStatement question schema = .ok planned) :
    ∃ request, nonempty? t.key = some request.apiKey ∧
      translateOrPlan model t question schema =
        ⟨(model request).orPlanned planned, [request]⟩ := by
  have huse := h
  simp only [Translation.asks, Bool.and_eq_true, Option.isSome_iff_exists] at huse
  obtain ⟨key, hkey⟩ := huse.2
  obtain ⟨request, hrequest, hapi⟩ :=
    Request.of_eq_ok hnames key (Access.of t.key t.model none t.envModel).model (dialectOf schema)
      question
  have haccess : (Access.of t.key t.model none t.envModel).key = some key := by
    rw [Access.of, hkey]
    rfl
  have hasked : translate model (Access.of t.key t.model none t.envModel) (dialectOf schema)
      question schema = ⟨(model request).statement?, [request]⟩ := by
    simp only [translate, haccess, hrequest]
  refine ⟨request, by rw [hkey, hapi], ?_⟩
  rw [Translation.asks] at h
  simp only [translateOrPlan, h, if_true, hasked, hplanned, Reply.statement?_eq, Reply.orPlanned]
  cases (model request).fault? with
  | some fault => rfl
  | none => cases (model request).given? <;> rfl

/-- **Falling back to the rules.** For a question with numbers that can be read, over a schema with
names, the rules plan a statement. It is the result when the model is not to be asked, and nothing
is requested then. Otherwise there is one request, and the result is the statement in the reply, or
the planned one when there is none. This holds exactly of the replies that raise no fault; a fault
is passed on. -/
theorem translateOrPlan_falls_back_iff {question : String}
    (hdigits : DigitsWithin maxDigits question.toList) (hnames : Named schema) :
    ∃ planned, planStatement (.text question) schema = .ok planned ∧ planned ≠ "" ∧
      (t.asks = false →
        translateOrPlan model t (.text question) schema = ⟨.ok planned, []⟩) ∧
      (t.asks = true → ∃ request, nonempty? t.key = some request.apiKey ∧
        (translateOrPlan model t (.text question) schema).requests = [request] ∧
        (model request).given?.getD planned ≠ "" ∧
        ((translateOrPlan model t (.text question) schema).result =
            .ok ((model request).given?.getD planned) ↔ (model request).fault? = none) ∧
        ∀ fault, (model request).fault? = some fault →
          (translateOrPlan model t (.text question) schema).result = .error fault) := by
  obtain ⟨planned, hplanned, hne⟩ := planStatement_eq_ok_of_texts hdigits hnames
  refine ⟨planned, hplanned, hne, fun hasks => ?_, fun hasks => ?_⟩
  · rw [translateOrPlan_of_not_asks model hasks, hplanned]
  · obtain ⟨request, hkey, hasked⟩ := translateOrPlan_of_asks model hasks hnames hplanned
    refine ⟨request, hkey, by rw [hasked], ?_, ?_, ?_⟩
    · cases hgiven : (model request).given? with
      | none => exact hne
      | some sql => exact Reply.given?_ne_empty hgiven
    · rw [hasked, Reply.orPlanned]
      cases (model request).fault? <;> simp
    · intro fault hfault
      rw [hasked, Reply.orPlanned, hfault]

/-! ## A table of names -/

/-- One column of names. -/
def people : List Descriptor := [⟨.text localTable, .text "name", .text "VARCHAR", true⟩]

theorem named_people : Named people := by
  intro d hd
  rw [people, List.mem_singleton] at hd
  subst hd
  exact ⟨⟨localTable, rfl⟩, "name", rfl⟩

/-- The model may be asked, with this key. -/
def withKey : Translation := ⟨true, some "sk-1", none, none⟩

/-- A statement between fences is taken, and one of the rules stands in for a refusal. -/
theorem translateOrPlan_fenced :
    DigitsWithin maxDigits "show name".toList ∧ Named people ∧ withKey.asks = true ∧
      (translateOrPlan (fun _ => .content (some "\x60\x60\x60sql\nSELECT name\n\x60\x60\x60"))
        withKey (.text "show name") people).result = .ok "SELECT name" ∧
      (translateOrPlan (fun _ => .refused) withKey (.text "show name") people).result =
        .ok "SELECT name FROM UPLOADED_DATA" := by
  have hdigits : DigitsWithin maxDigits "show name".toList := .of_length (by decide)
  have hplan : planStatement (.text "show name") people = .ok "SELECT name FROM UPLOADED_DATA" := by
    decide +kernel
  have hresult (r : Reply) (h : r.fault? = none) :
      (translateOrPlan (fun _ => r) withKey (.text "show name") people).result =
        .ok (r.given?.getD "SELECT name FROM UPLOADED_DATA") := by
    obtain ⟨planned, hplanned, -, -, hasked⟩ :=
      translateOrPlan_falls_back_iff (fun _ => r) withKey hdigits named_people
    cases Except.ok.inj (hplanned.symm.trans hplan)
    obtain ⟨request, -, -, -, hiff, -⟩ := hasked rfl
    exact hiff.mpr h
  refine ⟨hdigits, named_people, rfl, ?_, hresult .refused rfl⟩
  rw [hresult _ rfl]
  decide +kernel

/-- A list of choices without one is no reply that the rules stand in for. -/
theorem translateOrPlan_noChoices :
    DigitsWithin maxDigits "show name".toList ∧ Named people ∧
      planStatement (.text "show name") people = .ok "SELECT name FROM UPLOADED_DATA" ∧
      (translateOrPlan (fun _ => .noChoices) withKey (.text "show name") people).result =
        .error .outOfRange :=
  ⟨.of_length (by decide), named_people, by decide +kernel, by decide +kernel⟩

end AskTable.Model
