import AskTable.Model.Fence
import AskTable.Model.Request
import AskTable.Question.Statement

/-!
# Translators

* `Reply`: what a language model answers.
* `Access`: the key and the name of a model, given or from the environment.
* `translate`: the model's statement for a question, with the requests that were made.
* `translateOrPlan`: the model's statement, or the one of the rules when there is none.
-/

namespace AskTable.Model

/-- What a model answers. -/
inductive Reply where
  | content (text : Option String)
  /-- The service reported an error. -/
  | refused
  | raised (name text : String)
  | noChoices
  deriving DecidableEq, Repr

/-- The statement in a reply, if there is one. -/
def Reply.statement? : Reply → Except Fault (Option String)
  | .content text =>
    let sql := withoutFences (text.getD "")
    .ok (if sql.isEmpty then none else some sql)
  | .refused => .ok none
  | .raised name text => .error (.raised name text)
  | .noChoices => .error .outOfRange

/-- An operation that may ask the model, with the requests it made. -/
structure Asked (α : Type) where
  result : Except Fault α
  requests : List Request

/-- Without a key nothing is asked. -/
structure Access where
  key : Option String
  model : String
  deriving DecidableEq, Repr

/-- A value that is given and not empty. -/
def nonempty? (s : Option String) : Option String := s.filter fun s => !s.isEmpty

/-- The key and model that are given, or else those of the environment. -/
def Access.of (key model envKey envModel : Option String) : Access :=
  ⟨nonempty? key <|> nonempty? envKey, (nonempty? model).getD (envModel.getD "gpt-4o-mini")⟩

/-- The model's statement for a question (`translate_to_sql`). -/
def translate (model : Request → Reply) (access : Access) (dialect : String) (question : Cell)
    (schema : List Descriptor) : Asked (Option String) :=
  match access.key with
  | none => ⟨.ok none, []⟩
  | some key =>
    match Request.of key access.model dialect question schema with
    | .error fault => ⟨.error fault, []⟩
    | .ok request => ⟨(model request).statement?, [request]⟩

/-- Are all columns those of the uploaded data? -/
def isLocal (schema : List Descriptor) : Bool :=
  schema.all fun d => match d.table with
    | .text name => name == localTable
    | _ => false

/-- The dialect in which a schema is queried. -/
def dialectOf (schema : List Descriptor) : String :=
  if isLocal schema then "ANSI SQL" else "Snowflake"

/-- How a question is translated: with a model or by the rules alone (`DefaultTranslator`). -/
structure Translation where
  useModel : Bool
  key : Option String
  model : Option String
  envModel : Option String

/-- The model's statement, or the one of the rules when the model is not used or gives none
(`DefaultTranslator.__call__`). -/
def translateOrPlan (model : Request → Reply) (t : Translation) (question : Cell)
    (schema : List Descriptor) : Asked String :=
  let planned := Question.planStatement question schema
  if t.useModel && (nonempty? t.key).isSome then
    let asked := translate model (Access.of t.key t.model none t.envModel) (dialectOf schema)
      question schema
    match asked.result with
    | .ok (some sql) => ⟨.ok sql, asked.requests⟩
    | .ok none => ⟨planned, asked.requests⟩
    | .error fault => ⟨.error fault, asked.requests⟩
  else ⟨planned, []⟩

end AskTable.Model
