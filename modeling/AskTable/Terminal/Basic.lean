import AskTable.Assistant.Inquiry
import AskTable.Model.Translator
import AskTable.Terminal.Options
import AskTable.Terminal.Screen

/-!
# The assistant at a terminal

* `Terminal`: an assistant with all that was shown.
* `Terminal.put`: shows some things, as far as the screen can draw them.
* `Terminal.ask`, `connect`, `describe`: single commands; `conclude`: how they end.
* `Terminal.opening`: what the options ask for; it may leave the terminal to the user.
* `Terminal.line`, `converse`: a line of the user, and all of them up to the one that ends the talk.
* `Terminal.run`: everything, and how it ends.
-/

namespace AskTable

open AskTable.Terminal

structure Terminal where
  assistant : Assistant
  shown : List Item

namespace Terminal

/-- What an operation at the terminal gives: its result and the terminal after it. -/
abbrev Ran (α : Type) := Except Failure α × Terminal

/-- Goes on after an operation, unless it failed. -/
def andThen (r : Ran α) (next : α → Terminal → Ran β) : Ran β :=
  match r with
  | (.ok x, t) => next x t
  | (.error failure, t) => (.error failure, t)

/-- Ends an operation with an exit code. -/
def exit (code : Nat) (r : Ran Unit) : Ran Nat := (r.1.map fun _ => code, r.2)

/-- Shows some things one after another, up to the first that cannot be drawn. -/
def put (screen : Screen) : List Drawing → Terminal → Ran Unit
  | [], t => (.ok (), t)
  | d :: drawings, t =>
    match screen.faultIn? d with
    | some fault => (.error (.fault fault), t)
    | none => put screen drawings { t with shown := t.shown ++ [d.item] }

/-- Shows a document, unless it cannot be made (`_emit_json`). -/
def putDocument (screen : Screen) (document : Except Fault Json) (t : Terminal) : Ran Unit :=
  match document with
  | .ok j => t.put screen [.ofJson j]
  | .error fault => (.error (.fault fault), t)

/-- Ends a command with what came of it. A result is shown in a way of its own; an error of the
assistant is told by a text, and by the exit code that goes with it. -/
def conclude (screen : Screen) (told : AssistantError → String × Nat)
    (view : α → Terminal → Ran Unit) (result : Except Failure α) (t : Terminal) : Ran Nat :=
  match result with
  | .ok x => exit 0 (view x t)
  | .error (.own e) => exit (told e).2 (t.put screen [.note (told e).1])
  | .error failure => (.error failure, t)

/-! ## Questions -/

/-- Shows an envelope; the answer may not be writable (`_render_envelope`). -/
def putEnvelope (screen : Screen) (e : Report.Envelope) (t : Terminal) : Ran Unit :=
  andThen (t.put screen (Drawing.statement e)) fun _ t =>
    match e.answer with
    | .ok answer => t.put screen (Drawing.results e answer)
    | .error fault => (.error (.fault fault), t)

/-- Shows the outcome of a question. -/
def putOutcome (screen : Screen) (o : Options) (outcome : QueryOutcome) (t : Terminal) : Ran Unit :=
  if o.json then t.putDocument screen outcome.document
  else
    andThen (t.put screen [.note outcome.message]) fun _ t =>
      match outcome.envelope? with
      | some e => t.putEnvelope screen e
      | none => (.ok (), t)

/-- How an error is told that a question leads to. -/
def questionError (e : AssistantError) : String × Nat :=
  if e.kind == .validation then (e.message, 2) else (e.text, 1)

/-- Answers a question (`_run.run_once`). -/
def ask (screen : Screen) (s : Setup) (o : Options) (question : String) (t : Terminal) : Ran Nat :=
  let (result, assistant) := t.assistant.submit s (.text question)
  conclude screen questionError (putOutcome screen o) result { t with assistant }

/-! ## The warehouse -/

/-- The mode in which an attempt to connect leaves the session, in brackets. -/
def modeText (outcome : ConnectOutcome) : String := " (mode: " ++ outcome.mode.name ++ ")"

/-- The message of an outcome, with its details if there are any. -/
def fullMessage (outcome : ConnectOutcome) : String :=
  match outcome.details? with
  | some details => outcome.message ++ ": " ++ details
  | none => outcome.message

/-- Shows the outcome of connecting first of all. -/
def putFirst (screen : Screen) (o : Options) (outcome : ConnectOutcome) (t : Terminal) : Ran Unit :=
  if o.json then t.putDocument screen (outcome.document Cell.strict)
  else t.put screen [.note (fullMessage outcome ++ modeText outcome)]

/-- Connects before anything else is done. -/
def connectFirst (screen : Screen) (s : Setup) (o : Options) (t : Terminal) : Ran Bool :=
  let (result, assistant) := t.assistant.connectRemote s
  let t := { t with assistant }
  match result with
  | .ok outcome => andThen (t.putFirst screen o outcome) fun _ t => (.ok outcome.success, t)
  | .error failure => (.error failure, t)

/-- Connects when the user says so. -/
def connect (screen : Screen) (s : Setup) (t : Terminal) : Ran Unit :=
  let (result, assistant) := t.assistant.connectRemote s
  let t := { t with assistant }
  match result with
  | .ok outcome => t.put screen [.note (outcome.message ++ modeText outcome)]
  | .error failure => (.error failure, t)

/-- What the columns of a table say of a descriptor. -/
def catalogFields : List (Descriptor → String) :=
  [fun d => d.table.plainText, fun d => d.column.plainText, fun d => d.dataType.plainText,
    fun d => if d.nullable then "YES" else "NO"]

/-- A schema as a table, whose cells may hold marks. It is drawn by columns. -/
def catalogTable (c : Catalog) : Drawing :=
  let labels := ["table_name", "column_name", "data_type", "nullable"]
  let title := "schema (" ++ Text.natText c.tableCount ++ " tables, " ++
    Text.natText c.columns.length ++ " columns)"
  ⟨.table title labels (c.columns.map fun d => catalogFields.map (· d)),
    labels ++ catalogFields.flatMap c.columns.map ++ [title]⟩

/-- What is shown of a schema. -/
def catalogDrawing (o : Options) (c : Catalog) : Drawing :=
  if o.json then .ofJson c.document else catalogTable c

def putCatalog (screen : Screen) (o : Options) (c : Catalog) (t : Terminal) : Ran Unit :=
  t.put screen [catalogDrawing o c]

/-- How an error is told that describing the schema leads to. -/
def schemaError (e : AssistantError) : String × Nat :=
  if e.kind == .sourceUnavailable then (e.message ++ ": " ++ e.details.getD "None", 2)
  else (e.text, 1)

/-- Shows the schema of the warehouse (`_run.show_schema`). -/
def describe (screen : Screen) (s : Setup) (o : Options) (t : Terminal) : Ran Nat :=
  let (result, assistant) := t.assistant.describeSchema s
  conclude screen schemaError (putCatalog screen o) result { t with assistant }

/-! ## Conversation -/

/-- What the user is asked for. -/
def invitation : Drawing := .prompt "Ask a question (:connect, :schema, :exit to quit)"

/-- What a line of the user asks for. -/
inductive Wish where
  | leave
  | connect
  | schema
  | question (text : String)
  deriving DecidableEq, Repr

/-- The wish in a line; commands are told in any letter case. -/
def Wish.ofLine (line : String) : Wish :=
  let text := String.ofList (Text.trim line.toList)
  let command := String.ofList (Text.lower text.toList)
  if [":exit", ":quit", "exit", "quit"].contains command then .leave
  else if command == ":connect" then .connect
  else if command == ":schema" then .schema
  else .question text

/-- Does what a line asks for; the talk ends with a result or goes on. -/
def line (screen : Screen) (s : Setup) (o : Options) (text : String) (t : Terminal) : Ran Bool :=
  match Wish.ofLine text with
  | .leave => (.ok true, t)
  | .connect => andThen (t.connect screen s) fun _ t => (.ok false, t)
  | .schema => andThen (t.describe screen s o) fun _ t => (.ok false, t)
  | .question text => andThen (t.ask screen s o text) fun _ t => (.ok false, t)

/-- Asks for lines until one ends the talk. There has to be one. -/
def converse (screen : Screen) (s : Setup) (o : Options) : List String → Terminal → Ran Nat
  | [], t => andThen (t.put screen [invitation]) fun _ t => (.error (.fault .endOfInput), t)
  | text :: lines, t =>
    andThen (andThen (t.put screen [invitation]) fun _ t => t.line screen s o text) fun ended t =>
      if ended then (.ok 0, t) else converse screen s o lines t

/-! ## Everything -/

/-- What the options ask for, once the warehouse is connected if it has to be (`_run`). There is no
exit code when the user is to go on. -/
def command (screen : Screen) (s : Setup) (o : Options) (t : Terminal) : Ran (Option Nat) :=
  if o.schema then andThen (t.describe screen s o) fun code t => (.ok (some code), t)
  else match o.query with
    | some question => andThen (t.ask screen s o question) fun code t => (.ok (some code), t)
    | none => (.ok (if o.connect then some 0 else none), t)

/-- What the options ask for. -/
def opening (screen : Screen) (s : Setup) (o : Options) (t : Terminal) : Ran (Option Nat) :=
  if o.health then andThen (t.put screen [.ofJson healthDocument]) fun _ t => (.ok (some 0), t)
  else if o.connect then
    andThen (t.connectFirst screen s o) fun connected t =>
      if connected then t.command screen s o else (.ok (some 1), t)
  else t.command screen s o

/-- Leaves the terminal; the warehouse is closed. -/
def close (t : Terminal) : Terminal := { t with assistant := t.assistant.close }

/-- Goes on with the user, unless the opening was all. -/
def afterOpening (screen : Screen) (s : Setup) (o : Options) (lines : List String) :
    Ran (Option Nat) → Ran Nat
  | (.ok (some code), t) => (.ok code, t)
  | (.ok none, t) => t.converse screen s o lines
  | (.error failure, t) => (.error failure, t)

/-- Everything from the options to the end, with the lines that the user has to say (`main`). If not
said otherwise, every text can be drawn. -/
def run (s : Setup) (o : Options) (lines : List String) (t : Terminal)
    (screen : Screen := .plain) : Ran Nat :=
  let (result, t) := afterOpening screen s o lines (t.opening screen s o)
  (result, t.close)

end Terminal

end AskTable
