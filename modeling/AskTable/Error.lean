import AskTable.Fault

/-!
# The assistant's own errors

* `ErrorKind`: what went wrong for the caller.
* `AssistantError`: the kind, a message and details; `AssistantError.text` joins the two.
* `Failure`: how an operation ends without an answer.
-/

namespace AskTable

inductive ErrorKind where
  | assistant
  /-- Required input is missing or malformed. -/
  | validation
  /-- No local data file and no remote connection. -/
  | sourceUnavailable
  /-- A data file without rows. -/
  | emptySource
  /-- The warehouse refused the login, or it took too long. -/
  | remoteAuth
  /-- A statement failed in the warehouse. -/
  | remoteExecution
  /-- An unexpected failure on the way to an answer. -/
  | internalProcessing
  deriving DecidableEq, Repr

def ErrorKind.name : ErrorKind → String
  | .assistant => "AssistantError"
  | .validation => "ValidationError"
  | .sourceUnavailable => "SourceUnavailableError"
  | .emptySource => "EmptySourceError"
  | .remoteAuth => "RemoteAuthError"
  | .remoteExecution => "RemoteExecutionError"
  | .internalProcessing => "InternalProcessingError"

/-- An error of the assistant (`AssistantError`). -/
structure AssistantError where
  kind : ErrorKind
  message : String
  details : Option String := none
  /-- The number that the warehouse gives a refused login. -/
  code : Option Int := none
  deriving DecidableEq, Repr

/-- The message, followed by the details if there are any. -/
def AssistantError.text (e : AssistantError) : String :=
  match e.details with
  | none | some "" => e.message
  | some details => e.message ++ ": " ++ details

/-- How an operation ends without an answer. -/
inductive Failure where
  | own (error : AssistantError)
  | fault (fault : Fault)
  /-- The caller went away. -/
  | cancelled
  deriving DecidableEq, Repr

def Failure.text : Failure → String
  | .own error => error.text
  | .fault f => f.message
  | .cancelled => ""

/-- An operation with a fault ends in a failure. -/
def orFail (x : Except Fault α) : Except Failure α :=
  match x with
  | .ok a => .ok a
  | .error f => .error (.fault f)

end AskTable
