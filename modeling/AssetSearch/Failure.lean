/-
# Failures

Everything that can go wrong in an operation, by its cause.  Some failures are local guards: the
operation was refused before anything left the program.  Others may go away when the operation is
tried again.

Key definitions: `Failure`, `Failure.message` (the full text), `Failure.userMessage` (the text for
the operator, without the command it came from), `Failure.isRetryable` and `Failure.isLocalGuard`.
-/
import AssetSearch.Json.Fault
import AssetSearch.Calendar.Duration

namespace AssetSearch

/-- Why an operation failed. -/
inductive Failure where
  /-- A text names no known platform. -/
  | unknownPlatform (text : String)
  /-- The platform does not accept the query. -/
  | invalidQuery (platform : String) (message : String)
  /-- A field of the input breaks a rule. -/
  | invalidField (field : String) (message : String)
  /-- A needed input is blank. -/
  | emptyInput (what : String)
  /-- An export was asked for no page at all. -/
  | zeroPages
  /-- The backend ran the command and reports a failure. -/
  | backend (command : String) (message : String)
  /-- The backend does not know the command. -/
  | unsupported (command : String)
  /-- The connection to the backend is gone. -/
  | connectionLost (address : String)
  | timeout (limit : Duration)
  /-- The file system failed, in its own words, at a path if one is known. -/
  | io (message : String) (path : Option String)
  /-- A value could not be read; the fault is named behind the context. -/
  | json (context : String) (fault : Option Json.Fault)
  | configuration (message : String)
  | other (text : String)
  deriving DecidableEq

/-- The outcome of an operation that may fail. -/
abbrev Outcome (α : Type) : Type :=
  Except Failure α

namespace Failure

/-- A path in words. -/
def describePath : Option String → String
  | none => "None"
  | some p => s!"Some({Text.quoted p})"

/-- The whole text of a failure. -/
def message : Failure → String
  | unknownPlatform text => s!"Unknown platform: {text}"
  | invalidQuery platform message => s!"Invalid {platform} query: {message}"
  | invalidField field message => s!"Validation error for {field}: {message}"
  | emptyInput what => s!"Nothing to do: {what} is empty"
  | zeroPages => "Refusing to start a zero-page export"
  | backend command message => s!"Backend command {command} failed: {message}"
  | unsupported command => s!"Backend command {command} is not supported"
  | connectionLost address => s!"Backend connection to {address} lost"
  | timeout limit => s!"Request timeout after {limit.text}"
  | io message path => s!"IO error at {describePath path}: {message}"
  | json context none => s!"JSON error: {context}"
  | json context (some fault) => s!"JSON error: {context}{fault.message}"
  | configuration message => s!"Configuration error: {message}"
  | other text => text

/-- The text for the operator: a failure that the backend reports speaks for itself. -/
def userMessage : Failure → String
  | backend _ message => message
  | invalidQuery _ message => message
  | f => f.message

/-- Whether the same operation may succeed when it is tried again. -/
def isRetryable : Failure → Bool
  | backend .. | connectionLost _ | timeout _ => true
  | _ => false

/-- Whether the failure was raised before anything reached the backend. -/
def isLocalGuard : Failure → Bool
  | emptyInput _ | zeroPages | invalidField .. | unknownPlatform _ => true
  | _ => false

end Failure

end AssetSearch
