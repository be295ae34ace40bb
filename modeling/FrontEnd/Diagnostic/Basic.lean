import FrontEnd.Diagnostic.Code
import FrontEnd.Source.Id
import FrontEnd.Token.Span

/-!
Diagnostics: what is reported to the user, with labels that point into sources.
-/

namespace FrontEnd

/-- How grave a diagnostic is. -/
inductive Severity where
  | error | warning | note | help
  deriving DecidableEq, Inhabited

/-- The word for a severity. -/
def Severity.label : Severity → String
  | .error => "error"
  | .warning => "warning"
  | .note => "note"
  | .help => "help"

/-- The severity of a word. -/
def Severity.ofLabel? (label : String) : Option Severity :=
  [Severity.error, .warning, .note, .help].find? fun severity => severity.label == label

/-- A place that a diagnostic points to, with a remark. -/
structure Label where
  source : SourceId
  span : TokenSpan
  message : String
  isPrimary : Bool
  deriving DecidableEq

/-- A report. -/
structure Diagnostic where
  code : ErrorCode
  severity : Severity := .error
  message : String := ""
  labels : List Label := []
  notes : List String := []
  suggestions : List String := []
  deriving DecidableEq

namespace Diagnostic

/-- An error with a message. -/
def error (code : ErrorCode) (message : String) : Diagnostic := { code, message }

/-- Adds a label that the diagnostic is mainly about. -/
def withLabel (diag : Diagnostic) (source : SourceId) (span : TokenSpan) (message : String) :
    Diagnostic :=
  { diag with labels := diag.labels ++ [⟨source, span, message, true⟩] }

def withNote (diag : Diagnostic) (note : String) : Diagnostic :=
  { diag with notes := diag.notes ++ [note] }

/-- Adds a note if there is one. -/
def withNote? (diag : Diagnostic) (note : Option String) : Diagnostic :=
  { diag with notes := diag.notes ++ note.toList }

def isError (diag : Diagnostic) : Bool := diag.severity == .error

/-- The first label that the diagnostic is mainly about. -/
def primaryLabel? (diag : Diagnostic) : Option Label := diag.labels.find? (·.isPrimary)

/-- Severity, code and message on one line. -/
def title (diag : Diagnostic) : String :=
  s!"{diag.severity.label}[{diag.code.label}]: {diag.message}"

/-- How many errors and how many warnings there are. -/
def tally (diags : List Diagnostic) : Nat × Nat :=
  (diags.countP (·.severity == .error), diags.countP (·.severity == .warning))

/-- The note that lists candidates, if there are any. -/
def candidatesNote? : List String → Option String
  | [] => none
  | [only] => some s!"candidate: `{only}`"
  | many => some ("candidates: " ++ ", ".intercalate (many.map fun name => "`" ++ name ++ "`"))

end Diagnostic

end FrontEnd
