import FrontEnd.Diagnostic.Queue
import FrontEnd.Outline.Token
import FrontEnd.Source.Registry

/-!
Outlines of source files, of locations in them and of diagnostics, and of what is known of codes.
-/

namespace FrontEnd

instance : Coe SourceId Outline := ⟨fun id => id.number.val⟩

def SourceFile.outline (file : SourceFile) : Outline :=
  .record [("id", file.id), ("path", file.path), ("text", file.text),
    ("lexed", file.tokens.isSome), ("modified", file.modified.isSome), ("debug", file.dump)]

def SourceLocation.outline (place : SourceLocation) (names : Interner) :
    Except ReadError Outline := do
  return .record [("source", place.file.id), ("span", place.span.parts),
    ("line_col", (← place.lineCol names).describe), ("text", ← place.text names),
    ("line_text", ← place.lineText names), ("debug", place.dump)]

def Label.outline (label : Label) : Outline :=
  .list [if label.isPrimary then "primary" else "secondary", label.source, label.span.parts,
    label.message]

def Diagnostic.outline (diag : Diagnostic) : Outline :=
  .record [("title", diag.title), ("labels", .each Label.outline diag.labels),
    ("notes", .each .text diag.notes), ("suggestions", .each .text diag.suggestions)]

/-- A diagnostic with what is asked of it most. -/
def Diagnostic.described (diag : Diagnostic) : Outline :=
  .record [("diag", diag.outline), ("is_error", diag.isError),
    ("primary", .opt (fun label => label.message) diag.primaryLabel?)]

def ErrorCode.outline (code : ErrorCode) : Outline :=
  .record [("code", code.label), ("display", code.label), ("debug", code.label),
    ("description", code.description), ("lexer", code.phase == .lexer),
    ("parser", code.phase == .parser), ("type", code.phase == .types),
    ("io", code.phase == .files), ("internal", code.phase == .internal)]

def DiagnosticQueue.outline (queue : DiagnosticQueue) : Outline :=
  .record [("len", queue.size), ("is_empty", queue.size == 0), ("error_count", queue.errorCount),
    ("limit_reached", queue.limitReached), ("has_errors", queue.hasErrors)]

end FrontEnd
