import FrontEnd.Diagnostic.Basic
import FrontEnd.Source.Registry
import FrontEnd.Text.Blank

/-!
The text of diagnostics for a terminal. A label whose span is found in its source is shown by path,
line and column, with the line itself below it unless that is blank.
-/

namespace FrontEnd

/-- When colours are written. -/
inductive ColorMode where
  /-- If the output is a terminal. -/
  | auto
  | always
  | never
  deriving DecidableEq, Inhabited

/-- The mode of a word. -/
def ColorMode.ofLabel? : String → Option ColorMode
  | "auto" => some .auto
  | "always" => some .always
  | "never" => some .never
  | _ => none

/-- Whether colours are written to an output, which may be a terminal. -/
def ColorMode.usesColors (mode : ColorMode) (terminal : Bool) : Bool :=
  match mode with
  | .auto => terminal
  | .always => true
  | .never => false

/-- What the text of a diagnostic depends on. -/
structure Renderer where
  colors : Bool := false
  /-- Where labels are looked up, if anywhere. -/
  sources : Option (SourceRegistry × Interner) := none

namespace Renderer

/-- The escape sequence of a bold colour. -/
def bold (color : String) : String := "\x1b[1" ++ color ++ "m"

def errorColor : String := bold ";31"

def warningColor : String := bold ";33"

def noteColor : String := bold ";36"

def helpColor : String := bold ";32"

def secondaryColor : String := bold ";34"

def severityColor : Severity → String
  | .error => errorColor
  | .warning => warningColor
  | .note => noteColor
  | .help => helpColor

/-- A text in a colour, if colours are written. -/
def paint (renderer : Renderer) (color text : String) : String :=
  if renderer.colors then color ++ text ++ "\x1b[0m" else text

/-- Where a label points to, if it is found in a source, with the line on which it starts. -/
def locate? (renderer : Renderer) (label : Label) : Option (String × String) := do
  let (sources, names) ← renderer.sources
  let place ← (sources.locate label.source label.span).toOption
  let lineCol ← (place.lineCol names).toOption
  let line ← (place.lineText names).toOption
  return (place.file.path ++ ":" ++ lineCol.describe, line)

/-- The lines of a label. -/
def label (renderer : Renderer) (label : Label) : String :=
  let marker := if label.isPrimary then "-->" else "   "
  let color := if label.isPrimary then errorColor else secondaryColor
  let located := renderer.locate? label
  let place := match located with
    | some (place, _) => place
    | none => label.source.dump ++ label.span.dump
  let quoted := match located with
    | some (_, line) => if Text.isBlankText line then "" else "   | " ++ line ++ "\n"
    | none => ""
  "  " ++ marker ++ " " ++ place ++ ": " ++ renderer.paint color label.message ++ "\n" ++ quoted

/-- A line behind the labels. -/
def trailer (renderer : Renderer) (color word text : String) : String :=
  "  = " ++ renderer.paint color word ++ ": " ++ text ++ "\n"

/-- The text of a diagnostic, a blank line behind it included. -/
def diagnostic (renderer : Renderer) (diag : Diagnostic) : String :=
  renderer.paint (severityColor diag.severity) diag.severity.label ++
    renderer.paint (bold "") ("[" ++ diag.code.label ++ "]") ++ ": " ++ diag.message ++ "\n" ++
    String.join (diag.labels.map renderer.label) ++
    String.join (diag.notes.map (renderer.trailer (bold "") "note")) ++
    String.join (diag.suggestions.map (renderer.trailer helpColor "help")) ++ "\n"

def diagnostics (renderer : Renderer) (diags : List Diagnostic) : String :=
  String.join (diags.map renderer.diagnostic)

/-- A count of warnings. -/
def warnings (count : Nat) : String :=
  s!"{count} warning" ++ (if count = 1 then "" else "s") ++ " emitted"

/-- The line that closes a run. -/
def summary (renderer : Renderer) (errorCount warningCount : Nat) : String :=
  if errorCount > 0 then
    let errors := if errorCount = 1 then "previous error" else s!"{errorCount} previous errors"
    let more := if warningCount > 0 then "; " ++ warnings warningCount else ""
    renderer.paint errorColor "error" ++ ": aborting due to " ++ errors ++ more ++ "\n"
  else if warningCount > 0 then
    renderer.paint warningColor "warning" ++ ": " ++ warnings warningCount ++ "\n"
  else ""

end Renderer

end FrontEnd
