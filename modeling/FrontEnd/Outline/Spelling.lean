import FrontEnd.Outline.Basic
import FrontEnd.Spelling.Reader

/-!
Outlines of spellings.
-/

namespace FrontEnd

def SpelledLength.outline : SpelledLength → Outline
  | .literal length => .wide length
  | .parameter name => .record [("param", name)]

mutual

def Spelling.outline : Spelling → Outline
  | .named name => .list ["named", name, .absent]
  | .applied name arguments => .list ["named", name, .list (Spelling.outlines arguments)]
  | .pointer target => .list ["ptr", target.outline]
  | .slice element => .list ["slice", element.outline]
  | .array element length => .list ["array", element.outline, length.outline]
  | .qualified base quals => .list ["qual", base.outline, quals.text]

def SpelledArgument.outline : SpelledArgument → Outline
  | .type spelling => .list ["type", spelling.outline]
  | .int value => .list ["int", .wide value]
  | .bool value => .list ["bool", value]

/-- The outlines of arguments. -/
def Spelling.outlines : List SpelledArgument → List Outline
  | [] => []
  | argument :: rest => argument.outline :: Spelling.outlines rest

end

def SpellingError.outline (err : SpellingError) : Outline :=
  .record [("error", .text (Fault.label err)), ("offset", err.offset),
    ("expected", err.expected.text), ("message", .text (Fault.message err))]

/-- What reading a text gives. -/
def Spelling.readOutline (text : String) : Outline :=
  match ofText text with
  | .ok spelling => spelling.outline
  | .error err => err.outline

end FrontEnd
