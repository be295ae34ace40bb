import FrontEnd.Fault
import FrontEnd.Typing.Qualifiers

/-!
Type spellings: types as declarations write them, before any name in them is looked up.
-/

namespace FrontEnd

/-- The length of an array as it is spelled. -/
inductive SpelledLength where
  | literal (length : Nat)
  /-- The value of a template parameter. -/
  | parameter (name : String)
  deriving DecidableEq

mutual

/-- A type as it is spelled. -/
inductive Spelling where
  /-- A name without angle brackets. -/
  | named (name : String)
  /-- A name with arguments in angle brackets, of which there may be none. -/
  | applied (name : String) (arguments : List SpelledArgument)
  | pointer (target : Spelling)
  | slice (element : Spelling)
  | array (element : Spelling) (length : SpelledLength)
  | qualified (base : Spelling) (quals : Qualifiers)

/-- A template argument as it is spelled. -/
inductive SpelledArgument where
  | type (spelling : Spelling)
  | int (value : Int)
  | bool (value : Bool)

end

instance : Inhabited Spelling := ⟨.named ""⟩

instance : Inhabited SpelledArgument := ⟨.bool false⟩

/-- What a spelling was expected to go on with. -/
inductive Expectation where
  | type
  /-- The end of a slice, or the length of an array. -/
  | sliceEnd
  | arrayLength
  | arrayEnd
  /-- A further argument, or the end of the arguments. -/
  | argumentsEnd
  | endOfType
  /-- A type without dots before it. -/
  | plainType
  deriving DecidableEq

/-- The words for what was expected. -/
def Expectation.text : Expectation → String
  | .type => "type"
  | .sliceEnd => "`;` or `]`"
  | .arrayLength => "array length"
  | .arrayEnd => "`]`"
  | .argumentsEnd => "`,` or `>`"
  | .endOfType => "end of type"
  | .plainType => "a type (only the last parameter may be variadic)"

/-- A text that spells no type: the byte at which something else was expected. -/
structure SpellingError where
  offset : Nat
  expected : Expectation
  deriving DecidableEq

instance : Fault SpellingError where
  label _ := "SpellingError"
  message err := s!"expected {err.expected.text} at column {err.offset + 1}"

end FrontEnd
