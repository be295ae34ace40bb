/-!
Codes of diagnostics. A code says what went wrong and, by its first digit, in which phase.
-/

namespace FrontEnd

/-- What part of the front end finds an error. -/
inductive ErrorPhase where
  | lexer | parser | types | files | internal
  deriving DecidableEq

/-- What went wrong. -/
inductive ErrorCode where
  | unterminated | strayCharacter | unexpectedToken | memberNotFound | ambiguousCall
  | noMatchingOverload | recursionLimit | argumentCount | argumentSort | unknownType
  | duplicateDefinition | unresolvedImport | importCycle | incompleteType | infiniteType
  | unreadableSource | invalidCast | outsideSource | tooManyErrors | tableExhausted
  deriving DecidableEq, Inhabited

namespace ErrorCode

/-- Every code, in the order of the texts. -/
def all : List ErrorCode :=
  [.unterminated, .strayCharacter, .unexpectedToken, .memberNotFound, .ambiguousCall,
   .noMatchingOverload, .recursionLimit, .argumentCount, .argumentSort, .unknownType,
   .duplicateDefinition, .unresolvedImport, .importCycle, .incompleteType, .infiniteType,
   .unreadableSource, .invalidCast, .outsideSource, .tooManyErrors, .tableExhausted]

/-- The text of a code. -/
def label : ErrorCode → String
  | .unterminated => "E0001" | .strayCharacter => "E0002" | .unexpectedToken => "E1001"
  | .memberNotFound => "E2001" | .ambiguousCall => "E2002" | .noMatchingOverload => "E2003"
  | .recursionLimit => "E2004" | .argumentCount => "E2005" | .argumentSort => "E2006"
  | .unknownType => "E2007" | .duplicateDefinition => "E2008" | .unresolvedImport => "E2009"
  | .importCycle => "E2010" | .incompleteType => "E2011" | .infiniteType => "E2012"
  | .unreadableSource => "E3001" | .invalidCast => "E9001" | .outsideSource => "E9002"
  | .tooManyErrors => "E9003" | .tableExhausted => "E9004"

/-- What a code means. -/
def description : ErrorCode → String
  | .unterminated => "unterminated literal or comment"
  | .strayCharacter => "invalid character in source"
  | .unexpectedToken => "unexpected token"
  | .memberNotFound => "member not found"
  | .ambiguousCall => "ambiguous call"
  | .noMatchingOverload => "no matching overload"
  | .recursionLimit => "template recursion limit exceeded"
  | .argumentCount => "wrong number of template arguments"
  | .argumentSort => "template argument of the wrong kind"
  | .unknownType => "unknown type name"
  | .duplicateDefinition => "duplicate definition"
  | .unresolvedImport => "unresolved import"
  | .importCycle => "import cycle"
  | .incompleteType => "incomplete type"
  | .infiniteType => "type contains itself by value"
  | .unreadableSource => "cannot read source file"
  | .invalidCast => "invalid item cast"
  | .outsideSource => "locator outside its source"
  | .tooManyErrors => "too many errors"
  | .tableExhausted => "internal table exhausted"

/-- The phase that finds errors of a code. -/
def phase : ErrorCode → ErrorPhase
  | .unterminated | .strayCharacter => .lexer
  | .unexpectedToken => .parser
  | .memberNotFound | .ambiguousCall | .noMatchingOverload | .recursionLimit | .argumentCount
  | .argumentSort | .unknownType | .duplicateDefinition | .unresolvedImport | .importCycle
  | .incompleteType | .infiniteType => .types
  | .unreadableSource => .files
  | .invalidCast | .outsideSource | .tooManyErrors | .tableExhausted => .internal

/-- The code with a given text. -/
def ofLabel? (label : String) : Option ErrorCode :=
  all.find? fun code => code.label == label

end ErrorCode

end FrontEnd
