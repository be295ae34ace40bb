import FrontEnd.Token.Kind

/-!
Operators: what unary and binary items apply and what types may define, with the tokens that
spell them.
-/

namespace FrontEnd

/-- The operators: of one operand, of two, and those that assign. -/
inductive Operator where
  | neg | not | bitNot | deref | addressOf | preIncrement | preDecrement | postIncrement
  | postDecrement
  | add | sub | mul | div | rem | bitAnd | bitOr | bitXor | shl | shr | and | or | eq | notEq
  | lt | ltEq | gt | gtEq
  | assign | addAssign | subAssign | mulAssign | divAssign | remAssign | bitAndAssign
  | bitOrAssign | bitXorAssign | shlAssign | shrAssign
  deriving DecidableEq, Inhabited

namespace Operator

/-- Every operator. -/
def all : List Operator :=
  [.neg, .not, .bitNot, .deref, .addressOf, .preIncrement, .preDecrement, .postIncrement,
   .postDecrement, .add, .sub, .mul, .div, .rem, .bitAnd, .bitOr, .bitXor, .shl, .shr, .and, .or,
   .eq, .notEq, .lt, .ltEq, .gt, .gtEq, .assign, .addAssign, .subAssign, .mulAssign, .divAssign,
   .remAssign, .bitAndAssign, .bitOrAssign, .bitXorAssign, .shlAssign, .shrAssign]

/-- The name of an operator. -/
def label : Operator → String
  | .neg => "Neg" | .not => "Not" | .bitNot => "BitNot" | .deref => "Deref"
  | .addressOf => "AddressOf" | .preIncrement => "PreIncrement" | .preDecrement => "PreDecrement"
  | .postIncrement => "PostIncrement" | .postDecrement => "PostDecrement" | .add => "Add"
  | .sub => "Sub" | .mul => "Mul" | .div => "Div" | .rem => "Rem" | .bitAnd => "BitAnd"
  | .bitOr => "BitOr" | .bitXor => "BitXor" | .shl => "Shl" | .shr => "Shr" | .and => "And"
  | .or => "Or" | .eq => "Eq" | .notEq => "NotEq" | .lt => "Lt" | .ltEq => "LtEq" | .gt => "Gt"
  | .gtEq => "GtEq" | .assign => "Assign" | .addAssign => "AddAssign" | .subAssign => "SubAssign"
  | .mulAssign => "MulAssign" | .divAssign => "DivAssign" | .remAssign => "RemAssign"
  | .bitAndAssign => "BitAndAssign" | .bitOrAssign => "BitOrAssign"
  | .bitXorAssign => "BitXorAssign" | .shlAssign => "ShlAssign" | .shrAssign => "ShrAssign"

/-- The operator with a given name. -/
def ofLabel? (label : String) : Option Operator :=
  all.find? fun op => op.label == label

/-- Operators that change an operand: increments, decrements and assignments. -/
def isMutating : Operator → Bool
  | .preIncrement | .preDecrement | .postIncrement | .postDecrement | .assign | .addAssign
  | .subAssign | .mulAssign | .divAssign | .remAssign | .bitAndAssign | .bitOrAssign
  | .bitXorAssign | .shlAssign | .shrAssign => true
  | _ => false

/-- Operators of one operand. -/
def isUnary : Operator → Bool
  | .neg | .not | .bitNot | .deref | .addressOf | .preIncrement | .preDecrement | .postIncrement
  | .postDecrement => true
  | _ => false

/-- The operator that a token spells between two operands. -/
def binary? : TokenKind → Option Operator
  | .plus => some .add | .minus => some .sub | .star => some .mul | .slash => some .div
  | .percent => some .rem | .amp => some .bitAnd | .pipe => some .bitOr | .caret => some .bitXor
  | .shl => some .shl | .shr => some .shr | .andAnd => some .and | .orOr => some .or
  | .eqEq => some .eq | .notEq => some .notEq | .lt => some .lt | .ltEq => some .ltEq
  | .gt => some .gt | .gtEq => some .gtEq | .assign => some .assign
  | .plusAssign => some .addAssign | .minusAssign => some .subAssign
  | .starAssign => some .mulAssign | .slashAssign => some .divAssign
  | .percentAssign => some .remAssign | .ampAssign => some .bitAndAssign
  | .pipeAssign => some .bitOrAssign | .caretAssign => some .bitXorAssign
  | .shlAssign => some .shlAssign | .shrAssign => some .shrAssign
  | _ => none

/-- The operator that a token spells before its one operand. -/
def leading? : TokenKind → Option Operator
  | .minus => some .neg | .bang => some .not | .tilde => some .bitNot | .star => some .deref
  | .amp => some .addressOf | .plusPlus => some .preIncrement | .minusMinus => some .preDecrement
  | _ => none

end Operator

end FrontEnd
