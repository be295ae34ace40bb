import FrontEnd.Name.Basic

/-!
Kinds of token. A kind is written as one byte; the bytes that follow it are fixed by the kind's
payload class, so a reader never needs a side table to find the next token. The main statements
say that `byte` and `ofByte?` are inverse to each other.
-/

namespace FrontEnd

/-- What follows the kind byte of a token. -/
inductive PayloadClass where
  /-- Nothing: the kind byte is the whole token. -/
  | none
  /-- One byte: a depth of indentation or the length of a run of spaces. -/
  | count
  /-- Two bytes, the low one first: an interned name. -/
  | name
  deriving DecidableEq, Inhabited

namespace PayloadClass

/-- How many bytes follow the kind byte. -/
def width : PayloadClass → Nat
  | .none => 0
  | .count => 1
  | .name => 2

/-- The name under which tools show the class. -/
def label : PayloadClass → String
  | .none => "None"
  | .count => "Count"
  | .name => "Name"

end PayloadClass

/-- The kinds of token. `endOfStream` is the mark that closes every stream. -/
inductive TokenKind where
  | endOfStream | newline | indent | whitespace | identifier | intLiteral | floatLiteral
  | stringLiteral | charLiteral | comment | docComment | kwIf | kwThen | kwElse | kwFor | kwWhile
  | kwDo | kwUntil | kwBreak | kwContinue | kwGoto | kwSwitch | kwCase | kwDefault | kwReturn
  | kwYield | kwTry | kwUse | kwImport | kwVar | kwFunc | kwMethod | kwClass | kwInterface
  | kwStruct | kwUnion | kwEnum | kwType | kwTemplate | kwConst | kwVolatile | kwSafe | kwMutable
  | kwTrue | kwFalse | kwNull | kwIn | lParen | rParen | lBracket | rBracket | lBrace | rBrace
  | comma | semicolon | colon | dot | arrow | question | at | ellipsis | assign | eqEq | notEq
  | lt | ltEq | gt | gtEq | plus | minus | star | slash | percent | amp | pipe | caret | tilde
  | bang | andAnd | orOr | shl | shr | plusPlus | minusMinus | plusAssign | minusAssign
  | starAssign | slashAssign | percentAssign | ampAssign | pipeAssign | caretAssign | shlAssign
  | shrAssign
  deriving DecidableEq, Inhabited, Hashable

namespace TokenKind

/-- Every kind, in the order of the bytes. -/
def all : List TokenKind :=
  [.endOfStream, .newline, .indent, .whitespace, .identifier, .intLiteral, .floatLiteral,
   .stringLiteral, .charLiteral, .comment, .docComment, .kwIf, .kwThen, .kwElse, .kwFor,
   .kwWhile, .kwDo, .kwUntil, .kwBreak, .kwContinue, .kwGoto, .kwSwitch, .kwCase, .kwDefault,
   .kwReturn, .kwYield, .kwTry, .kwUse, .kwImport, .kwVar, .kwFunc, .kwMethod, .kwClass,
   .kwInterface, .kwStruct, .kwUnion, .kwEnum, .kwType, .kwTemplate, .kwConst, .kwVolatile,
   .kwSafe, .kwMutable, .kwTrue, .kwFalse, .kwNull, .kwIn, .lParen, .rParen, .lBracket,
   .rBracket, .lBrace, .rBrace, .comma, .semicolon, .colon, .dot, .arrow, .question, .at,
   .ellipsis, .assign, .eqEq, .notEq, .lt, .ltEq, .gt, .gtEq, .plus, .minus, .star, .slash,
   .percent, .amp, .pipe, .caret, .tilde, .bang, .andAnd, .orOr, .shl, .shr, .plusPlus,
   .minusMinus, .plusAssign, .minusAssign, .starAssign, .slashAssign, .percentAssign, .ampAssign,
   .pipeAssign, .caretAssign, .shlAssign, .shrAssign]

/-- The byte that stands for a kind. Separators come first, then kinds with interned text from 8,
keywords from 32, and punctuation and operators from 96. -/
def byte : TokenKind → UInt8
  | .endOfStream => 0 | .newline => 1 | .indent => 2 | .whitespace => 3 | .identifier => 8
  | .intLiteral => 9 | .floatLiteral => 10 | .stringLiteral => 11 | .charLiteral => 12
  | .comment => 13 | .docComment => 14 | .kwIf => 32 | .kwThen => 33 | .kwElse => 34
  | .kwFor => 35 | .kwWhile => 36 | .kwDo => 37 | .kwUntil => 38 | .kwBreak => 39
  | .kwContinue => 40 | .kwGoto => 41 | .kwSwitch => 42 | .kwCase => 43 | .kwDefault => 44
  | .kwReturn => 45 | .kwYield => 46 | .kwTry => 47 | .kwUse => 48 | .kwImport => 49
  | .kwVar => 50 | .kwFunc => 51 | .kwMethod => 52 | .kwClass => 53 | .kwInterface => 54
  | .kwStruct => 55 | .kwUnion => 56 | .kwEnum => 57 | .kwType => 58 | .kwTemplate => 59
  | .kwConst => 60 | .kwVolatile => 61 | .kwSafe => 62 | .kwMutable => 63 | .kwTrue => 64
  | .kwFalse => 65 | .kwNull => 66 | .kwIn => 67 | .lParen => 96 | .rParen => 97
  | .lBracket => 98 | .rBracket => 99 | .lBrace => 100 | .rBrace => 101 | .comma => 102
  | .semicolon => 103 | .colon => 104 | .dot => 105 | .arrow => 106 | .question => 107
  | .at => 108 | .ellipsis => 109 | .assign => 110 | .eqEq => 111 | .notEq => 112 | .lt => 113
  | .ltEq => 114 | .gt => 115 | .gtEq => 116 | .plus => 117 | .minus => 118 | .star => 119
  | .slash => 120 | .percent => 121 | .amp => 122 | .pipe => 123 | .caret => 124 | .tilde => 125
  | .bang => 126 | .andAnd => 127 | .orOr => 128 | .shl => 129 | .shr => 130 | .plusPlus => 131
  | .minusMinus => 132 | .plusAssign => 133 | .minusAssign => 134 | .starAssign => 135
  | .slashAssign => 136 | .percentAssign => 137 | .ampAssign => 138 | .pipeAssign => 139
  | .caretAssign => 140 | .shlAssign => 141 | .shrAssign => 142

/-- The kind that a byte stands for, if any does. -/
def ofByte? (byte : UInt8) : Option TokenKind :=
  all.find? fun kind => kind.byte == byte

/-- The name of a kind in dumps and messages. -/
def label : TokenKind → String
  | .endOfStream => "None" | .newline => "Newline" | .indent => "Indent"
  | .whitespace => "Whitespace" | .identifier => "Identifier" | .intLiteral => "IntLiteral"
  | .floatLiteral => "FloatLiteral" | .stringLiteral => "StringLiteral"
  | .charLiteral => "CharLiteral" | .comment => "Comment" | .docComment => "DocComment"
  | .kwIf => "KwIf" | .kwThen => "KwThen" | .kwElse => "KwElse" | .kwFor => "KwFor"
  | .kwWhile => "KwWhile" | .kwDo => "KwDo" | .kwUntil => "KwUntil" | .kwBreak => "KwBreak"
  | .kwContinue => "KwContinue" | .kwGoto => "KwGoto" | .kwSwitch => "KwSwitch"
  | .kwCase => "KwCase" | .kwDefault => "KwDefault" | .kwReturn => "KwReturn"
  | .kwYield => "KwYield" | .kwTry => "KwTry" | .kwUse => "KwUse" | .kwImport => "KwImport"
  | .kwVar => "KwVar" | .kwFunc => "KwFunc" | .kwMethod => "KwMethod" | .kwClass => "KwClass"
  | .kwInterface => "KwInterface" | .kwStruct => "KwStruct" | .kwUnion => "KwUnion"
  | .kwEnum => "KwEnum" | .kwType => "KwType" | .kwTemplate => "KwTemplate"
  | .kwConst => "KwConst" | .kwVolatile => "KwVolatile" | .kwSafe => "KwSafe"
  | .kwMutable => "KwMutable" | .kwTrue => "KwTrue" | .kwFalse => "KwFalse" | .kwNull => "KwNull"
  | .kwIn => "KwIn" | .lParen => "LParen" | .rParen => "RParen" | .lBracket => "LBracket"
  | .rBracket => "RBracket" | .lBrace => "LBrace" | .rBrace => "RBrace" | .comma => "Comma"
  | .semicolon => "Semicolon" | .colon => "Colon" | .dot => "Dot" | .arrow => "Arrow"
  | .question => "Question" | .at => "At" | .ellipsis => "Ellipsis" | .assign => "Assign"
  | .eqEq => "EqEq" | .notEq => "NotEq" | .lt => "Lt" | .ltEq => "LtEq" | .gt => "Gt"
  | .gtEq => "GtEq" | .plus => "Plus" | .minus => "Minus" | .star => "Star" | .slash => "Slash"
  | .percent => "Percent" | .amp => "Amp" | .pipe => "Pipe" | .caret => "Caret"
  | .tilde => "Tilde" | .bang => "Bang" | .andAnd => "AndAnd" | .orOr => "OrOr" | .shl => "Shl"
  | .shr => "Shr" | .plusPlus => "PlusPlus" | .minusMinus => "MinusMinus"
  | .plusAssign => "PlusAssign" | .minusAssign => "MinusAssign" | .starAssign => "StarAssign"
  | .slashAssign => "SlashAssign" | .percentAssign => "PercentAssign" | .ampAssign => "AmpAssign"
  | .pipeAssign => "PipeAssign" | .caretAssign => "CaretAssign" | .shlAssign => "ShlAssign"
  | .shrAssign => "ShrAssign"

/-- The source text of the kinds that have only one: keywords, punctuation and the newline. -/
def fixedText? : TokenKind → Option String
  | .newline => some "\n" | .kwIf => some "if" | .kwThen => some "then" | .kwElse => some "else"
  | .kwFor => some "for" | .kwWhile => some "while" | .kwDo => some "do"
  | .kwUntil => some "until" | .kwBreak => some "break" | .kwContinue => some "continue"
  | .kwGoto => some "goto" | .kwSwitch => some "switch" | .kwCase => some "case"
  | .kwDefault => some "default" | .kwReturn => some "return" | .kwYield => some "yield"
  | .kwTry => some "try" | .kwUse => some "use" | .kwImport => some "import"
  | .kwVar => some "var" | .kwFunc => some "func" | .kwMethod => some "method"
  | .kwClass => some "class" | .kwInterface => some "interface" | .kwStruct => some "struct"
  | .kwUnion => some "union" | .kwEnum => some "enum" | .kwType => some "type"
  | .kwTemplate => some "template" | .kwConst => some "const" | .kwVolatile => some "volatile"
  | .kwSafe => some "safe" | .kwMutable => some "mutable" | .kwTrue => some "true"
  | .kwFalse => some "false" | .kwNull => some "null" | .kwIn => some "in" | .lParen => some "("
  | .rParen => some ")" | .lBracket => some "[" | .rBracket => some "]" | .lBrace => some "\x7b"
  | .rBrace => some "\x7d" | .comma => some "," | .semicolon => some ";" | .colon => some ":"
  | .dot => some "." | .arrow => some "->" | .question => some "?" | .at => some "@"
  | .ellipsis => some "..." | .assign => some "=" | .eqEq => some "==" | .notEq => some "!="
  | .lt => some "<" | .ltEq => some "<=" | .gt => some ">" | .gtEq => some ">="
  | .plus => some "+" | .minus => some "-" | .star => some "*" | .slash => some "/"
  | .percent => some "%" | .amp => some "&" | .pipe => some "|" | .caret => some "^"
  | .tilde => some "~" | .bang => some "!" | .andAnd => some "&&" | .orOr => some "||"
  | .shl => some "<<" | .shr => some ">>" | .plusPlus => some "++" | .minusMinus => some "--"
  | .plusAssign => some "+=" | .minusAssign => some "-=" | .starAssign => some "*="
  | .slashAssign => some "/=" | .percentAssign => some "%=" | .ampAssign => some "&="
  | .pipeAssign => some "|=" | .caretAssign => some "^=" | .shlAssign => some "<<="
  | .shrAssign => some ">>="
  | _ => none

/-- How the bytes after the kind byte are read. -/
def payload : TokenKind → PayloadClass
  | .indent | .whitespace => .count
  | .identifier | .intLiteral | .floatLiteral | .stringLiteral | .charLiteral | .comment
  | .docComment => .name
  | _ => .none

/-- How many bytes a token of this kind takes in a stream. -/
def size (kind : TokenKind) : Nat := 1 + kind.payload.width

/-- Keywords take the bytes 32 to 79. -/
def isKeyword (kind : TokenKind) : Bool := 32 ≤ kind.byte && kind.byte < 80

/-- Separators and comments, which no declaration depends on. -/
def isTrivia : TokenKind → Bool
  | .newline | .indent | .whitespace | .comment | .docComment => true
  | _ => false

/-- Kinds that spell a value out. -/
def isLiteral : TokenKind → Bool
  | .intLiteral | .floatLiteral | .stringLiteral | .charLiteral | .kwTrue | .kwFalse
  | .kwNull => true
  | _ => false

/-- The kind as a message names it: its text between backquotes if it has only one. -/
def describe (kind : TokenKind) : String :=
  match kind with
  | .newline => "newline"
  | _ => match kind.fixedText? with
    | some text => "`" ++ text ++ "`"
    | none => kind.label

/-- The kind with a given name. -/
def ofLabel? (label : String) : Option TokenKind :=
  all.find? fun kind => kind.label == label

@[simp] theorem ofByte?_byte (kind : TokenKind) : ofByte? kind.byte = some kind := by
  cases kind <;> rfl

theorem byte_of_ofByte? {byte : UInt8} {kind : TokenKind} (found : ofByte? byte = some kind) :
    kind.byte = byte := by
  simpa using List.find?_some found

theorem ofByte?_eq_some_iff {byte : UInt8} {kind : TokenKind} :
    ofByte? byte = some kind ↔ kind.byte = byte :=
  ⟨byte_of_ofByte?, fun same => same ▸ ofByte?_byte kind⟩

theorem size_pos (kind : TokenKind) : 0 < kind.size :=
  Nat.lt_of_lt_of_le Nat.one_pos (Nat.le_add_right ..)

end TokenKind

end FrontEnd
