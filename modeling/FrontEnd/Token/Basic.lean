import FrontEnd.Text.Integer
import FrontEnd.Token.Kind
import FrontEnd.Name.Interner

/-!
Tokens and their bytes. A token is a kind with the payload that its kind asks for; its encoding is
the kind byte followed by the payload. Reading back what was written gives the same token.
-/

namespace FrontEnd

/-- What a token carries beside its kind. -/
inductive TokenPayload where
  | none
  | count (value : UInt8)
  | name (value : Name)
  deriving DecidableEq, Inhabited

namespace TokenPayload

/-- The class that the payload belongs to. -/
def shape : TokenPayload → PayloadClass
  | .none => .none
  | .count _ => .count
  | .name _ => .name

/-- The bytes of a payload, the low byte of a name first. -/
def bytes : TokenPayload → List UInt8
  | .none => []
  | .count value => [value]
  | .name value => [value.raw.toUInt8, (value.raw >>> 8).toUInt8]

end TokenPayload

/-- A kind with a payload of the class that the kind asks for. -/
structure Token where
  kind : TokenKind
  payload : TokenPayload
  fits : payload.shape = kind.payload
  deriving DecidableEq

/-- Why bytes are not a token stream, or an offset does not lie in one. -/
inductive TokenError where
  /-- No kind has this byte. -/
  | unknownKind (offset : Nat) (byte : UInt8)
  /-- The bytes end inside a token. -/
  | truncated (offset : Nat) (kind : TokenKind)
  /-- The bytes end without the closing mark. -/
  | unterminated
  /-- Bytes follow the closing mark. -/
  | trailing (count : Nat)
  /-- The offset lies behind the last byte. -/
  | outside (offset size : Nat)
  /-- The offsets do not fit in forty bits. -/
  | tooLarge
  deriving DecidableEq

instance : Fault TokenError where
  label
    | .unknownKind .. => "UnknownKind"
    | .truncated .. => "Truncated"
    | .unterminated => "MissingSentinel"
    | .trailing _ => "TrailingBytes"
    | .outside .. => "OffsetOutOfBounds"
    | .tooLarge => "TooLarge"
  message
    | .unknownKind offset byte =>
      s!"unknown token kind byte {Text.hexByte byte} at offset {offset}"
    | .truncated offset kind => s!"truncated {kind.label} token at offset {offset}"
    | .unterminated => "token stream is not terminated by the end sentinel"
    | .trailing count => s!"{count} trailing bytes after the end sentinel"
    | .outside offset size => s!"offset {offset} is outside the token stream ({size} bytes)"
    | .tooLarge => "token stream exceeds the 40-bit offset range"

namespace Token

/-- The mark that closes every stream. -/
def endOfStream : Token := ⟨.endOfStream, .none, rfl⟩

/-- A token of a kind without payload. -/
def plain? (kind : TokenKind) : Option Token :=
  if fits : TokenPayload.shape .none = kind.payload then some ⟨kind, .none, fits⟩ else none

/-- Indentation of a given depth. -/
def indent (depth : UInt8) : Token := ⟨.indent, .count depth, rfl⟩

/-- A run of spaces. -/
def whitespace (length : UInt8) : Token := ⟨.whitespace, .count length, rfl⟩

/-- A token of a kind whose text is interned. -/
def named? (kind : TokenKind) (name : Name) : Option Token :=
  if fits : TokenPayload.shape (.name name) = kind.payload then some ⟨kind, .name name, fits⟩
  else none

/-- How many bytes the token takes. -/
def size (token : Token) : Nat := token.kind.size

/-- The depth or length that the token carries. -/
def count? (token : Token) : Option UInt8 :=
  match token.payload with
  | .count value => some value
  | _ => none

/-- The name that the token carries. -/
def name? (token : Token) : Option Name :=
  match token.payload with
  | .name value => some value
  | _ => none

def isEnd (token : Token) : Bool := token.kind == .endOfStream

/-- The source text of a token. A level of indentation is four spaces, and a name that the table
does not hold is shown by the replacement character. -/
def text (names : Interner) (token : Token) : String :=
  match token.kind.fixedText? with
  | some text => text
  | none => match token.payload with
    | .none => ""
    | .count value =>
      let width := if token.kind = .indent then 4 else 1
      String.ofList (List.replicate (value.toNat * width) ' ')
    | .name value => names.textOf value

/-- A token as dumps show it: its kind, with the payload in brackets. -/
def dump (token : Token) : String :=
  match token.payload with
  | .none => token.kind.label
  | .count value => s!"{token.kind.label}({value})"
  | .name value => s!"{token.kind.label}({value.dump})"

/-- The bytes of a token. -/
def encode (token : Token) : List UInt8 := token.kind.byte :: token.payload.bytes

/-- Reads the payload of the given class at an offset. -/
def decodePayload? (bytes : Array UInt8) (offset : Nat) :
    (shape : PayloadClass) → Option { payload : TokenPayload // payload.shape = shape }
  | .none => some ⟨.none, rfl⟩
  | .count => do
    let value ← bytes[offset]?
    return ⟨.count value, rfl⟩
  | .name => do
    let low ← bytes[offset]?
    let high ← bytes[offset + 1]?
    return ⟨.name (.ofRaw (low.toUInt16 ||| (high.toUInt16 <<< 8))), rfl⟩

/-- Reads the token that starts at an offset. -/
def decode (bytes : Array UInt8) (offset : Nat) : Except TokenError Token :=
  match bytes[offset]? with
  | none => .error (.outside offset bytes.size)
  | some byte => match TokenKind.ofByte? byte with
    | none => .error (.unknownKind offset byte)
    | some kind => match decodePayload? bytes (offset + 1) kind.payload with
      | none => .error (.truncated offset kind)
      | some payload => .ok ⟨kind, payload.val, payload.property⟩

theorem size_pos (token : Token) : 0 < token.size := token.kind.size_pos

theorem length_encode (token : Token) : token.encode.length = token.size := by
  obtain ⟨kind, payload, fits⟩ := token
  cases payload <;>
    simp_all [encode, size, TokenKind.size, TokenPayload.bytes, TokenPayload.shape, ← fits,
      PayloadClass.width]

/-- A token that was read started at a byte of the buffer. -/
theorem lt_size_of_decode {bytes : Array UInt8} {offset : Nat} {token : Token}
    (read : decode bytes offset = .ok token) : offset < bytes.size := by
  unfold decode at read
  split at read
  · cases read
  · rename_i present
    exact (Array.getElem?_eq_some_iff.1 present).1

end Token

end FrontEnd
