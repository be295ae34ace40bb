import FrontEnd.Token.Basic
import FrontEnd.Token.Span

/-!
Token streams: the tokens of one source, written one after the other and closed by one end mark.
A stream is checked as a whole when it is taken from bytes, so that reading on from the start of
one token always finds the next. Reading from any other offset may meet bytes that are no token.
-/

namespace FrontEnd

/-- The bytes of the tokens of one source, the end mark included, and the number of tokens, the
end mark not included. -/
structure TokenStream where
  bytes : Array UInt8
  size : Nat
  deriving DecidableEq

/-- Tokens that are written one by one. -/
structure TokenBuffer where
  bytes : Array UInt8 := #[]
  size : Nat := 0

/-- Why the tokens of a span are not given. -/
inductive ReadError where
  /-- The span does not start in the stream. -/
  | refused (cause : TokenError)
  /-- Reading met bytes that are no token, because the span starts inside of one. -/
  | corrupt (cause : TokenError)
  deriving DecidableEq

instance : Fault ReadError where
  label
    | .refused cause => Fault.label cause
    | .corrupt _ => "Corrupt"
  message
    | .refused cause => Fault.message cause
    | .corrupt cause => "corrupt token stream: " ++ Fault.message cause
  isMisuse
    | .refused _ => false
    | .corrupt _ => true

/-- A kind that a buffer cannot write in the way asked for. -/
inductive PushError where
  /-- The kind needs a payload. -/
  | carriesPayload (kind : TokenKind)
  /-- The text of the kind is not interned. -/
  | withoutText (kind : TokenKind)
  deriving DecidableEq

instance : Fault PushError where
  label
    | .carriesPayload _ => "CarriesPayload"
    | .withoutText _ => "WithoutText"
  message
    | .carriesPayload kind => s!"{kind.label} tokens carry a payload"
    | .withoutText kind => s!"{kind.label} tokens do not carry interned text"
  isMisuse _ := true

namespace TokenBuffer

/-- The offset that the next token gets. -/
def offset (buffer : TokenBuffer) : Nat := buffer.bytes.size

/-- Writes a token and gives its offset. The end mark is left to `finish`. -/
def push (buffer : TokenBuffer) (token : Token) : Nat × TokenBuffer :=
  if token.isEnd then (buffer.offset, buffer)
  else (buffer.offset, ⟨buffer.bytes ++ token.encode, buffer.size + 1⟩)

/-- Writes a token of a kind without payload. -/
def pushPlain (buffer : TokenBuffer) (kind : TokenKind) :
    Except PushError (Nat × TokenBuffer) :=
  match Token.plain? kind with
  | some token => .ok (buffer.push token)
  | none => .error (.carriesPayload kind)

/-- Writes a token whose text is interned. -/
def pushNamed (buffer : TokenBuffer) (kind : TokenKind) (name : Name) :
    Except PushError (Nat × TokenBuffer) :=
  match Token.named? kind name with
  | some token => .ok (buffer.push token)
  | none => .error (.withoutText kind)

/-- Closes the stream. -/
def finish (buffer : TokenBuffer) : TokenStream :=
  ⟨buffer.bytes ++ Token.endOfStream.encode, buffer.size⟩

end TokenBuffer

/-- A place in a stream from which tokens are read: the offset of the next token, and how many
more are wanted if not all. -/
structure TokenCursor where
  offset : Nat
  wanted : Option Nat := none

namespace TokenCursor

/-- Reads the next token and moves behind it. Nothing is read, and the cursor stays, once as many
tokens as wanted are read or the end mark is next. -/
def next (cursor : TokenCursor) (bytes : Array UInt8) :
    Except TokenError (Option (Nat × Token) × TokenCursor) :=
  if cursor.wanted = some 0 then .ok (none, cursor)
  else match Token.decode bytes cursor.offset with
    | .error err => .error err
    | .ok token =>
      if token.isEnd then .ok (none, cursor)
      else .ok (some (cursor.offset, token),
        ⟨cursor.offset + token.size, cursor.wanted.map (· - 1)⟩)

end TokenCursor

namespace TokenStream

/-- The tokens with their offsets from an offset up to the end mark, or to the first bytes that
are no token. -/
def readAll (bytes : Array UInt8) (offset : Nat) : Except TokenError (List (Nat × Token)) :=
  match read : Token.decode bytes offset with
  | .error err => .error err
  | .ok token =>
    if token.isEnd then .ok []
    else
      have := Token.lt_size_of_decode read
      have := token.size_pos
      (readAll bytes (offset + token.size)).map ((offset, token) :: ·)
termination_by bytes.size - offset

/-- The first tokens, `count` at most, from an offset on. -/
def readSome (bytes : Array UInt8) (offset : Nat) :
    (count : Nat) → Except TokenError (List (Nat × Token))
  | 0 => .ok []
  | count + 1 => match Token.decode bytes offset with
    | .error err => .error err
    | .ok token =>
      if token.isEnd then .ok []
      else (readSome bytes (offset + token.size) count).map ((offset, token) :: ·)

/-- Counts the tokens up to the end mark and gives the offset behind it. -/
def scan (bytes : Array UInt8) (offset count : Nat) : Except TokenError (Nat × Nat) :=
  if offset ≥ bytes.size then .error .unterminated
  else match read : Token.decode bytes offset with
    | .error err => .error err
    | .ok token =>
      have := Token.lt_size_of_decode read
      have := token.size_pos
      if token.isEnd then .ok (count, offset + token.size)
      else scan bytes (offset + token.size) (count + 1)
termination_by bytes.size - offset

/-- Takes bytes as a stream if they are tokens, then one end mark, then nothing. -/
def ofBytes (bytes : Array UInt8) : Except TokenError TokenStream :=
  if bytes.size > TokenSpan.maxStart + 1 then .error .tooLarge
  else match scan bytes 0 0 with
    | .error err => .error err
    | .ok (count, stop) =>
      if stop = bytes.size then .ok ⟨bytes, count⟩ else .error (.trailing (bytes.size - stop))

/-- The stream without tokens. -/
def empty : TokenStream := TokenBuffer.finish {}

instance : Inhabited TokenStream := ⟨empty⟩

def isEmpty (stream : TokenStream) : Bool := stream.size == 0

/-- The offset of the end mark. -/
def endOffset (stream : TokenStream) : Nat := stream.bytes.size - 1

/-- Reads whatever stands at an offset. -/
def tokenAt (stream : TokenStream) (offset : Nat) : Except TokenError Token :=
  Token.decode stream.bytes offset

/-- The tokens of a span with their offsets. A count that leads past the end stops there. -/
def tokensIn (stream : TokenStream) (span : TokenSpan) :
    Except ReadError (List (Nat × Token)) :=
  if span.start > stream.endOffset then
    .error (.refused (.outside span.start stream.bytes.size))
  else (readSome stream.bytes span.start span.count).mapError .corrupt

/-- All tokens with their offsets. -/
def tokens (stream : TokenStream) : Except ReadError (List (Nat × Token)) :=
  (readAll stream.bytes 0).mapError .corrupt

/-- The text that tokens write. -/
def textOf (names : Interner) (tokens : List (Nat × Token)) : String :=
  String.join (tokens.map fun entry => entry.2.text names)

/-- The source text of a span. -/
def spanText (stream : TokenStream) (names : Interner) (span : TokenSpan) :
    Except ReadError String :=
  (stream.tokensIn span).map (textOf names)

/-- The whole source text. -/
def render (stream : TokenStream) (names : Interner) : Except ReadError String :=
  stream.tokens.map (textOf names)

/-- All tokens on one line as dumps show them. -/
def dumpTokens (stream : TokenStream) : Except ReadError String :=
  stream.tokens.map fun tokens => " ".intercalate (tokens.map fun entry => entry.2.dump)

/-- A stream as dumps show it. -/
def dump (stream : TokenStream) : String :=
  s!"TokenStream \x7b tokens: {stream.size}, bytes: {stream.bytes.size} \x7d"

end TokenStream

end FrontEnd
