import FrontEnd.Source.Id
import FrontEnd.Source.Path
import FrontEnd.Text.Quoted
import FrontEnd.Token.Stream

/-!
Source files. A file has its text from the start and gets its tokens once, either at registration
or when a lexer is first asked; the starts of its lines are found with the tokens. Only offsets at
which a token starts can be addressed.
-/

namespace FrontEnd

/-- A fault that a lexer reports at a byte of the text. -/
structure LexError where
  offset : Nat
  text : String
  /-- A literal or comment without an end, as opposed to a stray character. -/
  unterminated : Bool
  deriving DecidableEq

/-- The wording of a lexer's fault. -/
def LexError.message (err : LexError) : String := s!"{err.text} (byte {err.offset})"

/-- What turns a text into tokens. It may intern names while it does. -/
structure Lexer where
  lex : Interner → String → Except (List LexError) TokenStream × Interner

/-- Why a source, or a place in it, is not given. -/
inductive SourceError where
  /-- The file system does not give the contents. -/
  | unreadable (path reason : String)
  /-- All ids are taken. -/
  | idsExhausted
  | unknownSource (id : SourceId)
  /-- The file has no tokens yet. -/
  | notLexed (id : SourceId)
  /-- The offset lies behind the tokens. -/
  | outside (id : SourceId) (offset : Nat)
  /-- No token starts at the offset. -/
  | notTokenStart (id : SourceId) (offset : Nat)
  | read (cause : ReadError)
  deriving DecidableEq

instance : Fault SourceError where
  label
    | .unreadable .. => "Io"
    | .idsExhausted => "IdSpaceExhausted"
    | .unknownSource _ => "UnknownSource"
    | .notLexed _ => "NotLexed"
    | .outside .. => "OffsetOutOfBounds"
    | .notTokenStart .. => "NotATokenStart"
    | .read _ => "Stream"
  message
    | .unreadable path reason => s!"cannot read {path}: {reason}"
    | .idsExhausted => "source id space exhausted (65536 files)"
    | .unknownSource id => s!"unknown {id.dump}"
    | .notLexed id => s!"{id.dump} has not been lexed"
    | .outside id offset => s!"offset {offset} is outside the tokens of {id.dump}"
    | .notTokenStart id offset => s!"offset {offset} is not the start of a token in {id.dump}"
    | .read cause => Fault.message cause
  isMisuse
    | .read cause => Fault.isMisuse cause
    | _ => false

/-- The tokens of a text and the offsets at which its lines start. -/
structure LexedText where
  stream : TokenStream
  lineStarts : List Nat
  deriving DecidableEq

namespace LexedText

/-- The starts of lines: the first token, and what follows each newline. -/
def lineStartsOf (stream : TokenStream) : List Nat :=
  let tokens := stream.tokens.toOption.getD []
  0 :: tokens.filterMap fun (offset, token) =>
    if token.kind = .newline then some (offset + token.size) else none

/-- Finds the lines of a stream. -/
def ofStream (stream : TokenStream) : LexedText := ⟨stream, lineStartsOf stream⟩

/-- How many lines start behind the first one at or before an offset. -/
def lineIndex (text : LexedText) (offset : Nat) : Nat :=
  text.lineStarts.countP (· ≤ offset) - 1

/-- The start of the line that holds an offset. -/
def lineStart (text : LexedText) (offset : Nat) : Nat :=
  text.lineStarts[text.lineIndex offset]?.getD 0

/-- The tokens from an offset to the end. -/
def tokensFrom (text : LexedText) (offset : Nat) : Except ReadError (List (Nat × Token)) :=
  text.stream.tokensIn ⟨offset, UInt32.size - 1⟩

/-- Whether an offset is that of a token or of the end mark. Reading starts with the line, so that
it meets whole tokens only. -/
def startsToken (text : LexedText) (offset : Nat) : Except ReadError Bool :=
  if offset = text.stream.endOffset then .ok true
  else (text.tokensFrom (text.lineStart offset)).map fun tokens =>
    (tokens.find? fun entry => entry.1 ≥ offset).map Prod.fst == some offset

end LexedText

/-- What is known of a file at registration. -/
structure SourceInput where
  path : String
  text : String
  /-- Seconds since 1970. -/
  modified : Option Nat := none
  tokens : Option TokenStream := none

/-- A registered file. -/
structure SourceFile where
  id : SourceId
  path : String
  text : String
  modified : Option Nat
  tokens : Option LexedText

/-- A 64-bit digest of a text, by which changed contents are told apart. -/
def contentChecksum (text : String) : UInt64 :=
  text.toUTF8.toList.foldl (fun sum byte => (sum ^^^ byte.toUInt64) * 1099511628211)
    14695981039346656037

namespace SourceFile

/-- The file that an input registers under an id. -/
def ofInput (id : SourceId) (input : SourceInput) : SourceFile :=
  { id, path := input.path, text := input.text, modified := input.modified,
    tokens := input.tokens.map .ofStream }

def checksum (file : SourceFile) : UInt64 := contentChecksum file.text

/-- The tokens of a file that has been lexed. -/
def requireTokens (file : SourceFile) : Except SourceError LexedText :=
  match file.tokens with
  | some tokens => .ok tokens
  | none => .error (.notLexed file.id)

/-- Refuses offsets at which no token starts. -/
def requireTokenStart (file : SourceFile) (tokens : LexedText) (offset : Nat) :
    Except SourceError Unit :=
  match tokens.startsToken offset with
  | .error cause => .error (.read cause)
  | .ok true => .ok ()
  | .ok false => .error (.notTokenStart file.id offset)

/-- The file with its tokens, asking the lexer only if there are none yet. A lexer that fails
leaves the file as it was. -/
def lexWith (file : SourceFile) (lexer : Lexer) (names : Interner) :
    Except (List LexError) (LexedText × SourceFile) × Interner :=
  match file.tokens with
  | some tokens => (.ok (tokens, file), names)
  | none => match lexer.lex names file.text with
    | (.error errs, names) => (.error errs, names)
    | (.ok stream, names) =>
      let tokens := LexedText.ofStream stream
      (.ok (tokens, { file with tokens := some tokens }), names)

/-- A file as dumps show it. -/
def dump (file : SourceFile) : String :=
  s!"SourceFile \x7b id: {file.id.dump}, path: {Text.quoted file.path}, " ++
    s!"len: {file.text.utf8ByteSize}, lexed: {file.tokens.isSome} \x7d"

end SourceFile

end FrontEnd
