import FrontEnd.Source.Registry
import Std.Data.HashMap

/-!
The registry of sources as it is stored. A table leads from a path to the last file of that path.
A file keeps its tokens apart from the starts of its lines, which are found when a place in the file
is first asked for; both are written once. Texts are told apart by a digest that is made when the
file is registered.
-/

namespace FrontEnd

/-- A path as a key. Keys are compared by the components of their paths. -/
structure PathKey where
  path : String

namespace PathKey

instance : BEq PathKey := ⟨fun first second => Path.same first.path second.path⟩

instance : Hashable PathKey := ⟨fun key => hash (Path.components key.path)⟩

theorem beq_iff {first second : PathKey} :
    (first == second) = true ↔ Path.components first.path = Path.components second.path := by
  change (Path.components first.path == Path.components second.path) = true ↔ _
  exact beq_iff_eq

instance : EquivBEq PathKey where
  rfl := beq_iff.2 rfl
  symm same := beq_iff.2 (beq_iff.1 same).symm
  trans same same' := beq_iff.2 ((beq_iff.1 same).trans (beq_iff.1 same'))

instance : LawfulHashable PathKey where
  hash_eq _ _ same :=
    congrArg (fun components : List PathComponent => hash components) (beq_iff.1 same)

end PathKey

/-- A file as it is stored. -/
structure StoredFile where
  id : SourceId
  path : String
  text : String
  modified : Option Nat
  checksum : UInt64
  tokens : Option TokenStream
  /-- The offsets at which lines start, once they are known. -/
  lineStarts : Option (List Nat) := none

/-- Steps that may look something up in a file and keep what they found. -/
abbrev FileM := ExceptT SourceError (StateM StoredFile)

namespace StoredFile

/-- The file that an input registers under an id. -/
def ofInput (digest : String → UInt64) (id : SourceId) (input : SourceInput) : StoredFile where
  id := id
  path := input.path
  text := input.text
  modified := input.modified
  checksum := digest input.text
  tokens := input.tokens

/-- The file with its lines found. -/
def plain (file : StoredFile) : SourceFile where
  id := file.id
  path := file.path
  text := file.text
  modified := file.modified
  tokens := file.tokens.map .ofStream

/-- The tokens, for which the lexer is asked if there are none yet. -/
def tokensWith (lexer : Lexer) (names : Interner) :
    FileM (Except (List LexError) TokenStream × Interner) := do
  match (← get).tokens with
  | some stream => return (.ok stream, names)
  | none => match lexer.lex names (← get).text with
    | (.error errs, names) => return (.error errs, names)
    | (.ok stream, names) =>
      modify fun file => { file with tokens := file.tokens.or (some stream) }
      return (.ok stream, names)

/-- The tokens of a file that has been lexed. -/
def requireTokens : FileM TokenStream := do
  match (← get).tokens with
  | some stream => return stream
  | none => throw (.notLexed (← get).id)

/-- The starts of the lines, which are found in the tokens if they are not known yet. -/
def lines : FileM (List Nat) := do
  match (← get).lineStarts with
  | some starts => return starts
  | none =>
    let starts := LexedText.lineStartsOf (← requireTokens)
    modify fun file => { file with lineStarts := file.lineStarts.or (some starts) }
    return starts

/-- Refuses offsets at which no token starts. The lines are not needed for that of the end mark. -/
def requireTokenStart (offset : Nat) : FileM Unit := do
  let stream ← requireTokens
  if offset = stream.endOffset then return
  let starts ← lines
  liftM ((← get).plain.requireTokenStart ⟨stream, starts⟩ offset)

/-- The token that starts at an offset of the file, which is that of the id. -/
def tokenAt (id : SourceId) (offset : Nat) : FileM Token := do
  let stream ← requireTokens
  if offset ≥ stream.endOffset then throw (.outside id offset)
  else
    requireTokenStart offset
    liftM ((stream.tokenAt offset).mapError fun cause => SourceError.read (.refused cause))

/-- Refuses spans that do not start at a token. An empty span may also start at the end mark. -/
def locate (span : TokenSpan) : FileM Unit := do
  let stop := (← requireTokens).endOffset
  let inside := if span.isEmpty then span.start ≤ stop else span.start < stop
  if inside then requireTokenStart span.start
  else throw (.outside (← get).id span.start)

/-- What is asked of a location, for which the starts of the lines are needed. -/
def askLines (span : TokenSpan) (question : SourceLocation → α) : FileM α := do
  locate span
  let stream ← requireTokens
  let starts ← lines
  return question ⟨(← get).plain, ⟨stream, starts⟩, span⟩

/-- The source text of a span. -/
def spanText (span : TokenSpan) (names : Interner) : FileM (Except ReadError String) := do
  locate span
  return (← requireTokens).spanText names span

end StoredFile

/-- The stored files by id, and the last id of each path. -/
structure SourceStore where
  files : Array StoredFile := #[]
  byPath : Std.HashMap PathKey SourceId := {}

namespace SourceStore

/-- Registers a file under the next id, if there is one. -/
def add (digest : String → UInt64) (store : SourceStore) (input : SourceInput) :
    Except SourceError SourceId × SourceStore :=
  match SourceId.ofNat? store.files.size with
  | none => (.error .idsExhausted, store)
  | some id =>
    (.ok id, {
      files := store.files.push (.ofInput digest id input)
      byPath := store.byPath.insert ⟨input.path⟩ id })

/-- Registers what the file system gave for a path, or the reason why it gave nothing. -/
def load (digest : String → UInt64) (store : SourceStore) (path : String)
    (contents : Except String (String × Option Nat)) :
    Except SourceError SourceId × SourceStore :=
  match contents with
  | .ok (text, modified) => store.add digest { path, text, modified }
  | .error reason => (.error (.unreadable path reason), store)

/-- The file of an id. -/
def file (store : SourceStore) (id : SourceId) : Except SourceError StoredFile :=
  match store.files[id.number.val]? with
  | some file => .ok file
  | none => .error (.unknownSource id)

/-- The last registered file of a path. -/
def findByPath? (store : SourceStore) (path : String) : Option SourceId :=
  store.byPath[PathKey.mk path]?

/-- Takes steps in the file of an id. -/
def visit (store : SourceStore) (id : SourceId) (steps : FileM α) :
    Except SourceError α × SourceStore :=
  match store.file id with
  | .error err => (.error err, store)
  | .ok file =>
    let (result, after) := steps.run.run file
    (result, { store with files := store.files.modify id.number.val fun _ => after })

/-- The registry that finds lines with the tokens, and a path by a search. -/
def plain (store : SourceStore) : SourceRegistry := ⟨store.files.map StoredFile.plain⟩

end SourceStore

end FrontEnd
