import FrontEnd.Source.Location
import FrontEnd.Item.Locator

/-!
The registry of sources. Files get the ids 0, 1, 2, … in the order of registration and are never
taken out; 65536 of them fill it.
-/

namespace FrontEnd

/-- The registered files by id. -/
structure SourceRegistry where
  files : Array SourceFile := #[]

namespace SourceRegistry

def size (registry : SourceRegistry) : Nat := registry.files.size

/-- The id that the next file gets. -/
def nextId (registry : SourceRegistry) : Except SourceError SourceId :=
  match SourceId.ofNat? registry.size with
  | some id => .ok id
  | none => .error .idsExhausted

/-- Puts a file behind all others. -/
def push (registry : SourceRegistry) (file : SourceFile) : SourceRegistry :=
  ⟨registry.files.push file⟩

/-- Registers a file under the next id, if there is one. -/
def add (registry : SourceRegistry) (input : SourceInput) :
    Except SourceError SourceId × SourceRegistry :=
  match registry.nextId with
  | .ok id => (.ok id, registry.push (.ofInput id input))
  | .error err => (.error err, registry)

/-- Registers what the file system gave for a path, or the reason why it gave nothing. -/
def load (registry : SourceRegistry) (path : String)
    (contents : Except String (String × Option Nat)) :
    Except SourceError SourceId × SourceRegistry :=
  match contents with
  | .ok (text, modified) => registry.add { path, text, modified }
  | .error reason => (.error (.unreadable path reason), registry)

/-- The file of an id. -/
def file (registry : SourceRegistry) (id : SourceId) : Except SourceError SourceFile :=
  match registry.files[id.number.val]? with
  | some file => .ok file
  | none => .error (.unknownSource id)

/-- The last registered file of a path. -/
def findByPath? (registry : SourceRegistry) (path : String) : Option SourceId :=
  (registry.files.toList.reverse.find? fun file => Path.same file.path path).map SourceFile.id

/-- The registry with the file of the same id replaced. -/
def put (registry : SourceRegistry) (file : SourceFile) : SourceRegistry :=
  ⟨registry.files.modify file.id.number.val fun _ => file⟩

/-- Lexes a file unless it has its tokens. -/
def lexWith (registry : SourceRegistry) (file : SourceFile) (lexer : Lexer) (names : Interner) :
    Except (List LexError) LexedText × SourceRegistry × Interner :=
  match file.lexWith lexer names with
  | (.ok (tokens, file), names) => (.ok tokens, registry.put file, names)
  | (.error errs, names) => (.error errs, registry, names)

/-- The token that starts at an offset of a source. -/
def tokenOf (registry : SourceRegistry) (id : SourceId) (offset : Nat) :
    Except SourceError Token := do
  let file ← registry.file id
  let tokens ← file.requireTokens
  if offset ≥ tokens.stream.endOffset then throw (.outside id offset)
  file.requireTokenStart tokens offset
  match tokens.stream.tokenAt offset with
  | .ok token => return token
  | .error cause => throw (.read (.refused cause))

/-- The location of a span in a source. -/
def locate (registry : SourceRegistry) (id : SourceId) (span : TokenSpan) :
    Except SourceError SourceLocation := do
  SourceLocation.ofSpan (← registry.file id) span

/-- The location of the first token of an item. -/
def locateItem (registry : SourceRegistry) (locator : ItemLocator) :
    Except SourceError SourceLocation :=
  registry.locate locator.source (.point locator.offset.val)

/-- A registry as dumps show it. -/
def dump (registry : SourceRegistry) : String :=
  s!"SourceRegistry \x7b files: {registry.size} \x7d"

end SourceRegistry

end FrontEnd
