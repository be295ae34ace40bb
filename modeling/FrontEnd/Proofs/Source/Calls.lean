import FrontEnd.Proofs.Source.Store

/-!
Sources over the calls of a registry: files are registered, lexed on demand and looked into, in any
order. Ids count the files, what is known of a file stays, and a path leads to the last file of that
path, until sixteen bits hold no further id. The registry that is stored answers each call as the
one that finds lines with the tokens and paths by a search.
-/

namespace FrontEnd

/-! ### Calls and answers -/

/-- What a registry of sources is asked. -/
inductive SourceCall where
  | add (input : SourceInput)
  /-- Registers what the file system gave for a path, or the reason why it gave nothing. -/
  | load (path : String) (contents : Except String (String × Option Nat))
  | lex (id : SourceId) (lexer : Lexer) (names : Interner)
  | file (id : SourceId)
  | find (path : String)
  | token (id : SourceId) (offset : Nat)
  | locate (id : SourceId) (span : TokenSpan)
  | lineCol (id : SourceId) (span : TokenSpan) (names : Interner)
  | lineText (id : SourceId) (span : TokenSpan) (names : Interner)
  | spanText (id : SourceId) (span : TokenSpan) (names : Interner)

/-- What is seen of a file. -/
structure SourceView where
  id : SourceId
  path : String
  text : String
  modified : Option Nat
  checksum : UInt64
  tokens : Option TokenStream

/-- What a registry of sources answers. -/
inductive SourceAnswer where
  | added (result : Except SourceError SourceId)
  | lexed (result : Except SourceError (Except (List LexError) TokenStream × Interner))
  | file (result : Except SourceError SourceView)
  | found (id : Option SourceId)
  | token (result : Except SourceError Token)
  | located (result : Except SourceError Unit)
  | lineCol (result : Except SourceError (Except ReadError LineCol))
  | text (result : Except SourceError (Except ReadError String))

/-- What is seen of a file that is stored. -/
def StoredFile.view (file : StoredFile) : SourceView :=
  ⟨file.id, file.path, file.text, file.modified, file.checksum, file.tokens⟩

/-- What is seen of a file with its lines found. -/
def SourceFile.view (digest : String → UInt64) (file : SourceFile) : SourceView :=
  ⟨file.id, file.path, file.text, file.modified, digest file.text,
    file.tokens.map LexedText.stream⟩

/-- The answer to one call, and the registry after it. -/
def SourceStore.perform (digest : String → UInt64) (store : SourceStore) :
    SourceCall → SourceAnswer × SourceStore
  | .add input => (store.add digest input).map .added id
  | .load path contents => (store.load digest path contents).map .added id
  | .lex own lexer names =>
    (store.visit own (StoredFile.tokensWith lexer names)).map .lexed id
  | .file own => (.file ((store.file own).map StoredFile.view), store)
  | .find path => (.found (store.findByPath? path), store)
  | .token own offset => (store.visit own (StoredFile.tokenAt own offset)).map .token id
  | .locate own span => (store.visit own (StoredFile.locate span)).map .located id
  | .lineCol own span names =>
    (store.visit own (StoredFile.askLines span (·.lineCol names))).map .lineCol id
  | .lineText own span names =>
    (store.visit own (StoredFile.askLines span (·.lineText names))).map .text id
  | .spanText own span names =>
    (store.visit own (StoredFile.spanText span names)).map .text id

/-- The answer to one call, and the registry after it, where lines are found with the tokens. -/
def SourceRegistry.perform (digest : String → UInt64) (registry : SourceRegistry) :
    SourceCall → SourceAnswer × SourceRegistry
  | .add input => (registry.add input).map .added id
  | .load path contents => (registry.load path contents).map .added id
  | .lex own lexer names => match registry.file own with
    | .error err => (.lexed (.error err), registry)
    | .ok file =>
      let (result, after, names) := registry.lexWith file lexer names
      (.lexed (.ok (result.map LexedText.stream, names)), after)
  | .file own => (.file ((registry.file own).map (SourceFile.view digest)), registry)
  | .find path => (.found (registry.findByPath? path), registry)
  | .token own offset => (.token (registry.tokenOf own offset), registry)
  | .locate own span => (.located ((registry.locate own span).map fun _ => ()), registry)
  | .lineCol own span names =>
    (.lineCol ((registry.locate own span).map (·.lineCol names)), registry)
  | .lineText own span names =>
    (.text ((registry.locate own span).map (·.lineText names)), registry)
  | .spanText own span names =>
    (.text ((registry.locate own span).map (·.text names)), registry)

namespace SourceCall

variable {σ : Type}

/-- The answers to calls one after the other, and the state after them. -/
def run (perform : σ → SourceCall → SourceAnswer × σ) (state : σ) :
    List SourceCall → List SourceAnswer × σ
  | [] => ([], state)
  | call :: rest =>
    let (answer, next) := perform state call
    let (answers, last) := run perform next rest
    (answer :: answers, last)

/-- The ids that were issued. -/
def issued (answers : List SourceAnswer) : List SourceId :=
  answers.filterMap fun
    | .added (.ok id) => some id
    | _ => none

end SourceCall

namespace SourceStore

variable {digest : String → UInt64} {store : SourceStore} {α : Type}

/-! ### One call -/

/-- The stored registry does for a call what the other one does, and stays sound. -/
structure Agrees (digest : String → UInt64) (store : SourceStore)
    (own : SourceAnswer × SourceStore) (other : SourceAnswer × SourceRegistry) : Prop where
  answer : own.1 = other.1
  plain : own.2.plain = other.2
  sound : own.2.Sound digest
  extends_ : Extends store own.2

theorem Sound.agrees_refl (sound : store.Sound digest) (answer : SourceAnswer) :
    Agrees digest store (answer, store) (answer, store.plain) :=
  ⟨rfl, rfl, sound, .refl store⟩

/-- A question that a file answers as one with its lines found is answered so by the registry. -/
theorem Sound.visit (sound : store.Sound digest) (id : SourceId) {steps : FileM α}
    {answer : SourceFile → Except SourceError α} (answers : StoredFile.Answers steps answer)
    (wrap : Except SourceError α → SourceAnswer) :
    Agrees digest store ((store.visit id steps).map wrap fun after => after)
      (wrap (store.plain.file id >>= answer), store.plain) := by
  rw [file_plain]
  cases found : store.file id with
  | error err =>
    rw [visit_of_none found]
    exact sound.agrees_refl _
  | ok file =>
    obtain ⟨same, fills⟩ := answers file (sound.lined id file found)
    obtain ⟨sound', extends_⟩ := sound.grown found fills.grows fills.lined
    rw [visit_of_file found]
    refine ⟨congrArg wrap same, ?_, sound', extends_⟩
    exact congrArg SourceRegistry.mk (map_modify_of_same _ (file_eq_ok_iff.1 found) fills.plain)

theorem Sound.lex (sound : store.Sound digest) (id : SourceId) (lexer : Lexer) (names : Interner) :
    Agrees digest store (store.perform digest (.lex id lexer names))
      (store.plain.perform digest (.lex id lexer names)) := by
  rw [SourceStore.perform, SourceRegistry.perform, file_plain]
  cases found : store.file id with
  | error err =>
    rw [visit_of_none found]
    exact sound.agrees_refl _
  | ok file =>
    have own := sound.id_eq found
    rw [visit_tokensWith found]
    simp only [Except.map, SourceRegistry.lexWith, lexWith_plain]
    cases lexed : file.tokens with
    | some stream =>
      simp only [put_plain file own, grown_self found]
      exact sound.agrees_refl _
    | none =>
      rcases lexer.lex names file.text with ⟨errs | stream, after⟩
      · exact sound.agrees_refl _
      · obtain ⟨grows, lined⟩ := lexed_grows stream (sound.lined id file found) lexed
        obtain ⟨sound', extends_⟩ := sound.grown found grows lined
        exact ⟨rfl, (put_plain { file with tokens := some stream } own).symm, sound', extends_⟩

theorem locate_map (registry : SourceRegistry) (id : SourceId) (span : TokenSpan)
    (question : SourceLocation → α) : (registry.locate id span).map question =
      registry.file id >>= fun file => (SourceLocation.ofSpan file span).map question := by
  rw [SourceRegistry.locate]
  cases registry.file id <;> rfl

/-- Each call does the same to both registries. -/
theorem Sound.perform (sound : store.Sound digest) (call : SourceCall) :
    Agrees digest store (store.perform digest call) (store.plain.perform digest call) := by
  have register (input : SourceInput) : Agrees digest store
      ((store.add digest input).map .added fun after => after)
      ((store.plain.add input).map .added fun after => after) := by
    obtain ⟨sound', extends_⟩ := sound.add input
    obtain ⟨answer, plain⟩ := add_plain digest store input
    exact ⟨congrArg SourceAnswer.added answer, plain, sound', extends_⟩
  cases call with
  | add input => exact register input
  | load path contents =>
    cases contents with
    | error reason => exact sound.agrees_refl _
    | ok given => exact register { path, text := given.1, modified := given.2 }
  | lex id lexer names => exact sound.lex id lexer names
  | file id =>
    rw [SourceStore.perform, SourceRegistry.perform, file_plain]
    cases found : store.file id with
    | error err => exact sound.agrees_refl _
    | ok file =>
      have view : file.view = file.plain.view digest := by
        rw [StoredFile.view, SourceFile.view, sound.digested id file found, StoredFile.plain]
        cases file.tokens <;> rfl
      simp only [Except.map, view]
      exact sound.agrees_refl _
  | find path =>
    rw [SourceStore.perform, SourceRegistry.perform, sound.placed]
    exact sound.agrees_refl _
  | token id offset => exact sound.visit id (StoredFile.answers_tokenAt id offset) .token
  | locate id span =>
    rw [SourceRegistry.perform, locate_map]
    exact sound.visit id (StoredFile.answers_locate span) .located
  | lineCol id span names =>
    rw [SourceRegistry.perform, locate_map]
    exact sound.visit id (StoredFile.answers_askLines span (·.lineCol names)) .lineCol
  | lineText id span names =>
    rw [SourceRegistry.perform, locate_map]
    exact sound.visit id (StoredFile.answers_askLines span (·.lineText names)) .text
  | spanText id span names =>
    rw [SourceRegistry.perform, locate_map]
    exact sound.visit id (StoredFile.answers_spanText span names) .text

/-! ### Calls one after the other -/

theorem run_agrees (sound : store.Sound digest) (calls : List SourceCall) :
    SourceCall.run (SourceRegistry.perform digest) store.plain calls =
        ((SourceCall.run (perform digest) store calls).1,
          (SourceCall.run (perform digest) store calls).2.plain) ∧
      (SourceCall.run (perform digest) store calls).2.Sound digest ∧
      Extends store (SourceCall.run (perform digest) store calls).2 := by
  induction calls generalizing store with
  | nil => exact ⟨rfl, sound, .refl store⟩
  | cons call rest ih =>
    obtain ⟨answer, plain, sound', first⟩ := sound.perform call
    obtain ⟨same, sound'', second⟩ := ih sound'
    refine ⟨?_, sound'', first.trans second⟩
    simp only [SourceCall.run, ← answer, ← plain, same]

theorem size_visit (store : SourceStore) (id : SourceId) (steps : FileM α) :
    (store.visit id steps).2.files.size = store.files.size := by
  cases found : store.file id with
  | error err => rw [visit_of_none found]
  | ok file => rw [visit_of_file found, Array.size_modify]

/-- The ids that were issued so far and the one that a call may get are those of the files. -/
theorem issued_perform (digest : String → UInt64) (store : SourceStore) (call : SourceCall) :
    List.range store.files.size ++
        (SourceCall.issued [(store.perform digest call).1]).map (·.number.val) =
      List.range (store.perform digest call).2.files.size := by
  have register (input : SourceInput) : List.range store.files.size ++
      (SourceCall.issued [.added (store.add digest input).1]).map (·.number.val) =
        List.range (store.add digest input).2.files.size := by
    by_cases room : store.files.size < 65536
    · rw [add_of_room room, Array.size_push, List.range_succ]
      rfl
    · rw [add_of_full (Nat.not_lt.1 room)]
      exact List.append_nil _
  have quiet {after : SourceStore} (size : after.files.size = store.files.size) :
      List.range store.files.size ++ [] = List.range after.files.size := by
    rw [size, List.append_nil]
  cases call with
  | add input => exact register input
  | load path contents =>
    cases contents with
    | error reason => exact quiet rfl
    | ok given => exact register { path, text := given.1, modified := given.2 }
  | file id => exact quiet rfl
  | find path => exact quiet rfl
  | _ => exact quiet (size_visit store _ _)

theorem issued_run (digest : String → UInt64) (store : SourceStore) (calls : List SourceCall) :
    List.range store.files.size ++ (SourceCall.issued
        (SourceCall.run (perform digest) store calls).1).map (·.number.val) =
      List.range (SourceCall.run (perform digest) store calls).2.files.size := by
  induction calls generalizing store with
  | nil => exact List.append_nil _
  | cons call rest ih =>
    have split : SourceCall.issued (SourceCall.run (perform digest) store (call :: rest)).1 =
        SourceCall.issued [(store.perform digest call).1] ++ SourceCall.issued
          (SourceCall.run (perform digest) (store.perform digest call).2 rest).1 :=
      List.filterMap_append (l := [(store.perform digest call).1])
    rw [split, List.map_append, ← List.append_assoc, issued_perform]
    exact ih _

/-- What is known of the files after calls, and of any further calls. -/
structure Keeps (digest : String → UInt64) (past : List SourceAnswer) (store : SourceStore) :
    Prop where
  /-- Ids are issued from zero on. -/
  issued : (SourceCall.issued past).map (·.number.val) = List.range store.files.size
  /-- The files are those of the ids that were issued. -/
  known : ∀ id, id ∈ SourceCall.issued past ↔ ∃ file, store.file id = .ok file
  /-- A registration gets the next id, as long as there is one, and what it gave is found there. -/
  added : ∀ input (room : store.files.size < 65536),
    (store.perform digest (.add input)).1 = .added (.ok ⟨store.files.size, room⟩) ∧
      (store.perform digest (.add input)).2.file ⟨store.files.size, room⟩ =
        .ok (.ofInput digest ⟨store.files.size, room⟩ input)
  few : store.files.size ≤ 65536
  /-- When there is none, every registration fails and changes nothing. -/
  full : store.files.size = 65536 →
    (∀ input, store.perform digest (.add input) = (.added (.error .idsExhausted), store)) ∧
      ∀ path contents, ∃ err,
        store.perform digest (.load path contents) = (.added (.error err), store)
  /-- The path and the text of a file stay, with the digest of the text, and so do its tokens and
  lines once it has them. -/
  stays : ∀ calls id file, store.file id = .ok file →
    file.id = id ∧ file.checksum = digest file.text ∧
      ∃ later, (SourceCall.run (perform digest) store calls).2.file id = .ok later ∧
        later.path = file.path ∧ later.text = file.text ∧ later.modified = file.modified ∧
        later.checksum = file.checksum ∧
        (∀ stream, file.tokens = some stream → later.tokens = some stream) ∧
        ∀ starts, file.lineStarts = some starts → later.lineStarts = some starts
  /-- The lexer is asked only for a file without tokens, and what it gives is kept. One that fails
  changes nothing, so that the file can be lexed later. -/
  lexed : ∀ id file lexer names, store.file id = .ok file →
    store.perform digest (.lex id lexer names) =
      match file.tokens with
      | some stream => (.lexed (.ok (.ok stream, names)), store)
      | none => match lexer.lex names file.text with
        | (.error errs, names) => (.lexed (.ok (.error errs, names)), store)
        | (.ok stream, names) =>
          (.lexed (.ok (.ok stream, names)), store.grown id { file with tokens := some stream })
  /-- The lines that a file keeps are those of its tokens. -/
  lined : ∀ id file starts, store.file id = .ok file → file.lineStarts = some starts →
    ∃ stream, file.tokens = some stream ∧ starts = LexedText.lineStartsOf stream
  /-- A path leads to the greatest id of a file whose path has the same components. -/
  found : ∀ path id, store.findByPath? path = some id ↔
    (∃ file, store.file id = .ok file ∧ Path.components file.path = Path.components path) ∧
      ∀ other file, store.file other = .ok file →
        Path.components file.path = Path.components path → other.number ≤ id.number
  /-- It leads nowhere if there is none. -/
  absent : ∀ path, store.findByPath? path = none ↔
    ∀ id file, store.file id = .ok file → Path.components file.path ≠ Path.components path

/-- Whatever is asked of a registry, its files keep their ids, paths, texts, tokens and lines, its
paths lead to the last files, and it is full with 65536 of them. The registry that finds lines with
the tokens and paths by a search gives the same answers. -/
theorem keeps_calls (digest : String → UInt64) (calls : List SourceCall) :
    Keeps digest (SourceCall.run (perform digest) {} calls).1
        (SourceCall.run (perform digest) {} calls).2 ∧
      SourceCall.run (SourceRegistry.perform digest) {} calls =
        ((SourceCall.run (perform digest) {} calls).1,
          (SourceCall.run (perform digest) {} calls).2.plain) := by
  obtain ⟨same, sound, -⟩ := run_agrees (sound_empty digest) calls
  have start : plain {} = {} := congrArg SourceRegistry.mk Array.map_empty
  rw [start] at same
  have issued : List.range 0 ++ _ = _ := issued_run digest {} calls
  refine ⟨?_, same⟩
  generalize SourceCall.run (perform digest) {} calls = ran at sound issued ⊢
  obtain ⟨past, store⟩ := ran
  rw [List.range_zero, List.nil_append] at issued
  constructor
  case issued => exact issued
  case known =>
    intro id
    have member : id ∈ SourceCall.issued past ↔ id.number.val < store.files.size := by
      rw [← List.mem_range, ← issued, List.mem_map]
      constructor
      · exact fun member => ⟨id, member, rfl⟩
      · rintro ⟨other, member, same⟩
        exact SourceId.eq_iff_val.2 same ▸ member
    rw [member]
    constructor
    · exact fun inside => ⟨_, file_eq_ok_iff.2 (Array.getElem?_eq_getElem inside)⟩
    · exact fun ⟨_, found⟩ => lt_size found
  case added =>
    intro input room
    refine ⟨?_, (file_add room input).2 (.inl ⟨rfl, rfl⟩)⟩
    rw [perform, add_of_room room]
    rfl
  case few => exact size_le sound
  case full =>
    intro full
    refine ⟨fun input => ?_, fun path contents => ?_⟩
    · rw [perform, add_of_full (Nat.le_of_eq full.symm)]
      rfl
    · cases contents with
      | error reason => exact ⟨_, rfl⟩
      | ok given =>
        rw [perform, load, add_of_full (Nat.le_of_eq full.symm)]
        exact ⟨_, rfl⟩
  case stays =>
    intro later_calls id file found
    obtain ⟨-, -, extends_⟩ := run_agrees sound later_calls
    obtain ⟨later, found', grows⟩ := extends_ id file found
    refine ⟨sound.id_eq found, sound.digested id file found, later, found', ?_⟩
    rw [grows.same]
    exact ⟨rfl, rfl, rfl, rfl, grows.tokens, grows.lineStarts⟩
  case lexed =>
    intro id file lexer names found
    rw [perform, visit_tokensWith found]
    cases file.tokens with
    | some stream => rfl
    | none => rcases lexer.lex names file.text with ⟨errs | stream, after⟩ <;> rfl
  case lined => exact fun id file starts found => sound.lined id file found starts
  case found => exact fun path id => sound.findByPath?_eq_some
  case absent => exact fun path => sound.findByPath?_eq_none

end SourceStore

end FrontEnd
