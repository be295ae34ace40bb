import FrontEnd.Proofs.Outcome
import FrontEnd.Source.Store

/-!
Files that find their lines when they are asked for. Every question that is put to such a file is
answered as by one whose lines were found with its tokens, and leaves the file as it is but for the
lines. The lines that it keeps are always those of its tokens.
-/

namespace FrontEnd

namespace StoredFile

variable {file before middle after : StoredFile} {stream : TokenStream} {names : Interner}
  {lexer : Lexer} {α β : Type}

/-- The lines that a file keeps are those of its tokens. -/
def Lined (file : StoredFile) : Prop :=
  ∀ starts, file.lineStarts = some starts →
    ∃ stream, file.tokens = some stream ∧ starts = LexedText.lineStartsOf stream

/-- A file later on: tokens and lines may have come up, and nothing else has changed. -/
structure Grows (before after : StoredFile) : Prop where
  same : after = { before with tokens := after.tokens, lineStarts := after.lineStarts }
  tokens : ∀ stream, before.tokens = some stream → after.tokens = some stream
  lineStarts : ∀ starts, before.lineStarts = some starts → after.lineStarts = some starts

theorem Grows.refl (file : StoredFile) : Grows file file :=
  ⟨rfl, fun _ known => known, fun _ known => known⟩

theorem Grows.trans (first : Grows before middle) (second : Grows middle after) :
    Grows before after where
  same := by
    rw [second.same, first.same]
  tokens stream known := second.tokens stream (first.tokens stream known)
  lineStarts starts known := second.lineStarts starts (first.lineStarts starts known)

/-- Nothing has come up but lines, which are those of the tokens. -/
structure Fills (before after : StoredFile) : Prop where
  grows : Grows before after
  tokens : after.tokens = before.tokens
  lined : after.Lined

theorem Fills.refl (lined : file.Lined) : Fills file file := ⟨.refl file, rfl, lined⟩

theorem Fills.trans (first : Fills before middle) (second : Fills middle after) :
    Fills before after where
  grows := first.grows.trans second.grows
  tokens := second.tokens.trans first.tokens
  lined := second.lined

theorem Fills.plain (fills : Fills before after) : after.plain = before.plain := by
  rw [fills.grows.same, StoredFile.plain, StoredFile.plain, fills.tokens]

/-! ### Questions -/

/-- Steps answer what a file with its lines found would, and find nothing but lines. -/
def Answers (steps : FileM α) (answer : SourceFile → Except SourceError α) : Prop :=
  ∀ file : StoredFile, file.Lined →
    (outcome steps file).1 = answer file.plain ∧ Fills file (outcome steps file).2

variable {steps : FileM α} {answer : SourceFile → Except SourceError α}

theorem Answers.congr {same : SourceFile → Except SourceError α} (answers : Answers steps answer)
    (equal : ∀ file, answer file = same file) : Answers steps same :=
  (funext equal : answer = same) ▸ answers

theorem Answers.pure (value : α) : Answers (pure value) fun _ => .ok value :=
  fun _ lined => ⟨rfl, .refl lined⟩

theorem Answers.throw (err : SourceError) : Answers (throw err : FileM α) fun _ => .error err :=
  fun _ lined => ⟨rfl, .refl lined⟩

theorem Answers.ite {other : FileM α} {answer_other : SourceFile → Except SourceError α}
    {holds : Prop} [Decidable holds] (first : Answers steps answer)
    (second : Answers other answer_other) :
    Answers (if holds then steps else other) fun file =>
      if holds then answer file else answer_other file := by
  split
  · exact first
  · exact second

/-- What a file with its lines found is asked. -/
theorem Answers.ofPlain (question : SourceFile → Except SourceError α) :
    Answers (do liftM (question (← get).plain)) question := by
  intro file lined
  rw [outcome_get_bind, outcome_lift]
  exact ⟨rfl, .refl lined⟩

/-- Questions one after the other are put to one and the same file. -/
theorem Answers.bind {rest : α → FileM β} {answer_rest : α → SourceFile → Except SourceError β}
    (first : Answers steps answer) (second : ∀ value, Answers (rest value) (answer_rest value)) :
    Answers (steps >>= rest) fun file => answer file >>= fun value => answer_rest value file := by
  intro file lined
  obtain ⟨same, fills⟩ := first file lined
  change _ = (answer file.plain >>= fun value => answer_rest value file.plain) ∧ _
  rw [outcome_bind, ← same]
  rcases ran : outcome steps file with ⟨err | value, after⟩ <;> rw [ran] at fills
  · exact ⟨rfl, fills⟩
  · obtain ⟨same', fills'⟩ := second value after fills.lined
    exact ⟨fills.plain ▸ same', fills.trans fills'⟩

theorem outcome_requireTokens (file : StoredFile) : outcome requireTokens file =
    (match file.tokens with
      | some stream => .ok stream
      | none => .error (.notLexed file.id), file) := by
  obtain ⟨_, _, _, _, _, tokens, _⟩ := file
  cases tokens <;> rfl

theorem requireTokens_plain (file : StoredFile) : file.plain.requireTokens =
    match file.tokens with
    | some stream => .ok (.ofStream stream)
    | none => .error (.notLexed file.id) := by
  obtain ⟨_, _, _, _, _, tokens, _⟩ := file
  cases tokens <;> rfl

theorem answers_requireTokens :
    Answers requireTokens fun file => file.requireTokens.map LexedText.stream := by
  intro file lined
  change _ = file.plain.requireTokens.map LexedText.stream ∧ _
  rw [outcome_requireTokens, requireTokens_plain]
  cases file.tokens <;> exact ⟨rfl, .refl lined⟩

theorem answers_lines : Answers lines fun file => file.requireTokens.map LexedText.lineStarts := by
  intro file lined
  change _ = file.plain.requireTokens.map LexedText.lineStarts ∧ _
  rw [lines, outcome_get_bind, requireTokens_plain]
  cases known : file.lineStarts with
  | some starts =>
    obtain ⟨stream, lexed, rfl⟩ := lined starts known
    rw [lexed]
    exact ⟨rfl, .refl lined⟩
  | none =>
    rw [outcome_bind, outcome_requireTokens]
    cases lexed : file.tokens with
    | none => exact ⟨rfl, .refl lined⟩
    | some stream =>
      refine ⟨rfl, ⟨rfl, fun _ there => there, fun _ early => ?_⟩, rfl, fun starts found => ?_⟩
      · rw [known] at early
        cases early
      · change file.lineStarts.or _ = some starts at found
        rw [known] at found
        cases found
        exact ⟨stream, lexed, rfl⟩

theorem answers_requireTokenStart (offset : Nat) : Answers (requireTokenStart offset) fun file =>
    file.requireTokens >>= fun tokens => file.requireTokenStart tokens offset := by
  unfold requireTokenStart
  refine (answers_requireTokens.bind fun stream => .ite (.pure ()) (answers_lines.bind fun starts =>
    .ofPlain fun file => file.requireTokenStart ⟨stream, starts⟩ offset)).congr fun file => ?_
  cases lexed : file.requireTokens with
  | error err => rfl
  | ok tokens =>
    simp only [Except.map, bind, Except.bind]
    split
    · rename_i last
      have accepted : tokens.startsToken offset = .ok true := if_pos last
      rw [SourceFile.requireTokenStart, accepted]
    · rfl

/-- What a result becomes does not depend on the file. -/
theorem Answers.lift (result : Except SourceError α) : Answers (liftM result) fun _ => result := by
  intro file lined
  rw [outcome_lift]
  exact ⟨rfl, .refl lined⟩

/-- What a registry is asked of a token, once the file is found. -/
def plainToken (id : SourceId) (offset : Nat) (file : SourceFile) : Except SourceError Token := do
  let tokens ← file.requireTokens
  if offset ≥ tokens.stream.endOffset then throw (.outside id offset)
  file.requireTokenStart tokens offset
  match tokens.stream.tokenAt offset with
  | .ok token => return token
  | .error cause => throw (.read (.refused cause))

theorem answers_tokenAt (id : SourceId) (offset : Nat) :
    Answers (tokenAt id offset) (plainToken id offset) := by
  unfold tokenAt
  refine (answers_requireTokens.bind fun stream => .ite (.throw _)
    ((answers_requireTokenStart offset).bind fun _ => .lift _)).congr fun file => ?_
  unfold plainToken
  cases lexed : file.requireTokens with
  | error err => rfl
  | ok tokens =>
    by_cases beyond : offset ≥ tokens.stream.endOffset
    · simp [Except.map, bind, Except.bind, beyond, throw, throwThe, MonadExceptOf.throw]
    · simp only [Except.map, bind, Except.bind, beyond, if_false]
      cases file.requireTokenStart tokens offset with
      | error err => rfl
      | ok _ => cases tokens.stream.tokenAt offset <;> rfl

theorem ofSpan_ok {file : SourceFile} {span : TokenSpan} {place : SourceLocation}
    (given : SourceLocation.ofSpan file span = .ok place) :
    ∃ tokens, file.requireTokens = .ok tokens ∧ place = ⟨file, tokens, span⟩ := by
  unfold SourceLocation.ofSpan at given
  obtain ⟨tokens, lexed, given⟩ := bind_eq_ok given
  refine ⟨tokens, lexed, ?_⟩
  dsimp only at given
  by_cases inside : if span.isEmpty then span.start ≤ tokens.stream.endOffset
      else span.start < tokens.stream.endOffset
  · rw [if_pos inside] at given
    obtain ⟨_, -, given⟩ := bind_eq_ok given
    exact (Except.ok.inj given).symm
  · rw [if_neg inside] at given
    cases given

theorem answers_locate (span : TokenSpan) :
    Answers (locate span) fun file => (SourceLocation.ofSpan file span).map fun _ => () := by
  unfold locate
  refine (answers_requireTokens.bind fun stream => .ite (answers_requireTokenStart span.start)
    (.ofPlain fun file => .error (.outside file.id span.start))).congr fun file => ?_
  unfold SourceLocation.ofSpan
  cases lexed : file.requireTokens with
  | error err => rfl
  | ok tokens =>
    simp only [Except.map, bind, Except.bind]
    by_cases inside : if span.isEmpty then span.start ≤ tokens.stream.endOffset
        else span.start < tokens.stream.endOffset
    · rw [if_pos inside, if_pos inside]
      cases file.requireTokenStart tokens span.start <;> rfl
    · rw [if_neg inside, if_neg inside]
      rfl

theorem answers_askLines (span : TokenSpan) (question : SourceLocation → α) :
    Answers (askLines span question) fun file =>
      (SourceLocation.ofSpan file span).map question := by
  unfold askLines
  refine ((answers_locate span).bind fun _ => answers_requireTokens.bind fun stream =>
    answers_lines.bind fun starts =>
      .ofPlain fun file => .ok (question ⟨file, ⟨stream, starts⟩, span⟩)).congr fun file => ?_
  cases given : SourceLocation.ofSpan file span with
  | error err => rfl
  | ok place =>
    obtain ⟨tokens, lexed, rfl⟩ := ofSpan_ok given
    simp only [lexed, Except.map, bind, Except.bind]

theorem answers_spanText (span : TokenSpan) (names : Interner) :
    Answers (spanText span names) fun file =>
      (SourceLocation.ofSpan file span).map fun place => place.text names := by
  unfold spanText
  refine ((answers_locate span).bind fun _ => answers_requireTokens.bind fun stream =>
    .pure (stream.spanText names span)).congr fun file => ?_
  cases given : SourceLocation.ofSpan file span with
  | error err => rfl
  | ok place =>
    obtain ⟨tokens, lexed, rfl⟩ := ofSpan_ok given
    simp only [lexed, Except.map, bind, Except.bind, SourceLocation.text]

/-! ### Lexing -/

/-- The lexer is asked only if there are no tokens, and a file without tokens gets those that it
gives, if it gives any. -/
theorem outcome_tokensWith (lexer : Lexer) (names : Interner) (file : StoredFile) :
    outcome (tokensWith lexer names) file =
      match file.tokens with
      | some stream => (.ok (.ok stream, names), file)
      | none => match lexer.lex names file.text with
        | (.error errs, names) => (.ok (.error errs, names), file)
        | (.ok stream, names) =>
          (.ok (.ok stream, names), { file with tokens := some stream }) := by
  obtain ⟨_, _, text, _, _, tokens, _⟩ := file
  cases tokens with
  | some stream => rfl
  | none =>
    rw [tokensWith, outcome_get_bind]
    dsimp only
    rw [outcome_get_bind]
    dsimp only
    rcases lexer.lex names text with ⟨errs | stream, after⟩ <;> rfl

end StoredFile

end FrontEnd
