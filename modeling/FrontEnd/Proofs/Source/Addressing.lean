import FrontEnd.Proofs.Source.Lines
import FrontEnd.Proofs.Source.Registry

/-!
Addresses of tokens. Bytes inside a token may look like tokens themselves, so that an offset is
taken only if the tokens of its line lead to it. Then it is the start of a token, the token is read
there, and whatever is read from there on, or from the start of the line, is whole tokens.
-/

namespace FrontEnd

open Token

variable {file : SourceFile} {stream : TokenStream} {tokens lines line rest : List Token}
  {token : Token} {offset : Nat} {span : TokenSpan} {place : SourceLocation}

/-- Every token starts before the end mark. -/
theorem TokenStream.Holds.lt_endOffset (holds : stream.Holds tokens)
    (starts : (offset, token) ∈ placed 0 tokens) : offset < stream.endOffset := by
  have bounds := bounds_of_mem_placed starts
  have := token.size_pos
  rw [holds.endOffset_eq]
  omega

namespace SourceFile

/-- The start of a token is accepted. -/
theorem requireTokenStart_of_mem (holds : stream.Holds tokens)
    (starts : (offset, token) ∈ placed 0 tokens) :
    file.requireTokenStart (.ofStream stream) offset = .ok () := by
  obtain ⟨lines, line, rest, places⟩ := exists_places tokens offset
  have start := (places.mem_placed_iff.1 starts).1
  rw [requireTokenStart, LexedText.startsToken_eq holds places (holds.lt_endOffset starts),
    decide_eq_true start]

/-- So is the end mark. -/
theorem requireTokenStart_endOffset (file : SourceFile) (stream : TokenStream) :
    file.requireTokenStart (.ofStream stream) stream.endOffset = .ok () := by
  have accepted : (LexedText.ofStream stream).startsToken stream.endOffset = .ok true := if_pos rfl
  rw [requireTokenStart, accepted]

/-- Any other offset before the end mark is refused, whatever its bytes look like. -/
theorem requireTokenStart_of_not_mem (holds : stream.Holds tokens)
    (inside : offset < stream.endOffset) (none : ∀ token, (offset, token) ∉ placed 0 tokens) :
    file.requireTokenStart (.ofStream stream) offset = .error (.notTokenStart file.id offset) := by
  obtain ⟨lines, line, rest, places⟩ := exists_places tokens offset
  have elsewhere : offset ≠ extent (lines ++ line) := by
    intro start
    cases rest with
    | nil =>
      have behind := places.rest_eq_nil_iff.1 rfl
      rw [holds.endOffset_eq] at inside
      omega
    | cons first rest => exact none first (places.mem_placed_iff.2 ⟨start, rfl⟩)
  rw [requireTokenStart, LexedText.startsToken_eq holds places inside, decide_eq_false elsewhere]

end SourceFile

namespace SourceLocation

/-- A span can start at a token, and an empty one at the end mark. -/
theorem ofSpan_eq_ok_iff (holds : stream.Holds tokens)
    (lexed : file.tokens = some (.ofStream stream)) :
    ofSpan file span = .ok place ↔ place = ⟨file, .ofStream stream, span⟩ ∧
      ((∃ token, (span.start, token) ∈ placed 0 tokens) ∨
        span.start = stream.endOffset ∧ span.isEmpty = true) := by
  have stop : (LexedText.ofStream stream).stream.endOffset = stream.endOffset := rfl
  unfold ofSpan SourceFile.requireTokens
  simp only [lexed, Bind.bind, Except.bind, stop]
  constructor
  · intro located
    by_cases inside : if span.isEmpty = true then span.start ≤ stream.endOffset
      else span.start < stream.endOffset
    · rw [if_pos inside] at located
      cases accepted : file.requireTokenStart (.ofStream stream) span.start with
      | error err =>
        rw [accepted] at located
        cases located
      | ok =>
        rw [accepted] at located
        cases located
        refine ⟨rfl, ?_⟩
        by_contra! elsewhere
        obtain ⟨none, notEnd⟩ := elsewhere
        have before : span.start < stream.endOffset := by
          split at inside
          · rename_i isEmpty
            exact Nat.lt_of_le_of_ne inside fun atEnd => notEnd atEnd isEmpty
          · exact inside
        rw [SourceFile.requireTokenStart_of_not_mem holds before none] at accepted
        cases accepted
    · rw [if_neg inside] at located
      cases located
  · rintro ⟨rfl, ⟨token, starts⟩ | ⟨atEnd, isEmpty⟩⟩
    · have before := holds.lt_endOffset starts
      rw [if_pos (by split <;> omega), SourceFile.requireTokenStart_of_mem holds starts]
      rfl
    · rw [if_pos (by rw [if_pos isEmpty]; omega), atEnd,
        SourceFile.requireTokenStart_endOffset]
      rfl

/-- A location starts where the tokens before it end. -/
theorem start_eq (holds : stream.Holds tokens)
    (places : Places tokens span.start lines line rest)
    (starts : (∃ token, (span.start, token) ∈ placed 0 tokens) ∨ span.start = stream.endOffset) :
    span.start = extent (lines ++ line) := by
  rcases starts with ⟨token, starts⟩ | atEnd
  · exact (places.mem_placed_iff.1 starts).1
  · rw [holds.endOffset_eq] at atEnd
    obtain rfl := places.rest_eq_nil_iff.2 (Nat.le_of_eq atEnd.symm)
    rw [atEnd, places.whole, List.append_nil]

section Reading

variable (holds : stream.Holds tokens) (places : Places tokens span.start lines line rest)
  (start : span.start = extent (lines ++ line)) (names : Interner)

include holds places

/-- Reading starts with the line. -/
theorem fromLine_eq : (⟨file, .ofStream stream, span⟩ : SourceLocation).fromLine =
    .ok (placed (extent lines) (line ++ rest)) := LexedText.tokensFrom_eq holds places

theorem lineText_eq : (⟨file, .ofStream stream, span⟩ : SourceLocation).lineText names =
    .ok (TokenStream.textOf names
      ((placed (extent lines) (line ++ rest)).takeWhile fun entry => entry.2.kind ≠ .newline)) := by
  rw [lineText, fromLine_eq holds places]
  rfl

include start

/-- The text is that of the tokens behind those that come before. -/
theorem text_eq : (⟨file, .ofStream stream, span⟩ : SourceLocation).text names =
    .ok (TokenStream.textOf names (placed span.start (rest.take span.count))) := by
  have whole := places.whole
  rw [whole] at holds
  change (stream.tokensIn span).map (TokenStream.textOf names) = _
  rw [holds.tokensIn_eq start]
  rfl

end Reading

end SourceLocation

namespace SourceRegistry

variable {registry : SourceRegistry} {id : SourceId}

/-! ### Looking a token up -/

section TokenOf

variable (given : registry.file id = .ok file) (lexed : file.tokens = some (.ofStream stream))

include given lexed

/-- A token is read only where one is known to start. -/
theorem tokenOf_eq (offset : Nat) : registry.tokenOf id offset =
    if stream.endOffset ≤ offset then .error (.outside id offset)
    else match file.requireTokenStart (.ofStream stream) offset with
      | .error err => .error err
      | .ok _ => match stream.tokenAt offset with
        | .ok token => .ok token
        | .error cause => .error (.read (.refused cause)) := by
  simp only [tokenOf, given, SourceFile.requireTokens, lexed, Bind.bind, Except.bind]
  refine if_congr Iff.rfl rfl ?_
  cases file.requireTokenStart (.ofStream stream) offset <;> rfl

theorem tokenOf_outside (outside : stream.endOffset ≤ offset) :
    registry.tokenOf id offset = .error (.outside id offset) := by
  rw [tokenOf_eq given lexed, if_pos outside]

theorem tokenOf_of_mem (holds : stream.Holds tokens) (starts : (offset, token) ∈ placed 0 tokens) :
    registry.tokenOf id offset = .ok token := by
  have inside := holds.lt_endOffset starts
  have read : stream.tokenAt offset = .ok token := by
    obtain ⟨lines, line, rest, places⟩ := exists_places tokens offset
    obtain ⟨start, first⟩ := places.mem_placed_iff.1 starts
    obtain ⟨others, rfl⟩ := List.head?_eq_some_iff.1 first
    rw [places.whole] at holds
    rw [start]
    exact holds.tokenAt_eq
  simp only [tokenOf_eq given lexed, if_neg (Nat.not_le_of_lt inside),
    SourceFile.requireTokenStart_of_mem holds starts, read]

theorem tokenOf_of_not_mem (holds : stream.Holds tokens) (inside : offset < stream.endOffset)
    (none : ∀ token, (offset, token) ∉ placed 0 tokens) :
    registry.tokenOf id offset = .error (.notTokenStart file.id offset) := by
  simp only [tokenOf_eq given lexed, if_neg (Nat.not_le_of_lt inside),
    SourceFile.requireTokenStart_of_not_mem holds inside none]

end TokenOf

/-- Exactly the starts of tokens are addresses, whatever a registry has done. A token is given at an
offset if it is among those that a cursor gives for the source, and no other; from the end mark on
an offset is out of bounds, and before it no token starts there. A span is a location if it starts
at a token, or if it is empty and starts at the end mark; and every location can be told and shown,
whatever the number of its tokens. -/
theorem token_addresses {file : SourceFile} {text : LexedText} (reached : registry.Reached)
    (given : registry.file id = .ok file) (lexed : file.tokens = some text) :
    ∃ listed, text.stream.tokens = .ok listed ∧
      (∀ count, TokenCursor.calls text.stream.bytes count { offset := 0 } =
        .ok ((List.range count).map fun index => listed[index]?)) ∧
      (∀ offset,
        (∀ token, registry.tokenOf id offset = .ok token ↔ (offset, token) ∈ listed) ∧
        (text.stream.endOffset ≤ offset →
          registry.tokenOf id offset = .error (.outside id offset)) ∧
        (offset < text.stream.endOffset → (∀ token, (offset, token) ∉ listed) →
          registry.tokenOf id offset = .error (.notTokenStart id offset))) ∧
      ∀ span,
        ((∃ place, SourceLocation.ofSpan file span = .ok place) ↔
          (∃ token, (span.start, token) ∈ listed) ∨
            span.start = text.stream.endOffset ∧ span.isEmpty = true) ∧
        ∀ place, SourceLocation.ofSpan file span = .ok place → ∀ names,
          (∃ text, place.text names = .ok text) ∧ (∃ start, place.lineCol names = .ok start) ∧
            ∃ line, place.lineText names = .ok line := by
  obtain ⟨rfl, stream, tokens, rfl, holds⟩ := reached.holds given lexed
  refine ⟨placed 0 tokens, holds.tokens_eq, TokenCursor.calls_of_stands holds.stands,
    fun offset => ⟨fun token => ⟨fun found => ?_, tokenOf_of_mem given lexed holds⟩,
      tokenOf_outside given lexed, tokenOf_of_not_mem given lexed holds⟩, fun span => ⟨?_, ?_⟩⟩
  · -- an offset at which no token starts is refused, so that one does, and it is the one given
    by_contra absent
    by_cases inside : offset < stream.endOffset
    · by_cases other : ∃ other, (offset, other) ∈ placed 0 tokens
      · obtain ⟨other, starts⟩ := other
        rw [tokenOf_of_mem given lexed holds starts, Except.ok.injEq] at found
        exact absent (found ▸ starts)
      · rw [tokenOf_of_not_mem given lexed holds inside (not_exists.1 other)] at found
        cases found
    · rw [tokenOf_outside given lexed (Nat.le_of_not_lt inside)] at found
      cases found
  · simp only [SourceLocation.ofSpan_eq_ok_iff holds lexed, exists_eq_left]
    rfl
  · intro place located names
    obtain ⟨rfl, starts⟩ := (SourceLocation.ofSpan_eq_ok_iff holds lexed).1 located
    obtain ⟨lines, line, rest, places⟩ := exists_places tokens span.start
    have start := SourceLocation.start_eq holds places (starts.imp_right And.left)
    refine ⟨⟨_, SourceLocation.text_eq holds places start names⟩, ?_,
      ⟨_, SourceLocation.lineText_eq holds places names⟩⟩
    rw [SourceLocation.lineCol, SourceLocation.fromLine_eq holds places]
    exact ⟨_, rfl⟩

/-- A space and a newline: the length of the space is a byte that looks like a newline, and no token
starts there. -/
theorem token_addresses_imitated :
    let stream := (({} : TokenBuffer).pushAll [.whitespace 1, ⟨.newline, .none, rfl⟩]).2.finish
    let registry := (({} : SourceRegistry).add ⟨"", "", none, some stream⟩).2
    stream.tokenAt 1 = .ok ⟨.newline, .none, rfl⟩ ∧
      registry.tokenOf ⟨0⟩ 1 = .error (.notTokenStart ⟨0⟩ 1) := by
  intro stream registry
  have made : stream.Made := .written _ (by decide)
  have reached : registry.Reached := .single (.added _ _ fun other same => by
    cases same
    exact made)
  have given : registry.file ⟨0⟩ = .ok ⟨⟨0⟩, "", "", none, some (.ofStream stream)⟩ := rfl
  obtain ⟨listed, read, -, addresses, -⟩ := token_addresses reached given rfl
  have two : stream.tokens = .ok [(0, .whitespace 1), (2, ⟨.newline, .none, rfl⟩)] := by cbv
  obtain rfl := Except.ok.inj (two.symm.trans read)
  refine ⟨rfl, (addresses 1).2.2 (by decide) fun token => ?_⟩
  simp

end SourceRegistry

end FrontEnd
