import FrontEnd.Proofs.Source.Addressing
import Mathlib.Data.List.DropRight

/-!
Positions in the source text. A stream writes the texts of its tokens one behind the other. Where
only newline tokens write newlines, lines of tokens are lines of the text, so that the line and the
column of a location, the line that is shown of it and the text of its tokens are all found where
the whole text has them.
-/

namespace FrontEnd

open Token

/-! ### Lines of characters -/

section Lines

variable {before line rest : List Char}

theorem length_splitOn (chars : List Char) (mark : Char) :
    (chars.splitOn mark).length = chars.count mark + 1 := by
  induction chars with
  | nil => rfl
  | cons char chars ih =>
    rw [List.splitOn_cons_eq_if_modifyHead, List.count_cons]
    split <;> simp [ih]

/-- The line behind some whole lines is found under their number. -/
theorem getElem?_splitOn (ended : before = [] ∨ ∃ others, before = others ++ ['\n'])
    (single : '\n' ∉ line) (ending : rest = [] ∨ ∃ others, rest = '\n' :: others) :
    ((before ++ (line ++ rest)).splitOn '\n')[before.count '\n']? = some line := by
  have first : ((line ++ rest).splitOn '\n')[0]? = some line := by
    rcases ending with rfl | ⟨others, rfl⟩
    · rw [List.append_nil, List.splitOn_eq_singleton single]
      rfl
    · rw [List.splitOn_append_cons_self_of_not_mem single]
      rfl
  rcases ended with rfl | ⟨others, rfl⟩
  · exact first
  · have lines : (others.splitOn '\n').length = (others ++ ['\n']).count '\n' := by
      rw [length_splitOn, List.count_append, List.count_singleton_self]
    rw [List.append_assoc, List.singleton_append, List.splitOn_append_cons_self, ← lines,
      List.getElem?_append_right (Nat.le_refl _), Nat.sub_self]
    exact first

/-- What follows the last newline. -/
theorem rtakeWhile_line (ended : before = [] ∨ ∃ others, before = others ++ ['\n'])
    (single : '\n' ∉ line) : (before ++ line).rtakeWhile (· ≠ '\n') = line := by
  have passes : ∀ char ∈ line.reverse, decide (char ≠ '\n') = true := by
    intro char listed
    rw [decide_eq_true_eq]
    rintro rfl
    exact single (List.mem_reverse.1 listed)
  rw [List.rtakeWhile, List.reverse_append, List.takeWhile_append_of_pos passes]
  rcases ended with rfl | ⟨others, rfl⟩ <;> simp

end Lines

/-! ### The text of tokens -/

/-- No name among tokens has a newline in its text, so that only newline tokens write newlines. -/
def Plain (names : Interner) (tokens : List Token) : Prop :=
  ∀ token ∈ tokens, ∀ name, token.name? = some name → '\n' ∉ (names.textOf name).toList

/-- The characters that tokens write. -/
def charsOf (names : Interner) (tokens : List Token) : List Char :=
  tokens.flatMap fun token => (token.text names).toList

variable {names : Interner} {tokens front back lines line rest : List Token} {token : Token}

@[simp] theorem charsOf_append (names : Interner) (front back : List Token) :
    charsOf names (front ++ back) = charsOf names front ++ charsOf names back :=
  List.flatMap_append

theorem toList_textOf (names : Interner) (entries : List (Nat × Token)) :
    (TokenStream.textOf names entries).toList = charsOf names (entries.map Prod.snd) := by
  rw [TokenStream.textOf, String.toList_join, charsOf, List.flatMap_map, List.flatMap_map]

/-- No fixed text but that of the newline has a newline in it. -/
theorem TokenKind.fixedText?_plain {kind : TokenKind} {text : String}
    (fixed : kind.fixedText? = some text) (other : kind ≠ .newline) : '\n' ∉ text.toList := by
  cases kind <;> first
    | exact absurd rfl other
    | (cases fixed; decide)
    | cases fixed

theorem Token.text_newline (newline : token.kind = .newline) : token.text names = "\n" := by
  have fixed : token.kind.fixedText? = some "\n" := by
    rw [newline]
    rfl
  rw [text, fixed]

theorem Token.text_plain (other : token.kind ≠ .newline)
    (plain : ∀ name, token.name? = some name → '\n' ∉ (names.textOf name).toList) :
    '\n' ∉ (token.text names).toList := by
  unfold text
  split
  · rename_i text fixed
    exact TokenKind.fixedText?_plain fixed other
  · split
    · simp
    · simp
    · rename_i name carried
      exact plain name (by rw [Token.name?, carried])

theorem Plain.append_left (plain : Plain names (front ++ back)) : Plain names front :=
  fun token listed => plain token (List.mem_append_left _ listed)

theorem Plain.append_right (plain : Plain names (front ++ back)) : Plain names back :=
  fun token listed => plain token (List.mem_append_right _ listed)

/-- Tokens of one line write no newline. -/
theorem newline_not_mem_charsOf (plain : Plain names tokens)
    (single : ∀ token ∈ tokens, token.kind ≠ .newline) : '\n' ∉ charsOf names tokens := by
  simp only [charsOf, List.mem_flatMap, not_exists, not_and]
  exact fun token listed => text_plain (single token listed) (plain token listed)

/-- Each newline token writes one newline. -/
theorem count_newline_charsOf (plain : Plain names tokens) :
    (charsOf names tokens).count '\n' = tokens.countP (·.kind = .newline) := by
  induction tokens with
  | nil => rfl
  | cons token tokens ih =>
    have others := ih fun other listed => plain other (.tail _ listed)
    have first : (charsOf names (token :: tokens)).count '\n' =
        (token.text names).toList.count '\n' + (charsOf names tokens).count '\n' := by
      rw [charsOf, List.flatMap_cons, List.count_append]
      rfl
    rw [first, others, List.countP_cons]
    by_cases newline : token.kind = .newline
    · rw [text_newline newline]
      simp [newline, Nat.add_comm]
    · have none := text_plain newline (plain token List.mem_cons_self)
      simp [newline, List.count_eq_zero.2 none]

/-- Whole lines of tokens write whole lines. -/
theorem charsOf_ended (names : Interner)
    (ended : lines = [] ∨ ∃ others newline, lines = others ++ [newline] ∧ newline.kind = .newline) :
    charsOf names lines = [] ∨ ∃ others, charsOf names lines = others ++ ['\n'] := by
  rcases ended with rfl | ⟨others, newline, rfl, isNewline⟩
  · exact .inl rfl
  · refine .inr ⟨charsOf names others, ?_⟩
    rw [charsOf_append]
    simp [charsOf, text_newline isNewline]

/-- What is written behind a line starts with a newline, if there is anything. -/
theorem charsOf_dropWhile (names : Interner) (tokens : List Token) :
    charsOf names (tokens.dropWhile (·.kind ≠ .newline)) = [] ∨
      ∃ others, charsOf names (tokens.dropWhile (·.kind ≠ .newline)) = '\n' :: others := by
  cases ending : tokens.dropWhile (·.kind ≠ .newline) with
  | nil => exact .inl rfl
  | cons newline others =>
    have isNewline : newline.kind = .newline := by
      have stopped := List.head?_dropWhile_not
        (fun token : Token => decide (token.kind ≠ .newline)) tokens
      rw [ending] at stopped
      simpa using stopped
    refine .inr ⟨charsOf names others, ?_⟩
    simp [charsOf, text_newline isNewline]

/-! ### Positions -/

namespace SourceLocation

variable {file : SourceFile} {stream : TokenStream} {span : TokenSpan}

/-- Columns go on up to the last. -/
theorem foldl_widths (widths : List Nat) (col : Nat) (small : col ≤ LineCol.last) :
    widths.foldl (fun col width => min (col + width) LineCol.last) col =
      min (col + widths.sum) LineCol.last := by
  induction widths generalizing col with
  | nil => exact (Nat.min_eq_left small).symm
  | cons width widths ih =>
    rw [List.foldl_cons, ih _ (Nat.min_le_right ..), List.sum_cons]
    omega

variable {names : Interner}

/-- What is read before the start of a location are the tokens of its line that come before. -/
theorem takeWhile_before (places : Places tokens span.start lines line rest)
    (start : span.start = extent (lines ++ line)) :
    (placed (extent lines) (line ++ rest)).takeWhile (fun entry => entry.1 < span.start) =
      placed (extent lines) line := by
  rw [extent_append] at start
  have early : ∀ entry ∈ placed (extent lines) line, decide (entry.1 < span.start) = true := by
    rintro ⟨place, token⟩ listed
    have bounds := bounds_of_mem_placed listed
    have := token.size_pos
    rw [decide_eq_true_eq]
    omega
  rw [placed_append, List.takeWhile_append_of_pos early, ← start]
  cases rest with
  | nil => simp
  | cons token rest => simp

theorem lineCol_eq (holds : stream.Holds tokens) (places : Places tokens span.start lines line rest)
    (start : span.start = extent (lines ++ line)) :
    (⟨file, .ofStream stream, span⟩ : SourceLocation).lineCol names =
      .ok ⟨min (1 + lines.countP (·.kind = .newline)) LineCol.last,
        min (1 + (charsOf names line).length) LineCol.last⟩ := by
  have widths : ((placed (extent lines) line).map fun entry => (entry.2.text names).length).sum =
      (charsOf names line).length := by
    have texts := List.map_map (l := placed (extent lines) line) (f := Prod.snd)
      (g := fun token => (token.text names).length)
    rw [map_snd_placed] at texts
    rw [charsOf, List.length_flatMap]
    simp only [String.length_toList, texts]
    rfl
  have small : 1 ≤ LineCol.last := by decide
  rw [lineCol, fromLine_eq holds places]
  refine congrArg Except.ok ?_
  dsimp only
  rw [takeWhile_before places start, LexedText.lineIndex_eq holds places, foldl_widths _ _ small,
    widths, Nat.add_comm]

/-- The tokens before a location are those that start before. -/
theorem filter_before (places : Places tokens span.start lines line rest)
    (start : span.start = extent (lines ++ line)) :
    (placed 0 tokens).filter (fun entry => entry.1 < span.start) = placed 0 (lines ++ line) ∧
      (placed 0 tokens).filter (fun entry => span.start ≤ entry.1) = placed span.start rest := by
  have early : ∀ entry ∈ placed 0 (lines ++ line), entry.1 < span.start := by
    rintro ⟨place, token⟩ listed
    have bounds := bounds_of_mem_placed listed
    have := token.size_pos
    omega
  have late : ∀ entry ∈ placed span.start rest, span.start ≤ entry.1 :=
    fun entry listed => (bounds_of_mem_placed listed).1
  have whole : placed 0 tokens = placed 0 (lines ++ line) ++ placed span.start rest := by
    rw [places.whole, placed_append, Nat.zero_add, start]
  rw [whole, List.filter_append, List.filter_append]
  constructor
  · rw [List.filter_eq_self.2 (by simpa using early),
      List.filter_eq_nil_iff.2 (by simpa using late), List.append_nil]
  · rw [List.filter_eq_nil_iff.2 (by simpa using early),
      List.filter_eq_self.2 (by simpa using late), List.nil_append]

/-- What was read before a location has as many newlines as the lines before it. -/
theorem count_newline_before (places : Places tokens span.start lines line rest)
    (plain : Plain names tokens) :
    (charsOf names (lines ++ line)).count '\n' = lines.countP (·.kind = .newline) := by
  rw [places.whole] at plain
  have single := newline_not_mem_charsOf plain.append_left.append_right places.single
  rw [charsOf_append, List.count_append, List.count_eq_zero.2 single, Nat.add_zero,
    count_newline_charsOf plain.append_left.append_left]

/-- The column is that of the characters since the last newline. -/
theorem rtakeWhile_before (places : Places tokens span.start lines line rest)
    (plain : Plain names tokens) :
    (charsOf names (lines ++ line)).rtakeWhile (· ≠ '\n') = charsOf names line := by
  rw [places.whole] at plain
  rw [charsOf_append]
  exact rtakeWhile_line (charsOf_ended names places.ended)
    (newline_not_mem_charsOf plain.append_left.append_right places.single)

/-- The line that is shown goes on up to the next newline. -/
theorem exists_lineText (file : SourceFile) (names : Interner) (holds : stream.Holds tokens)
    (places : Places tokens span.start lines line rest) :
    ∃ text, (⟨file, .ofStream stream, span⟩ : SourceLocation).lineText names = .ok text ∧
      text.toList = charsOf names (line ++ rest.takeWhile (·.kind ≠ .newline)) := by
  refine ⟨_, lineText_eq holds places names, ?_⟩
  have passes : ∀ token ∈ line, decide (token.kind ≠ .newline) = true :=
    fun token listed => decide_eq_true (places.single token listed)
  have own := List.takeWhile_map (f := Prod.snd)
    (p := fun token : Token => decide (token.kind ≠ .newline))
    (l := placed (extent lines) (line ++ rest))
  rw [map_snd_placed, List.takeWhile_append_of_pos passes] at own
  rw [toList_textOf, own]
  rfl

/-- It is the line of the whole text behind as many newlines as there are before the location. -/
theorem getElem?_lines (places : Places tokens span.start lines line rest)
    (plain : Plain names tokens) :
    ((charsOf names tokens).splitOn '\n')[lines.countP (·.kind = .newline)]? =
      some (charsOf names (line ++ rest.takeWhile (·.kind ≠ .newline))) := by
  have whole : tokens = lines ++ (line ++ rest.takeWhile (·.kind ≠ .newline)) ++
      rest.dropWhile (·.kind ≠ .newline) := by
    rw [List.append_assoc, List.append_assoc, List.takeWhile_append_dropWhile, ← List.append_assoc,
      places.whole]
  rw [whole] at plain ⊢
  have single : ∀ token ∈ line ++ rest.takeWhile (·.kind ≠ .newline), token.kind ≠ .newline := by
    intro token listed
    rcases List.mem_append.1 listed with early | late
    · exact places.single token early
    · simpa using List.mem_takeWhile_imp late
  have found := getElem?_splitOn (charsOf_ended names places.ended)
    (newline_not_mem_charsOf plain.append_left.append_right single) (charsOf_dropWhile names rest)
  rwa [count_newline_charsOf plain.append_left.append_left, ← List.append_assoc, ← charsOf_append,
    ← charsOf_append] at found

/-- A location is that of a file that was lexed. -/
theorem tokens_of_ofSpan {place : SourceLocation} (located : ofSpan file span = .ok place) :
    ∃ text, file.tokens = some text := by
  cases lexed : file.tokens with
  | some text => exact ⟨text, rfl⟩
  | none =>
    simp only [ofSpan, SourceFile.requireTokens, lexed] at located
    cases located

/-- Positions point into the source text, whatever a registry has done. If only newline tokens write
newlines, let the whole text be read up to the first token of a location: the line of the location
is counted by the newlines passed, and the column by the characters passed since the last of them,
as far as 32 bits count them. The line that is shown is the one of that number, and the text of the
location goes on where the reading stopped. -/
theorem position_in_text {registry : SourceRegistry} {id : SourceId} {place : SourceLocation}
    {listed : List (Nat × Token)} (reached : registry.Reached)
    (given : registry.file id = .ok file) (located : ofSpan file span = .ok place)
    (read : place.tokens.stream.tokens = .ok listed)
    (plain : Plain names (listed.map Prod.snd)) :
    ∃ whole, place.tokens.stream.render names = .ok whole ∧
      let before := TokenStream.textOf names (listed.filter fun entry => entry.1 < span.start)
      let passed := whole.toList.take before.length
      passed = before.toList ∧
      place.lineCol names = .ok
        ⟨min (1 + passed.count '\n') LineCol.last,
          min (1 + (passed.rtakeWhile (· ≠ '\n')).length) LineCol.last⟩ ∧
      (∃ line, place.lineText names = .ok line ∧
        (whole.toList.splitOn '\n')[passed.count '\n']? = some line.toList) ∧
      ∃ text others, place.text names = .ok text ∧
        text = TokenStream.textOf names
          ((listed.filter fun entry => span.start ≤ entry.1).take span.count) ∧
        whole.toList = passed ++ text.toList ++ others := by
  obtain ⟨text, lexed⟩ := tokens_of_ofSpan located
  obtain ⟨-, stream, tokens, rfl, holds⟩ := reached.holds given lexed
  obtain ⟨rfl, starts⟩ := (ofSpan_eq_ok_iff holds lexed).1 located
  obtain rfl : placed 0 tokens = listed := Except.ok.inj (holds.tokens_eq.symm.trans read)
  rw [map_snd_placed] at plain
  obtain ⟨lines, line, rest, places⟩ := exists_places tokens span.start
  have start := start_eq holds places (starts.imp_right And.left)
  obtain ⟨early, late⟩ := filter_before places start
  have whole : (TokenStream.textOf names (placed 0 tokens)).toList = charsOf names tokens := by
    rw [toList_textOf, map_snd_placed]
  refine ⟨TokenStream.textOf names (placed 0 tokens), ?_, ?_⟩
  · change stream.tokens.map (TokenStream.textOf names) = _
    rw [holds.tokens_eq]
    rfl
  intro before passed
  have beforeText : before.toList = charsOf names (lines ++ line) := by
    rw [toList_textOf, early, map_snd_placed]
  have parts : charsOf names tokens = before.toList ++ charsOf names rest := by
    rw [beforeText, ← charsOf_append, ← places.whole]
  have passedText : passed = before.toList := by
    change List.take before.length _ = _
    rw [whole, parts, ← String.length_toList, List.take_left]
  refine ⟨passedText, ?_, ?_, ?_⟩
  · rw [passedText, beforeText, count_newline_before places plain, rtakeWhile_before places plain,
      lineCol_eq holds places start]
  · obtain ⟨shown, told, chars⟩ := exists_lineText file names holds places
    refine ⟨shown, told, ?_⟩
    rw [passedText, beforeText, count_newline_before places plain, whole, chars,
      getElem?_lines places plain]
  · refine ⟨_, charsOf names (rest.drop span.count), text_eq holds places start names, ?_, ?_⟩
    · rw [late, take_placed]
    · rw [whole, parts, passedText, toList_textOf names (placed span.start _), map_snd_placed,
        List.append_assoc, ← charsOf_append, List.take_append_drop]

/-- The second token of a second line. -/
theorem position_in_text_of_second_line :
    let stream := (({} : TokenBuffer).pushAll [⟨.newline, .none, rfl⟩, ⟨.kwDo, .none, rfl⟩,
      ⟨.kwIf, .none, rfl⟩]).2.finish
    let file : SourceFile := ⟨⟨0⟩, "", "", none, some (.ofStream stream)⟩
    let place : SourceLocation := ⟨file, .ofStream stream, .point 2⟩
    place.lineCol .new = .ok ⟨2, 3⟩ ∧ place.lineText .new = .ok "doif" ∧
      place.text .new = .ok "if" := by
  intro stream file place
  have made : stream.Made := .written _ (by decide)
  have reached : SourceRegistry.Reached (({} : SourceRegistry).add ⟨"", "", none, some stream⟩).2 :=
    .single (.added _ _ fun other same => by
      cases same
      exact made)
  have given : SourceRegistry.file (({} : SourceRegistry).add ⟨"", "", none, some stream⟩).2 ⟨0⟩ =
    .ok file := rfl
  have located : ofSpan file (.point 2) = .ok place := by
    dsimp only [place, file]
    cbv
  have read : stream.tokens = .ok [(0, ⟨.newline, .none, rfl⟩), (1, ⟨.kwDo, .none, rfl⟩),
      (2, ⟨.kwIf, .none, rfl⟩)] := by cbv
  have plain : Plain .new [⟨.newline, .none, rfl⟩, ⟨.kwDo, .none, rfl⟩, ⟨.kwIf, .none, rfl⟩] := by
    intro token listed name carried
    simp only [List.mem_cons, List.not_mem_nil, or_false] at listed
    rcases listed with rfl | rfl | rfl <;> cases carried
  obtain ⟨whole, rendered, -, lineCol, ⟨line, lineText, shown⟩, text, others, told, spanned, -⟩ :=
    position_in_text reached given located read plain
  have all : stream.render .new = .ok "\ndoif" := by
    rw [TokenStream.render, read]
    rfl
  obtain rfl := Except.ok.inj (all.symm.trans rendered)
  have second : some line.toList = some "doif".toList := by
    rw [← shown]
    decide +kernel
  rw [lineCol, lineText, told, spanned, ← String.toList_inj.1 (Option.some.inj second)]
  exact ⟨by decide +kernel, rfl, by decide +kernel⟩

end SourceLocation

end FrontEnd
