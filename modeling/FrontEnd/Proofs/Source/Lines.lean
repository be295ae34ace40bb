import FrontEnd.Proofs.Token.Placement
import FrontEnd.Source.File
import Mathlib.Data.List.Induction

/-!
Lines of tokens. Wherever an offset lies, the lines before it end with a newline, and the line that
holds it starts behind the last of them. The table of line starts has one entry for each of these
lines, so that its search leads to the start of a token, and reading from there meets whole tokens
only: whether a token starts at the offset is told by the first that does not end before it.
-/

namespace FrontEnd

namespace Token

variable {tokens front back : List Token} {offset stop : Nat}

/-- Where the lines end whose newlines are among tokens, the first of which starts at an offset. -/
def lineEnds (offset : Nat) (tokens : List Token) : List Nat :=
  (placed offset tokens).filterMap fun (start, token) =>
    if token.kind = .newline then some (start + token.size) else none

theorem lineEnds_append (offset : Nat) (front back : List Token) :
    lineEnds offset (front ++ back) =
      lineEnds offset front ++ lineEnds (offset + extent front) back := by
  rw [lineEnds, placed_append, List.filterMap_append]
  rfl

/-- There is an end for each newline. -/
theorem length_lineEnds (offset : Nat) (tokens : List Token) :
    (lineEnds offset tokens).length = tokens.countP (·.kind = .newline) := by
  induction tokens generalizing offset with
  | nil => rfl
  | cons token tokens ih =>
    have others := ih (offset + token.size)
    unfold lineEnds at others
    by_cases newline : token.kind = .newline <;>
      simp [lineEnds, newline, others]

theorem lineEnds_eq_nil (single : ∀ token ∈ tokens, token.kind ≠ .newline) :
    lineEnds offset tokens = [] := by
  rw [← List.length_eq_zero_iff, length_lineEnds, List.countP_eq_zero]
  simpa using single

/-- A line ends behind the first token, or where that ends, and no later than the last. -/
theorem bounds_of_mem_lineEnds (listed : stop ∈ lineEnds offset tokens) :
    (∀ token ∈ tokens.head?, offset + token.size ≤ stop) ∧ stop ≤ offset + extent tokens := by
  obtain ⟨⟨start, newline⟩, member, same⟩ := List.mem_filterMap.1 listed
  simp only [Option.ite_none_right_eq_some, Option.some.injEq] at same
  obtain ⟨-, rfl⟩ := same
  refine ⟨fun token first => ?_, (bounds_of_mem_placed member).2⟩
  obtain ⟨rest, rfl⟩ := List.head?_eq_some_iff.1 first
  rw [placed_cons, List.mem_cons] at member
  rcases member with same | later
  · cases same
    exact Nat.le_refl _
  · exact Nat.le_trans (bounds_of_mem_placed later).1 (Nat.le_add_right ..)

/-! ### Where an offset lies -/

/-- Where an offset lies among tokens. Whole lines come first, each with its newline; then those
tokens of the line that holds the offset which end there or before; then what is left, whose first
token starts at the offset or holds it. -/
structure Places (tokens : List Token) (offset : Nat) (lines line rest : List Token) : Prop where
  whole : tokens = lines ++ line ++ rest
  ended : lines = [] ∨ ∃ others newline, lines = others ++ [newline] ∧ newline.kind = .newline
  single : ∀ token ∈ line, token.kind ≠ .newline
  before : extent (lines ++ line) ≤ offset
  within : ∀ token ∈ rest.head?, offset < extent (lines ++ line) + token.size

/-- Some tokens end at an offset or before, and the next does not. -/
theorem exists_before (tokens : List Token) (offset : Nat) :
    ∃ front rest, tokens = front ++ rest ∧ extent front ≤ offset ∧
      ∀ token ∈ rest.head?, offset < extent front + token.size := by
  induction tokens generalizing offset with
  | nil => exact ⟨[], [], rfl, Nat.zero_le _, fun _ first => by cases first⟩
  | cons token tokens ih =>
    by_cases holds : offset < token.size
    · refine ⟨[], token :: tokens, rfl, Nat.zero_le _, fun first same => ?_⟩
      cases same
      simpa using holds
    · obtain ⟨front, rest, rfl, before, within⟩ := ih (offset - token.size)
      refine ⟨token :: front, rest, rfl, ?_, fun first same => ?_⟩
      · rw [extent_cons]
        omega
      · have := within first same
        rw [extent_cons]
        omega

/-- Tokens are whole lines and the start of one more. -/
theorem exists_lines (tokens : List Token) : ∃ lines line, tokens = lines ++ line ∧
    (lines = [] ∨ ∃ others newline, lines = others ++ [newline] ∧ newline.kind = .newline) ∧
    ∀ token ∈ line, token.kind ≠ .newline := by
  induction tokens using List.reverseRecOn with
  | nil => exact ⟨[], [], rfl, .inl rfl, by simp⟩
  | append_singleton tokens token ih =>
    by_cases newline : token.kind = .newline
    · exact ⟨tokens ++ [token], [], by simp, .inr ⟨tokens, token, rfl, newline⟩, by simp⟩
    · obtain ⟨lines, line, rfl, ended, single⟩ := ih
      refine ⟨lines, line ++ [token], by simp, ended, fun other listed => ?_⟩
      rcases List.mem_append.1 listed with earlier | last
      · exact single other earlier
      · rwa [List.mem_singleton.1 last]

theorem exists_places (tokens : List Token) (offset : Nat) :
    ∃ lines line rest, Places tokens offset lines line rest := by
  obtain ⟨front, rest, whole, before, within⟩ := exists_before tokens offset
  obtain ⟨lines, line, rfl, ended, single⟩ := exists_lines front
  exact ⟨lines, line, rest, whole, ended, single, before, within⟩

variable {lines line rest : List Token} {token : Token}

namespace Places

/-- A token starts at the offset exactly if it is the first that is left. -/
theorem mem_placed_iff (places : Places tokens offset lines line rest) :
    (offset, token) ∈ placed 0 tokens ↔
      offset = extent (lines ++ line) ∧ rest.head? = some token := by
  have before := places.before
  rw [places.whole, placed_append, List.mem_append, Nat.zero_add]
  constructor
  · rintro (early | late)
    · have bounds := bounds_of_mem_placed early
      have := token.size_pos
      omega
    · cases rest with
      | nil => cases late
      | cons first rest =>
        have within := places.within first rfl
        rw [placed_cons, List.mem_cons] at late
        rcases late with same | later
        · cases same
          exact ⟨rfl, rfl⟩
        · have bounds := bounds_of_mem_placed later
          omega
  · rintro ⟨start, first⟩
    obtain ⟨others, rfl⟩ := List.head?_eq_some_iff.1 first
    rw [placed_cons, ← start]
    exact .inr List.mem_cons_self

/-- Nothing is left exactly behind all tokens. -/
theorem rest_eq_nil_iff (places : Places tokens offset lines line rest) :
    rest = [] ↔ extent tokens ≤ offset := by
  have before := places.before
  rw [places.whole, extent_append]
  cases rest with
  | nil => simpa using before
  | cons first rest =>
    have within := places.within first rfl
    rw [extent_cons]
    refine iff_of_false (List.cons_ne_nil _ _) ?_
    omega

/-- As many lines end at the offset or before as there are newlines in the whole lines. -/
theorem countP_lineEnds (places : Places tokens offset lines line rest) :
    (lineEnds 0 tokens).countP (· ≤ offset) = (lineEnds 0 lines).length := by
  have before := places.before
  rw [extent_append] at before
  have early : (lineEnds 0 lines).countP (· ≤ offset) = (lineEnds 0 lines).length := by
    rw [List.countP_eq_length]
    intro stop listed
    have := (bounds_of_mem_lineEnds listed).2
    rw [decide_eq_true_eq]
    omega
  have late : (lineEnds (extent (lines ++ line)) rest).countP (· ≤ offset) = 0 := by
    rw [List.countP_eq_zero]
    intro stop listed
    cases rest with
    | nil => cases listed
    | cons first rest =>
      have := (bounds_of_mem_lineEnds listed).1 first rfl
      have := places.within first rfl
      rw [decide_eq_true_eq]
      omega
  rw [places.whole, lineEnds_append, lineEnds_append, lineEnds_eq_nil places.single,
    List.append_nil, Nat.zero_add, List.countP_append, early, late, Nat.add_zero]

end Places

end Token

/-! ### The table of line starts -/

open Token

namespace LexedText

variable {stream : TokenStream} {tokens lines line rest : List Token} {offset : Nat}

theorem lineStarts_eq (holds : stream.Holds tokens) :
    (ofStream stream).lineStarts = 0 :: lineEnds 0 tokens := by
  simp only [ofStream, lineStartsOf, holds.tokens_eq]
  rfl

/-- The number of the line that holds an offset is that of the newlines before. -/
theorem lineIndex_eq (holds : stream.Holds tokens)
    (places : Places tokens offset lines line rest) :
    (ofStream stream).lineIndex offset = lines.countP (·.kind = .newline) := by
  rw [lineIndex, lineStarts_eq holds, List.countP_cons, places.countP_lineEnds, length_lineEnds]
  simp

/-- The line that holds an offset starts behind the whole lines. -/
theorem lineStart_eq (holds : stream.Holds tokens)
    (places : Places tokens offset lines line rest) :
    (ofStream stream).lineStart offset = extent lines := by
  rw [lineStart, lineIndex_eq holds places, lineStarts_eq holds, ← length_lineEnds 0 lines,
    places.whole, List.append_assoc, lineEnds_append]
  rcases places.ended with rfl | ⟨others, newline, rfl, isNewline⟩
  · rfl
  · have last : lineEnds (extent others) [newline] = [extent others + newline.size] := by
      simp [lineEnds, isNewline]
    rw [lineEnds_append, Nat.zero_add, last]
    simp

/-- Reading from the start of the line gives the rest of the line and all that follows. -/
theorem tokensFrom_eq (holds : stream.Holds tokens)
    (places : Places tokens offset lines line rest) :
    (ofStream stream).tokensFrom ((ofStream stream).lineStart offset) =
      .ok (placed (extent lines) (line ++ rest)) := by
  have whole := places.whole
  rw [List.append_assoc] at whole
  have few := holds.few
  rw [whole, List.length_append] at few
  have all : (line ++ rest).take (UInt32.size - 1) = line ++ rest :=
    List.take_of_length_le (by omega)
  rw [lineStart_eq holds places, tokensFrom]
  rw [whole] at holds
  refine (holds.tokensIn_eq rfl).trans ?_
  rw [all]

/-- Before the end mark, the offsets that are accepted are those at which a token starts. -/
theorem startsToken_eq (holds : stream.Holds tokens)
    (places : Places tokens offset lines line rest) (inside : offset < stream.endOffset) :
    (ofStream stream).startsToken offset = .ok (decide (offset = extent (lines ++ line))) := by
  have differs : offset ≠ (ofStream stream).stream.endOffset := Nat.ne_of_lt inside
  rw [startsToken, if_neg differs, tokensFrom_eq holds places]
  rw [holds.endOffset_eq] at inside
  have before := places.before
  rw [extent_append] at before ⊢
  -- the tokens of the line that end before the offset do not start behind it
  have passed : (placed (extent lines) line).find? (fun entry => entry.1 ≥ offset) = none := by
    rw [List.find?_eq_none]
    rintro ⟨start, token⟩ listed
    have := bounds_of_mem_placed listed
    have := token.size_pos
    rw [decide_eq_true_eq]
    omega
  obtain ⟨first, others, rfl⟩ : ∃ first others, rest = first :: others := by
    refine List.exists_cons_of_ne_nil fun none => ?_
    have := places.rest_eq_nil_iff.1 none
    omega
  rw [placed_append, placed_cons]
  change Except.ok ((List.find? (fun entry => decide (entry.1 ≥ offset)) _).map Prod.fst ==
    some offset) = _
  rw [List.find?_append, passed, Option.none_or, List.find?_cons]
  by_cases start : offset = extent lines + extent line
  · simp [start]
  · have within := places.within first rfl
    rw [extent_append] at within
    have missed : decide (extent lines + extent line ≥ offset) = false := by
      rw [decide_eq_false_iff_not]
      omega
    simp only [missed, start, decide_false, Except.ok.injEq, beq_eq_false_iff_ne, ne_eq]
    intro found
    obtain ⟨⟨place, token⟩, found, rfl⟩ := Option.map_eq_some_iff.1 found
    have := bounds_of_mem_placed (List.mem_of_find?_eq_some found)
    omega

end LexedText

end FrontEnd
