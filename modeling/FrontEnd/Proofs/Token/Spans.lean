import Mathlib
import FrontEnd.Proofs.Token.Placement

/-!
Spans as slices of the list of all tokens. A span that starts at one of them reads a slice of the
list, which stops at its end, so that texts are put together the way slices are. Extending a span
gives the slice that reaches as far as both, and nothing shorter has the tokens of both.
-/

namespace FrontEnd

namespace Token

variable {tokens : List Token} {offset : Nat}

/-- Some of the tokens that are placed, without the first. -/
theorem drop_placed (offset : Nat) (tokens : List Token) (index : Nat) :
    (placed offset tokens).drop index =
      placed (offset + extent (tokens.take index)) (tokens.drop index) := by
  induction tokens generalizing offset index with
  | nil => simp
  | cons token tokens ih => cases index <;> simp [ih, Nat.add_assoc]

/-- Each token starts where those before it end, and so does what follows the last. -/
theorem getD_placed (offset : Nat) (tokens : List Token) (index : Nat) :
    ((placed offset tokens).map Prod.fst).getD index (offset + extent tokens) =
      offset + extent (tokens.take index) := by
  induction tokens generalizing offset index with
  | nil => simp
  | cons token tokens ih =>
    cases index with
    | zero => simp
    | succ index => simpa [Nat.add_assoc] using ih (offset + token.size) index

end Token

namespace TokenStream

variable {stream : TokenStream} {tokens : List Token} {names : Interner}
  {listed : List (Nat × Token)} {index between count reach : Nat}

/-! ### Texts of slices -/

@[simp] theorem textOf_nil (names : Interner) : textOf names [] = "" := rfl

@[simp] theorem textOf_cons (names : Interner) (entry : Nat × Token)
    (listed : List (Nat × Token)) :
    textOf names (entry :: listed) = entry.2.text names ++ textOf names listed :=
  String.join_cons

@[simp] theorem textOf_append (names : Interner) (front back : List (Nat × Token)) :
    textOf names (front ++ back) = textOf names front ++ textOf names back := by
  simp only [textOf, List.map_append, String.join_append]

theorem textOf_eq_empty_iff :
    textOf names listed = "" ↔ ∀ entry ∈ listed, entry.2.text names = "" := by
  induction listed with
  | nil => simp
  | cons entry listed ih => simp [ih]

/-- The text of a slice, in two parts. -/
theorem textOf_take (names : Interner) (listed : List (Nat × Token)) {reach count : Nat}
    (less : reach ≤ count) :
    textOf names (listed.take count) =
      textOf names (listed.take reach) ++ textOf names ((listed.take count).drop reach) := by
  conv_lhs => rw [← List.take_append_drop reach (listed.take count), textOf_append,
    List.take_take, Nat.min_eq_left less]

/-- The text of a slice starts with that of a second one from the same token exactly if the tokens
that only the second has write nothing. -/
theorem exists_textOf_take_iff :
    (∃ after, textOf names (listed.take reach) = textOf names (listed.take count) ++ after) ↔
      textOf names ((listed.take count).drop reach) = "" := by
  rcases Nat.le_total count reach with less | more
  · have none : (listed.take count).drop reach = [] := by simp; omega
    simp [none, textOf_take names listed less]
  · rw [textOf_take names listed more]
    constructor
    · rintro ⟨after, same⟩
      rw [String.append_assoc, eq_comm, String.append_eq_left_iff, String.append_eq_empty_iff]
        at same
      exact same.1
    · intro none
      exact ⟨"", by simp [none]⟩

/-! ### Reading a slice -/

/-- The span of so many tokens from the one at a place in the list of all; from the end mark for
the place behind the last. -/
def spanAt (stream : TokenStream) (listed : List (Nat × Token)) (index count : Nat) : TokenSpan :=
  ⟨(listed.map Prod.fst).getD index stream.endOffset, count⟩

/-- A span that starts at a token reads the tokens from there on, as many as there are. -/
theorem tokensIn_spanAt (holds : stream.Holds tokens) (index count : Nat) :
    stream.tokensIn (stream.spanAt (Token.placed 0 tokens) index count) =
      .ok (((Token.placed 0 tokens).drop index).take count) := by
  have start : ((Token.placed 0 tokens).map Prod.fst).getD index stream.endOffset =
      Token.extent (tokens.take index) := by
    simpa [holds.endOffset_eq] using Token.getD_placed 0 tokens index
  have parted : stream.Holds (tokens.take index ++ tokens.drop index) := by
    rwa [List.take_append_drop]
  rw [spanAt, parted.tokensIn_eq start, start, Token.drop_placed, Nat.zero_add, Token.take_placed]

theorem spanText_spanAt (holds : stream.Holds tokens) (names : Interner) (index count : Nat) :
    stream.spanText names (stream.spanAt (Token.placed 0 tokens) index count) =
      .ok (textOf names (((Token.placed 0 tokens).drop index).take count)) := by
  rw [spanText, tokensIn_spanAt holds]
  rfl

/-! ### Covering -/

/-- A span has all tokens of another one, which starts so many tokens behind it. -/
def Covers (stream : TokenStream) (whole : TokenSpan) (between : Nat) (part : TokenSpan) : Prop :=
  ∃ all own, stream.tokensIn whole = .ok all ∧ stream.tokensIn part = .ok own ∧
    own <+: all.drop between

/-- The text of a span has that of another one at its place, which is behind the text of the tokens
between the two starts. -/
def Shows (stream : TokenStream) (names : Interner) (whole : TokenSpan) (between : Nat)
    (part : TokenSpan) : Prop :=
  ∃ before own after, stream.spanText names ⟨whole.start, between⟩ = .ok before ∧
    stream.spanText names part = .ok own ∧
    stream.spanText names whole = .ok (before ++ own ++ after)

theorem covers_spanAt_iff (holds : stream.Holds tokens) :
    stream.Covers (stream.spanAt (Token.placed 0 tokens) index reach) between
        (stream.spanAt (Token.placed 0 tokens) (index + between) count) ↔
      count ≤ reach - between ∨ tokens.length - (index + between) ≤ reach - between := by
  have length : ((Token.placed 0 tokens).drop (index + between)).length =
      tokens.length - (index + between) := by
    rw [List.length_drop, ← List.length_map Prod.snd, Token.map_snd_placed]
  simp only [Covers, tokensIn_spanAt holds, Except.ok.injEq, exists_eq_left', exists_and_left,
    List.drop_take, List.drop_drop, List.take_isPrefix_take, length]

theorem shows_spanAt_iff (holds : stream.Holds tokens) :
    stream.Shows names (stream.spanAt (Token.placed 0 tokens) index reach) between
        (stream.spanAt (Token.placed 0 tokens) (index + between) count) ↔
      textOf names ((((Token.placed 0 tokens).drop index).take (between + count)).drop reach) =
        "" := by
  have before : stream.spanText names ⟨(stream.spanAt (Token.placed 0 tokens) index reach).start,
      between⟩ = .ok (textOf names (((Token.placed 0 tokens).drop index).take between)) :=
    spanText_spanAt holds names index between
  rw [← exists_textOf_take_iff]
  simp only [Shows, before, spanText_spanAt holds, Except.ok.injEq, exists_eq_left',
    exists_and_left, List.take_add, textOf_append, List.drop_drop]

/-- Extending a span, as long as its count fits. -/
theorem extend_spanAt (first second : Nat) (stream : TokenStream) (listed : List (Nat × Token))
    (index between count : Nat) (fits : between + count < UInt32.size) :
    (stream.spanAt listed index first).extend between (stream.spanAt listed second count) =
      stream.spanAt listed index (max (between + count) first) := by
  rw [spanAt, spanAt, TokenSpan.extend, Nat.mod_eq_of_lt fits]
  rfl

/-- A span from the same token has the tokens of two others, the second of which starts inside of the
first or right behind it, exactly if it reaches as far as both or to the end. -/
theorem covers_both_iff (holds : stream.Holds tokens) {first second : Nat}
    (inside : index + between ≤ tokens.length) (near : between ≤ first) :
    stream.Covers (stream.spanAt (Token.placed 0 tokens) index reach) 0
          (stream.spanAt (Token.placed 0 tokens) index first) ∧
        stream.Covers (stream.spanAt (Token.placed 0 tokens) index reach) between
          (stream.spanAt (Token.placed 0 tokens) (index + between) second) ↔
      min (max (between + second) first) (tokens.length - index) ≤ reach := by
  rw [show index = index + 0 from rfl, covers_spanAt_iff holds, Nat.add_zero,
    covers_spanAt_iff holds]
  omega

/-- It shows the texts of both exactly if the tokens that it leaves out write nothing. -/
theorem shows_both_iff (holds : stream.Holds tokens) {first second : Nat} :
    stream.Shows names (stream.spanAt (Token.placed 0 tokens) index reach) 0
          (stream.spanAt (Token.placed 0 tokens) index first) ∧
        stream.Shows names (stream.spanAt (Token.placed 0 tokens) index reach) between
          (stream.spanAt (Token.placed 0 tokens) (index + between) second) ↔
      ∀ entry ∈ (((Token.placed 0 tokens).drop index).take (max (between + second) first)).drop
        reach, entry.2.text names = "" := by
  rw [show index = index + 0 from rfl, shows_spanAt_iff holds, Nat.add_zero,
    shows_spanAt_iff holds, Nat.zero_add, textOf_eq_empty_iff, textOf_eq_empty_iff]
  -- the longer of the two slices has what is left out of the shorter
  have longer {few many : Nat} (less : few ≤ many) (entry : Nat × Token)
      (left : entry ∈ (((Token.placed 0 tokens).drop index).take few).drop reach) :
      entry ∈ (((Token.placed 0 tokens).drop index).take many).drop reach := by
    rw [List.drop_take] at left ⊢
    exact (List.take_prefix_take_left (Nat.sub_le_sub_right less reach)).subset left
  constructor
  · rintro ⟨none, none'⟩
    rcases Nat.le_total (between + second) first with less | more
    · rwa [Nat.max_eq_right less]
    · rwa [Nat.max_eq_left more]
  · intro none
    exact ⟨fun entry left => none entry (longer (Nat.le_max_right ..) entry left),
      fun entry left => none entry (longer (Nat.le_max_left ..) entry left)⟩

/-- Texts of spans are put together as their tokens are. A span from the token at a place writes what
the tokens from there on write, as many as it counts, or as there are; this is the whole text, cut
before and behind these tokens. Two spans, the second of which starts behind the tokens of the first,
write the text of the span with the tokens of both. And a span that is extended to a second one,
which starts inside of it or right behind it, starts where it did and is the shortest that has the
tokens of both, up to counts that lead past the end. Its text has both texts at their places; that of
a shorter span has them only if all tokens that it leaves out write nothing. -/
theorem spanText_slices (made : stream.Made) : ∃ listed, stream.tokens = .ok listed ∧
    ∀ names index,
      (∀ count, stream.spanText names (stream.spanAt listed index count) =
        .ok (textOf names ((listed.drop index).take count))) ∧
      (∀ count, index + count ≤ listed.length → stream.render names = .ok (
        textOf names (listed.take index) ++ textOf names ((listed.drop index).take count) ++
          textOf names (listed.drop (index + count)))) ∧
      (∀ first second, ∃ text text',
        stream.spanText names (stream.spanAt listed index first) = .ok text ∧
        stream.spanText names (stream.spanAt listed (index + first) second) = .ok text' ∧
        stream.spanText names (stream.spanAt listed index (first + second)) =
          .ok (text ++ text')) ∧
      (∀ count, listed.length - index ≤ count →
        stream.tokensIn (stream.spanAt listed index count) = .ok (listed.drop index)) ∧
      ∀ between first second, index + between ≤ listed.length → between ≤ first →
        between + second < UInt32.size →
        ∃ whole, (stream.spanAt listed index first).extend between
            (stream.spanAt listed (index + between) second) = stream.spanAt listed index whole ∧
          ∀ count,
            (stream.Covers (stream.spanAt listed index count) 0
                  (stream.spanAt listed index first) ∧
                stream.Covers (stream.spanAt listed index count) between
                  (stream.spanAt listed (index + between) second) ↔
              min whole (listed.length - index) ≤ count) ∧
            (stream.Shows names (stream.spanAt listed index count) 0
                  (stream.spanAt listed index first) ∧
                stream.Shows names (stream.spanAt listed index count) between
                  (stream.spanAt listed (index + between) second) ↔
              ∀ entry ∈ ((listed.drop index).take whole).drop count, entry.2.text names = "") := by
  obtain ⟨tokens, holds⟩ := made.holds
  have length : (Token.placed 0 tokens).length = tokens.length := by
    rw [← List.length_map Prod.snd, Token.map_snd_placed]
  refine ⟨Token.placed 0 tokens, holds.tokens_eq, fun names index =>
    ⟨spanText_spanAt holds names index, fun count _ => ?_, fun first second => ?_,
      fun count past => ?_, fun between first second inside near fits => ?_⟩⟩
  · rw [render, holds.tokens_eq, ← textOf_append, ← List.take_add, ← textOf_append,
      List.take_append_drop]
    rfl
  · refine ⟨_, _, spanText_spanAt holds names index first,
      spanText_spanAt holds names (index + first) second, ?_⟩
    rw [spanText_spanAt holds, List.take_add, textOf_append, List.drop_drop]
  · rw [tokensIn_spanAt holds, List.take_of_length_le (by rwa [List.length_drop])]
  · refine ⟨_, extend_spanAt first _ stream _ index between second fits, fun count => ⟨?_, ?_⟩⟩
    · rw [length] at inside ⊢
      exact covers_both_iff holds inside near
    · exact shows_both_iff holds

/-- Two spaces, a newline and an indentation: the first two extended to the last two are all three,
and what they write. -/
theorem spanText_slices_indented :
    let stream := (({} : TokenBuffer).pushAll
      [.whitespace 2, ⟨.newline, .none, rfl⟩, .indent 1]).2.finish
    stream.Made ∧ ((⟨0, 2⟩ : TokenSpan).extend 1 ⟨2, 2⟩) = ⟨0, 3⟩ ∧
      (∀ names, stream.spanText names ⟨0, 3⟩ = .ok "  \n    ") ∧
      ∀ names count, count < 3 → ¬(stream.Shows names ⟨0, count⟩ 0 ⟨0, 2⟩ ∧
        stream.Shows names ⟨0, count⟩ 1 ⟨2, 2⟩) := by
  intro stream
  have made : stream.Made := .written _ (by decide)
  obtain ⟨listed, read, slices⟩ := spanText_slices made
  have three : stream.tokens =
      .ok [(0, .whitespace 2), (2, ⟨.newline, .none, rfl⟩), (3, .indent 1)] := by cbv
  obtain rfl := Except.ok.inj (three.symm.trans read)
  refine ⟨made, rfl, fun names => ((slices names 0).1 3).trans (by cbv), ?_⟩
  intro names count less both
  obtain ⟨whole, same, shortest⟩ :=
    (slices names 0).2.2.2.2 1 2 2 (by decide) (by decide) (by decide)
  obtain rfl : 3 = whole := congrArg TokenSpan.count same
  have left : (3, Token.indent 1) ∈ ([(0, Token.whitespace 2), (2, ⟨.newline, .none, rfl⟩),
      (3, Token.indent 1)].drop 0 |>.take 3).drop count := by
    interval_cases count <;> decide
  have none : (Token.indent 1).text names = "" := (shortest count).2.1 both _ left
  have indented : (Token.indent 1).text names = "    " := rfl
  rw [indented] at none
  exact absurd none (by decide)

/-- A newline and an indentation of no depth, which writes nothing: the first token alone shows the
texts of both, but extended to the second it is two tokens long. -/
theorem extend_longer_than_shown :
    let stream := (({} : TokenBuffer).pushAll
      [⟨.newline, .none, rfl⟩, .indent 0]).2.finish
    stream.Made ∧ ((⟨0, 1⟩ : TokenSpan).extend 1 ⟨1, 1⟩) = ⟨0, 2⟩ ∧
      ∀ names, stream.Shows names ⟨0, 1⟩ 0 ⟨0, 1⟩ ∧ stream.Shows names ⟨0, 1⟩ 1 ⟨1, 1⟩ := by
  intro stream
  have made : stream.Made := .written _ (by decide)
  have first (names : Interner) : stream.spanText names ⟨0, 1⟩ = .ok "\n" := by cbv
  have second (names : Interner) : stream.spanText names ⟨1, 1⟩ = .ok "" := by cbv
  have none (names : Interner) : stream.spanText names ⟨0, 0⟩ = .ok "" := by cbv
  exact ⟨made, rfl, fun names => ⟨⟨"", "\n", "", none names, first names, first names⟩,
    "\n", "", "", first names, second names, first names⟩⟩

end TokenStream

end FrontEnd
