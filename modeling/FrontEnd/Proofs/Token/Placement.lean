import Mathlib
import FrontEnd.Proofs.Token.Codec

/-!
Where the tokens of a stream start. Each takes up its size, so that a run of tokens starts behind
all that come before it, and reading from there gives the tokens of the run, as many as are wanted.
-/

namespace FrontEnd

namespace Token

variable {tokens front back : List Token} {token : Token} {offset place : Nat}

/-- How many bytes tokens take. -/
def extent (tokens : List Token) : Nat := (tokens.map size).sum

@[simp] theorem extent_nil : extent [] = 0 := rfl

@[simp] theorem extent_cons (token : Token) (tokens : List Token) :
    extent (token :: tokens) = token.size + extent tokens := by simp [extent]

@[simp] theorem extent_append (front back : List Token) :
    extent (front ++ back) = extent front + extent back := by simp [extent]

@[simp] theorem placed_nil (offset : Nat) : placed offset [] = [] := rfl

@[simp] theorem placed_cons (offset : Nat) (token : Token) (tokens : List Token) :
    placed offset (token :: tokens) = (offset, token) :: placed (offset + token.size) tokens := by
  rw [placed, length_encode]

theorem placed_append (offset : Nat) (front back : List Token) :
    placed offset (front ++ back) = placed offset front ++ placed (offset + extent front) back := by
  induction front generalizing offset with
  | nil => rfl
  | cons token front ih => simp [ih, Nat.add_assoc]

/-- The tokens that are placed are the given ones. -/
@[simp] theorem map_snd_placed (offset : Nat) (tokens : List Token) :
    (placed offset tokens).map Prod.snd = tokens := by
  induction tokens generalizing offset with
  | nil => rfl
  | cons token tokens ih => simp [ih]

/-- The first of the tokens that are placed. -/
theorem take_placed (offset : Nat) (tokens : List Token) (count : Nat) :
    (placed offset tokens).take count = placed offset (tokens.take count) := by
  induction tokens generalizing offset count with
  | nil => simp
  | cons token tokens ih => cases count <;> simp [ih]

/-- Each token lies between the start of the first and the end of the last. -/
theorem bounds_of_mem_placed (listed : (place, token) ∈ placed offset tokens) :
    offset ≤ place ∧ place + token.size ≤ offset + extent tokens := by
  induction tokens generalizing offset with
  | nil => cases listed
  | cons first tokens ih =>
    rw [placed_cons, List.mem_cons] at listed
    rw [extent_cons]
    rcases listed with same | later
    · cases same
      omega
    · obtain ⟨start, stop⟩ := ih later
      omega

end Token

namespace Stands

variable {bytes : Array UInt8} {offset : Nat} {front back : List Token} {rest : List UInt8}

/-- What stands behind some tokens. -/
theorem behind (stands : Stands bytes offset (front ++ back) rest) :
    Stands bytes (offset + Token.extent front) back rest := by
  induction front generalizing offset with
  | nil => exact stands
  | cons token front ih =>
    rw [Token.extent_cons, ← Nat.add_assoc]
    exact ih stands.tail

end Stands

namespace TokenStream

variable {bytes : Array UInt8} {offset : Nat} {tokens front back : List Token}
  {rest : List UInt8} {stream : TokenStream} {span : TokenSpan}

/-- Reading from the first of some tokens gives as many as are wanted. -/
theorem readSome_of_stands (stands : Stands bytes offset tokens rest) (count : Nat) :
    readSome bytes offset count = .ok (Token.placed offset (tokens.take count)) := by
  induction count generalizing offset tokens with
  | zero => rfl
  | succ count ih =>
    cases tokens with
    | nil =>
      simp only [readSome, stands.decode_nil]
      rfl
    | cons token tokens =>
      simp only [readSome, stands.decode_cons, stands.proper token List.mem_cons_self,
        ih stands.tail, List.take_succ_cons, Token.placed_cons]
      rfl

/-- A stream holds some tokens and nothing else, no more than 32 bits can count. -/
structure Holds (stream : TokenStream) (tokens : List Token) : Prop where
  stands : Stands stream.bytes 0 tokens []
  few : tokens.length < UInt32.size

/-- A stream as there are any: taken from bytes, or written to a buffer and closed. The number of
its tokens is kept in 32 bits. -/
inductive Made : TokenStream → Prop where
  | taken (bytes : Array UInt8) (stream : TokenStream) (given : ofBytes bytes = .ok stream)
      (few : stream.size < UInt32.size) : Made stream
  | written (tokens : List Token)
      (few : (({} : TokenBuffer).pushAll tokens).2.finish.size < UInt32.size) :
      Made (({} : TokenBuffer).pushAll tokens).2.finish

theorem Made.holds (made : Made stream) : ∃ tokens, stream.Holds tokens := by
  cases made with
  | taken bytes _ given few =>
    have small : bytes.size ≤ TokenSpan.maxStart + 1 := by
      by_contra large
      rw [ofBytes, if_pos (Nat.lt_of_not_le large)] at given
      cases given
    obtain ⟨tokens, stands, rfl⟩ := (ofBytes_eq_ok_iff small).1 given
    exact ⟨tokens, stands, few⟩
  | written tokens few =>
    rw [TokenBuffer.pushAll_proper] at few ⊢
    have proper : ∀ token ∈ tokens.filter fun token => !token.isEnd, token.isEnd = false :=
      fun token listed => by simpa using (List.mem_filter.1 listed).2
    obtain ⟨size, written⟩ := TokenBuffer.finish_pushAll _ proper
    exact ⟨_, spells_iff.1 ⟨proper, written⟩, size ▸ few⟩

namespace Holds

theorem tokens_eq (holds : stream.Holds tokens) : stream.tokens = .ok (Token.placed 0 tokens) := by
  rw [TokenStream.tokens, readAll_of_stands holds.stands]
  rfl

/-- The end mark lies behind all tokens. -/
theorem endOffset_eq (holds : stream.Holds tokens) : stream.endOffset = Token.extent tokens := by
  have stands : Stands stream.bytes 0 (tokens ++ []) [] := by
    rw [List.append_nil]
    exact holds.stands
  have length := stands.behind.length_rest
  rw [TokenStream.endOffset, ← length, List.length_nil]
  omega

/-- Reading a span that starts at a token or at the end mark. -/
theorem tokensIn_eq (holds : stream.Holds (front ++ back))
    (start : span.start = Token.extent front) :
    stream.tokensIn span = .ok (Token.placed span.start (back.take span.count)) := by
  have stop := holds.endOffset_eq
  rw [Token.extent_append] at stop
  have stands := holds.stands.behind
  rw [Nat.zero_add, ← start] at stands
  rw [TokenStream.tokensIn, if_neg (by omega), readSome_of_stands stands]
  rfl

/-- The token behind some others is read where they end. -/
theorem tokenAt_eq {token : Token} (holds : stream.Holds (front ++ token :: back)) :
    stream.tokenAt (Token.extent front) = .ok token := by
  have stands := holds.stands.behind
  rw [Nat.zero_add] at stands
  exact stands.decode_cons

end Holds

end TokenStream

end FrontEnd
