import FrontEnd.Token.Stream
import Mathlib.Data.List.Basic

/-!
Tokens and streams as bytes. What is written reads back, and what can be read was written, so that
bytes are a stream exactly if they are the encodings of some tokens with the end mark behind them.
Since a token is read off its first bytes, there is only one way to read a stream.
-/

namespace FrontEnd

/-! ### Names in two bytes -/

theorem toNat_word (low high : UInt8) :
    (low.toUInt16 ||| (high.toUInt16 <<< 8)).toNat = 256 * high.toNat + low.toNat := by
  have less := low.toNat_lt
  have less' := high.toNat_lt
  have shifted : (high.toUInt16 <<< (8 : UInt16)).toNat = high.toNat <<< 8 := by
    simp only [UInt16.toNat_shiftLeft, UInt8.toNat_toUInt16, Nat.shiftLeft_eq]
    exact Nat.mod_eq_of_lt (by simp; omega)
  rw [UInt16.toNat_or, shifted, UInt8.toNat_toUInt16, Nat.or_comm,
    ← Nat.shiftLeft_add_eq_or_of_lt less, Nat.shiftLeft_eq]
  omega

theorem toNat_high (word : UInt16) : (word >>> 8).toUInt8.toNat = word.toNat / 256 := by
  have less := word.toNat_lt
  simp only [UInt16.toNat_toUInt8, UInt16.toNat_shiftRight, Nat.shiftRight_eq_div_pow]
  simp
  omega

/-- The two bytes of a name give the name back. -/
theorem Name.ofRaw_bytes (name : Name) :
    ofRaw (name.raw.toUInt8.toUInt16 ||| ((name.raw >>> 8).toUInt8.toUInt16 <<< 8)) = name := by
  have joined : name.raw.toUInt8.toUInt16 ||| ((name.raw >>> 8).toUInt8.toUInt16 <<< 8) =
      name.raw := by
    apply UInt16.toNat_inj.1
    rw [toNat_word, toNat_high, UInt16.toNat_toUInt8]
    omega
  rw [joined, ofRaw_raw]

/-- Any two bytes are those of a name. -/
theorem TokenPayload.bytes_name (low high : UInt8) :
    (TokenPayload.name (.ofRaw (low.toUInt16 ||| (high.toUInt16 <<< 8)))).bytes = [low, high] := by
  have less := low.toNat_lt
  rw [bytes, Name.raw_ofRaw]
  congr 2
  · apply UInt8.toNat_inj.1
    rw [UInt16.toNat_toUInt8, toNat_word]
    omega
  · apply UInt8.toNat_inj.1
    rw [toNat_high, toNat_word]
    omega

namespace Token

variable {bytes : Array UInt8} {offset : Nat} {rest : List UInt8} {token : Token}

theorem getElem?_of_drop {items : List UInt8} (stands : bytes.toList.drop offset = items)
    (index : Nat) : bytes[offset + index]? = items[index]? := by
  rw [← stands, List.getElem?_drop, Array.getElem?_toList]

theorem drop_of_getElem? {byte : UInt8} (present : bytes[offset]? = some byte) :
    bytes.toList.drop offset = byte :: bytes.toList.drop (offset + 1) := by
  obtain ⟨inside, rfl⟩ := Array.getElem?_eq_some_iff.1 present
  rw [List.drop_eq_getElem_cons (by simpa using inside), Array.getElem_toList]

/-- A payload that stands at an offset is read there. -/
theorem decodePayload?_of_drop {payload : TokenPayload} {shape : PayloadClass}
    (fits : payload.shape = shape) (stands : bytes.toList.drop offset = payload.bytes ++ rest) :
    decodePayload? bytes offset shape = some ⟨payload, fits⟩ := by
  subst fits
  have first := getElem?_of_drop stands 0
  have second := getElem?_of_drop stands 1
  cases payload with
  | none => rfl
  | count value =>
    have present : bytes[offset]? = some value := first
    simp only [TokenPayload.shape, decodePayload?, present]
    rfl
  | name value =>
    have low : bytes[offset]? = some value.raw.toUInt8 := first
    have high : bytes[offset + 1]? = some (value.raw >>> 8).toUInt8 := second
    simp only [TokenPayload.shape, decodePayload?, low, high]
    exact congrArg some (Subtype.ext (congrArg TokenPayload.name (Name.ofRaw_bytes value)))

/-- A payload that is read stands where it is read. -/
theorem drop_of_decodePayload? {shape : PayloadClass}
    {payload : { payload : TokenPayload // payload.shape = shape }}
    (read : decodePayload? bytes offset shape = some payload) :
    ∃ rest, bytes.toList.drop offset = payload.val.bytes ++ rest := by
  cases shape with
  | none =>
    cases read
    exact ⟨_, rfl⟩
  | count =>
    obtain ⟨value, present, same⟩ := Option.bind_eq_some_iff.1 read
    cases same
    exact ⟨_, drop_of_getElem? present⟩
  | name =>
    obtain ⟨low, present, read⟩ := Option.bind_eq_some_iff.1 read
    obtain ⟨high, present', same⟩ := Option.bind_eq_some_iff.1 read
    cases same
    refine ⟨bytes.toList.drop (offset + 2), ?_⟩
    rw [TokenPayload.bytes_name, drop_of_getElem? present, drop_of_getElem? present']
    rfl

/-- A token that stands at an offset is read there. -/
theorem decode_of_drop (stands : bytes.toList.drop offset = token.encode ++ rest) :
    decode bytes offset = .ok token := by
  obtain ⟨kind, payload, fits⟩ := token
  have first : bytes[offset]? = some kind.byte := getElem?_of_drop stands 0
  have behind : bytes.toList.drop (offset + 1) = payload.bytes ++ rest := by
    rw [← List.drop_drop, stands]
    rfl
  simp only [decode, first, TokenKind.ofByte?_byte, decodePayload?_of_drop fits behind]

/-- A token that is read stands where it is read. -/
theorem drop_of_decode (read : decode bytes offset = .ok token) :
    ∃ rest, bytes.toList.drop offset = token.encode ++ rest := by
  unfold decode at read
  split at read
  · cases read
  · rename_i byte present
    split at read
    · cases read
    · rename_i kind known
      split at read
      · cases read
      · rename_i payload payloadRead
        cases read
        obtain ⟨rest, behind⟩ := drop_of_decodePayload? payloadRead
        refine ⟨rest, ?_⟩
        rw [drop_of_getElem? present, behind, ← TokenKind.byte_of_ofByte? known]
        rfl

/-- The end mark is written as a zero byte. -/
theorem encode_of_isEnd (isEnd : token.isEnd = true) : token.encode = [0] := by
  obtain ⟨kind, payload, fits⟩ := token
  obtain rfl : kind = .endOfStream := eq_of_beq isEnd
  cases payload with
  | none => rfl
  | count | name => cases fits

/-- Tokens with the offsets at which their encodings start, the first at a given offset. -/
def placed (offset : Nat) : List Token → List (Nat × Token)
  | [] => []
  | token :: rest => (offset, token) :: placed (offset + token.encode.length) rest

end Token

/-- From an offset on there are the encodings of tokens, none of them the end mark, then the zero byte,
then the rest. -/
structure Stands (bytes : Array UInt8) (offset : Nat) (tokens : List Token) (rest : List UInt8) :
    Prop where
  proper : ∀ token ∈ tokens, token.isEnd = false
  bytes : bytes.toList.drop offset = tokens.flatMap Token.encode ++ 0 :: rest

namespace Stands

variable {bytes : Array UInt8} {offset : Nat} {tokens : List Token} {rest : List UInt8}
  {token : Token}

theorem decode_nil (stands : Stands bytes offset [] rest) :
    Token.decode bytes offset = .ok .endOfStream :=
  Token.decode_of_drop stands.bytes

theorem decode_cons (stands : Stands bytes offset (token :: tokens) rest) :
    Token.decode bytes offset = .ok token := by
  have first : bytes.toList.drop offset =
      token.encode ++ (tokens.flatMap Token.encode ++ 0 :: rest) := by
    rw [stands.bytes, List.flatMap_cons, List.append_assoc]
  exact Token.decode_of_drop first

theorem tail (stands : Stands bytes offset (token :: tokens) rest) :
    Stands bytes (offset + token.size) tokens rest where
  proper other listed := stands.proper other (.tail _ listed)
  bytes := by
    rw [← List.drop_drop, stands.bytes, List.flatMap_cons, List.append_assoc, ← token.length_encode,
      List.drop_left]

/-- Only one list of tokens stands in one place. -/
theorem unique {others : List Token} {rest' : List UInt8} (stands : Stands bytes offset tokens rest)
    (stands' : Stands bytes offset others rest') : others = tokens := by
  induction tokens generalizing offset others with
  | nil =>
    cases others with
    | nil => rfl
    | cons other others =>
      have same := stands'.decode_cons.symm.trans stands.decode_nil
      have mark := stands'.proper other List.mem_cons_self
      rw [Except.ok.inj same] at mark
      cases mark
  | cons token tokens ih =>
    cases others with
    | nil =>
      have same := stands.decode_cons.symm.trans stands'.decode_nil
      have mark := stands.proper token List.mem_cons_self
      rw [Except.ok.inj same] at mark
      cases mark
    | cons other others =>
      obtain rfl : other = token := Except.ok.inj (stands'.decode_cons.symm.trans stands.decode_cons)
      rw [ih stands.tail stands'.tail]

theorem length_rest (stands : Stands bytes offset [] rest) :
    offset + 1 + rest.length = bytes.size := by
  have length := congrArg List.length stands.bytes
  simp only [List.length_drop, Array.length_toList, List.flatMap_nil, List.nil_append,
    List.length_cons] at length
  have inside := Token.lt_size_of_decode stands.decode_nil
  omega

end Stands

namespace TokenStream

variable {bytes : Array UInt8} {offset count : Nat} {tokens : List Token} {rest : List UInt8}

/-! ### Taking bytes as a stream -/

/-- A scan goes on behind the token that is read, unless it is the end mark. -/
theorem scan_of_decode {token : Token} (read : Token.decode bytes offset = .ok token) :
    scan bytes offset count = if token.isEnd then .ok (count, offset + token.size)
      else scan bytes (offset + token.size) (count + 1) := by
  have inside := Token.lt_size_of_decode read
  rw [scan, if_neg (by omega)]
  split
  · rename_i err failed
    rw [read] at failed
    cases failed
  · rename_i token' found
    obtain rfl : token' = token := Except.ok.inj (found.symm.trans read)
    rfl

theorem scan_of_stands (stands : Stands bytes offset tokens rest) (count : Nat) :
    scan bytes offset count = .ok (count + tokens.length, bytes.size - rest.length) := by
  induction tokens generalizing offset count with
  | nil =>
    have stop : offset + Token.endOfStream.size = bytes.size - rest.length := by
      rw [← stands.length_rest]
      exact (Nat.add_sub_cancel ..).symm
    rw [scan_of_decode stands.decode_nil, if_pos (show Token.endOfStream.isEnd = true from rfl), stop]
    rfl
  | cons token tokens ih =>
    have proper := stands.proper token List.mem_cons_self
    rw [scan_of_decode stands.decode_cons, if_neg (by simp [proper]), ih stands.tail,
      List.length_cons, Nat.add_right_comm, Nat.add_assoc]

theorem stands_of_scan {total stop : Nat} (scanned : scan bytes offset count = .ok (total, stop)) :
    ∃ tokens rest, Stands bytes offset tokens rest ∧ total = count + tokens.length ∧
      stop + rest.length = bytes.size := by
  fun_induction scan bytes offset count with
  | case1 offset count outside => cases scanned
  | case2 offset count inside err failed => cases scanned
  | case3 offset count inside token read below positive isEnd =>
    cases scanned
    obtain ⟨rest, stands⟩ := Token.drop_of_decode read
    rw [Token.encode_of_isEnd isEnd] at stands
    have here : Stands bytes offset [] rest := ⟨by simp, stands⟩
    refine ⟨[], rest, here, rfl, ?_⟩
    rw [← here.length_rest, ← Token.length_encode, Token.encode_of_isEnd isEnd]
    rfl
  | case4 offset count inside token read below positive proper ih =>
    obtain ⟨tokens, rest, stands, rfl, stop⟩ := ih scanned
    obtain ⟨rest', first⟩ := Token.drop_of_decode read
    refine ⟨token :: tokens, rest, ⟨?_, ?_⟩, ?_, stop⟩
    · intro other listed
      rcases List.mem_cons.1 listed with rfl | listed
      · simpa using proper
      · exact stands.proper other listed
    · have behind := stands.bytes
      rw [← List.drop_drop, first, ← token.length_encode, List.drop_left] at behind
      rw [first, behind, List.flatMap_cons, List.append_assoc]
    · rw [List.length_cons, Nat.add_right_comm, Nat.add_assoc]

/-- Bytes are a stream exactly if they are some tokens with the end mark behind them. -/
theorem ofBytes_eq_ok_iff {stream : TokenStream} (small : bytes.size ≤ TokenSpan.maxStart + 1) :
    ofBytes bytes = .ok stream ↔
      ∃ tokens, Stands bytes 0 tokens [] ∧ stream = ⟨bytes, tokens.length⟩ := by
  rw [ofBytes, if_neg (by omega)]
  constructor
  · intro taken
    split at taken
    · cases taken
    · rename_i count stop scanned
      split at taken
      · rename_i whole
        obtain ⟨tokens, rest, stands, rfl, length⟩ := stands_of_scan scanned
        obtain rfl : rest = [] := List.eq_nil_of_length_eq_zero (by omega)
        cases taken
        rw [Nat.zero_add]
        exact ⟨tokens, stands, rfl⟩
      · cases taken
  · rintro ⟨tokens, stands, rfl⟩
    rw [scan_of_stands stands 0]
    simp

/-- Reading goes on behind the token that is read, unless it is the end mark. -/
theorem readAll_of_decode {token : Token} (read : Token.decode bytes offset = .ok token) :
    readAll bytes offset = if token.isEnd then .ok []
      else (readAll bytes (offset + token.size)).map ((offset, token) :: ·) := by
  rw [readAll]
  split
  · rename_i err failed
    rw [read] at failed
    cases failed
  · rename_i token' found
    obtain rfl : token' = token := Except.ok.inj (found.symm.trans read)
    rfl

/-- Reading on from the first token gives them all. -/
theorem readAll_of_stands (stands : Stands bytes offset tokens rest) :
    readAll bytes offset = .ok (Token.placed offset tokens) := by
  induction tokens generalizing offset with
  | nil => exact readAll_of_decode stands.decode_nil
  | cons token tokens ih =>
    have proper := stands.proper token List.mem_cons_self
    rw [readAll_of_decode stands.decode_cons, if_neg (by simp [proper]), ih stands.tail,
      Token.placed, Token.length_encode]
    rfl

end TokenStream

namespace TokenCursor

variable {bytes : Array UInt8} {offset : Nat} {tokens : List Token} {rest : List UInt8}

/-- What so many calls of `next` give, one after the other. -/
def calls (bytes : Array UInt8) : Nat → TokenCursor → Except TokenError (List (Option (Nat × Token)))
  | 0, _ => .ok []
  | count + 1, cursor => do
    let (given, cursor) ← cursor.next bytes
    return given :: (← calls bytes count cursor)

/-- Each call gives the next token as long as there are any, and nothing from then on. -/
theorem calls_of_stands (stands : Stands bytes offset tokens rest) (count : Nat) :
    calls bytes count { offset } =
      .ok ((List.range count).map fun index => (Token.placed offset tokens)[index]?) := by
  induction count generalizing offset tokens with
  | zero => rfl
  | succ count ih =>
    rw [List.range_succ_eq_map, List.map_cons, List.map_map]
    cases tokens with
    | nil =>
      have step : ({ offset } : TokenCursor).next bytes = .ok (none, { offset }) := by
        simp only [next, stands.decode_nil]
        rfl
      rw [calls, step]
      change (calls bytes count { offset } >>= fun others => pure (none :: others)) = _
      rw [ih stands]
      rfl
    | cons token tokens =>
      have step : ({ offset } : TokenCursor).next bytes =
          .ok (some (offset, token), { offset := offset + token.size }) := by
        simp only [next, stands.decode_cons, stands.proper token List.mem_cons_self]
        rfl
      rw [calls, step]
      change (calls bytes count { offset := offset + token.size } >>=
        fun others => pure (some (offset, token) :: others)) = _
      rw [ih stands.tail, Token.placed, Token.length_encode]
      rfl

end TokenCursor

namespace TokenBuffer

/-- Writes tokens one after the other and gives their offsets. -/
def pushAll (buffer : TokenBuffer) : List Token → List Nat × TokenBuffer
  | [] => ([], buffer)
  | token :: rest =>
    let (offset, buffer) := buffer.push token
    let (offsets, buffer) := buffer.pushAll rest
    (offset :: offsets, buffer)

/-- What is left of a run if the end marks in it are not written. -/
theorem pushAll_proper (buffer : TokenBuffer) (tokens : List Token) :
    (buffer.pushAll tokens).2 = (buffer.pushAll (tokens.filter fun token => !token.isEnd)).2 := by
  induction tokens generalizing buffer with
  | nil => rfl
  | cons token rest ih =>
    cases isEnd : token.isEnd with
    | true =>
      have same : (buffer.push token).2 = buffer := by rw [push, if_pos isEnd]
      rw [List.filter_cons_of_neg (by simp [isEnd]), ← ih buffer]
      exact congrArg (fun buffer => (pushAll buffer rest).2) same
    | false =>
      rw [List.filter_cons_of_pos (by simp [isEnd])]
      exact ih _

/-- Tokens are written one behind the other. -/
theorem pushAll_eq (buffer : TokenBuffer) (tokens : List Token)
    (proper : ∀ token ∈ tokens, token.isEnd = false) : buffer.pushAll tokens =
      ((Token.placed buffer.bytes.size tokens).map Prod.fst,
        ⟨buffer.bytes ++ tokens.flatMap Token.encode, buffer.size + tokens.length⟩) := by
  induction tokens generalizing buffer with
  | nil => simp [pushAll, Token.placed]
  | cons token rest ih =>
    have first : buffer.push token =
        (buffer.bytes.size, ⟨buffer.bytes ++ token.encode, buffer.size + 1⟩) := by
      rw [push, if_neg (by simp [proper token List.mem_cons_self])]
      rfl
    have others := ih ⟨buffer.bytes ++ token.encode, buffer.size + 1⟩
      fun other listed => proper other (.tail _ listed)
    have size : (buffer.bytes ++ token.encode).size = buffer.bytes.size + token.encode.length := by
      rw [← Array.length_toList, Array.toList_appendList, List.length_append, Array.length_toList]
    have written : buffer.bytes ++ token.encode ++ rest.flatMap Token.encode =
        buffer.bytes ++ (token :: rest).flatMap Token.encode := by
      apply Array.toList_inj.1
      simp only [Array.toList_appendList, List.flatMap_cons, List.append_assoc]
    simp only [pushAll, first, others, Token.placed, List.map_cons, size, written, List.length_cons]
    rw [Nat.add_right_comm, Nat.add_assoc]

theorem offsets_proper (tokens : List Token) (proper : ∀ token ∈ tokens, token.isEnd = false) :
    (({} : TokenBuffer).pushAll tokens).1 = (Token.placed 0 tokens).map Prod.fst := by
  rw [pushAll_eq _ _ proper]
  rfl

/-- What was written stands in the finished stream. -/
theorem finish_pushAll (tokens : List Token) (proper : ∀ token ∈ tokens, token.isEnd = false) :
    (({} : TokenBuffer).pushAll tokens).2.finish.size = tokens.length ∧
      (({} : TokenBuffer).pushAll tokens).2.finish.bytes.toList =
        tokens.flatMap Token.encode ++ [0] := by
  rw [pushAll_eq _ _ proper]
  refine ⟨Nat.zero_add _, ?_⟩
  simp only [finish, Array.toList_appendList]
  rfl

end TokenBuffer

namespace TokenStream

/-- Some tokens, none of them the end mark, are written in bytes one after the other, and the zero byte
stands behind them. -/
def Spells (tokens : List Token) (bytes : Array UInt8) : Prop :=
  (∀ token ∈ tokens, token.isEnd = false) ∧ bytes.toList = tokens.flatMap Token.encode ++ [0]

theorem spells_iff {tokens : List Token} {bytes : Array UInt8} :
    Spells tokens bytes ↔ Stands bytes 0 tokens [] :=
  ⟨fun ⟨proper, written⟩ => ⟨proper, written⟩, fun ⟨proper, written⟩ => ⟨proper, written⟩⟩

/-- Bytes that fit the range of offsets are a stream exactly if they spell tokens, in only one way. The
stream then has these tokens and no others: a cursor gives them one by one with the offsets at which
they are written, and nothing from then on; and a buffer to which they are pushed gives the same
offsets and is closed to the same stream. Whatever is pushed to a buffer, end marks included, its
bytes are taken as the stream that it is closed to. -/
theorem ofBytes_spells :
    (∀ bytes : Array UInt8, bytes.size ≤ TokenSpan.maxStart + 1 →
      ((∃ stream, ofBytes bytes = .ok stream) ↔ ∃ tokens, Spells tokens bytes) ∧
      ∀ tokens, Spells tokens bytes →
        (∀ others, Spells others bytes → others = tokens) ∧
        ∃ stream, ofBytes bytes = .ok stream ∧ stream.bytes = bytes ∧
          stream.size = tokens.length ∧ bytes[stream.endOffset]? = some 0 ∧
          stream.endOffset + 1 = bytes.size ∧
          stream.tokens = .ok (Token.placed 0 tokens) ∧
          (∀ count, TokenCursor.calls stream.bytes count { offset := 0 } =
            .ok ((List.range count).map fun index => (Token.placed 0 tokens)[index]?)) ∧
          (({} : TokenBuffer).pushAll tokens).1 = (Token.placed 0 tokens).map Prod.fst ∧
          (({} : TokenBuffer).pushAll tokens).2.finish = stream) ∧
    ∀ tokens : List Token,
      let stream := (({} : TokenBuffer).pushAll tokens).2.finish
      stream.bytes.size ≤ TokenSpan.maxStart + 1 → ofBytes stream.bytes = .ok stream := by
  constructor
  · intro bytes small
    refine ⟨?_, fun tokens spells => ?_⟩
    · simp only [ofBytes_eq_ok_iff small, spells_iff]
      exact ⟨fun ⟨_, tokens, stands, _⟩ => ⟨tokens, stands⟩,
        fun ⟨tokens, stands⟩ => ⟨_, tokens, stands, rfl⟩⟩
    · have stands := spells_iff.1 spells
      have written := TokenBuffer.finish_pushAll tokens spells.1
      have length := congrArg List.length spells.2
      simp only [List.length_append, List.length_singleton, Array.length_toList] at length
      refine ⟨fun others spells' => stands.unique (spells_iff.1 spells'), ⟨bytes, tokens.length⟩,
        (ofBytes_eq_ok_iff small).2 ⟨tokens, stands, rfl⟩, rfl, rfl, ?_, ?_, ?_,
        TokenCursor.calls_of_stands stands, TokenBuffer.offsets_proper tokens spells.1, ?_⟩
      · rw [endOffset, ← Array.getElem?_toList, spells.2, length]
        simp
      · rw [endOffset, length]
        rfl
      · rw [TokenStream.tokens, readAll_of_stands stands]
        rfl
      · have same : (({} : TokenBuffer).pushAll tokens).2.finish.bytes = bytes :=
          Array.toList_inj.1 (written.2.trans spells.2.symm)
        rw [← same, ← written.1]
  · intro tokens stream small
    have proper : ∀ token ∈ tokens.filter fun token => !token.isEnd, token.isEnd = false :=
      fun token listed => by simpa using (List.mem_filter.1 listed).2
    have made : stream = (({} : TokenBuffer).pushAll
        (tokens.filter fun token => !token.isEnd)).2.finish :=
      congrArg TokenBuffer.finish (TokenBuffer.pushAll_proper {} tokens)
    obtain ⟨size, written⟩ := TokenBuffer.finish_pushAll _ proper
    rw [← made] at size written
    exact (ofBytes_eq_ok_iff small).2 ⟨_, spells_iff.1 ⟨proper, written⟩, by rw [← size]⟩

end TokenStream

end FrontEnd
