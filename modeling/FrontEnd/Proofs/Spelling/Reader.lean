import FrontEnd.Proofs.Text.Integer
import FrontEnd.Spelling.Reader
import Mathlib.Data.List.Forall2

/-!
What printed text is read as. A text that stands for a type is read as the same spelling wherever it
stands: behind white space, and before the end or one of the marks that may follow a type. So the
text of a type can be read part by part.
-/

namespace FrontEnd

namespace Spelling

variable {text whole rest word : List Char} {spelling : Spelling}

/-! ### Words and marks -/

/-- What may follow a type: nothing, or a mark that ends it. -/
def Closed (rest : List Char) : Prop := ∀ c, rest.head? = some c → c ∈ [']', ';', ',', '>']

/-- The text begins with neither white space nor the mark that ends arguments. -/
def Solid (text : List Char) : Prop :=
  ∃ c rest, text = c :: rest ∧ Text.isBlank c = false ∧ c ≠ '>'

/-- The characters are those of a name. -/
def IsWord : List Char → Bool
  | [] => false
  | c :: rest => startsName c && rest.all inName

theorem closed_nil : Closed [] := nofun

theorem closed_cons {mark : Char} (ends : mark ∈ [']', ';', ',', '>']) (rest : List Char) :
    Closed (mark :: rest) := by
  rintro c same
  cases same
  exact ends

/-- What is true of no mark is not true of what follows. -/
theorem Closed.lacks (closed : Closed rest) (p : Char → Bool)
    (marks : ([']', ';', ',', '>'].all fun c => !p c) = true) {c : Char}
    (first : rest.head? = some c) : p c = false := by
  have other := List.all_eq_true.1 marks c (closed c first)
  rwa [Bool.not_eq_true'] at other

theorem Closed.not_inName (closed : Closed rest) {c : Char} (first : rest.head? = some c) :
    inName c = false := closed.lacks inName (by decide) first

theorem Closed.not_digit (closed : Closed rest) {c : Char} (first : rest.head? = some c) :
    c.isDigit = false := closed.lacks Char.isDigit (by decide) first

theorem skipBlank_solid (solid : Solid text) (rest : List Char) :
    skipBlank (text ++ rest) = text ++ rest := by
  obtain ⟨c, tail, rfl, blank, -⟩ := solid
  simp [skipBlank, blank]

theorem skipBlank_space (solid : Solid text) (rest : List Char) :
    skipBlank (' ' :: (text ++ rest)) = text ++ rest := by
  have skipped : skipBlank (' ' :: (text ++ rest)) = skipBlank (text ++ rest) := rfl
  rw [skipped, skipBlank_solid solid]

theorem Closed.skipBlank (closed : Closed rest) : skipBlank rest = rest := by
  cases rest with
  | nil => rfl
  | cons c rest =>
    have solid : Text.isBlank c = false := closed.lacks Text.isBlank (by decide) rfl
    simp [Spelling.skipBlank, solid]

/-- What is behind something that a text begins with is shorter. -/
theorem length_lt (start : skipBlank whole = text ++ rest) (some_ : text ≠ []) :
    rest.length < whole.length := by
  have fewer := length_skipBlank_le whole
  have more := List.length_pos_iff.2 some_
  rw [start, List.length_append] at fewer
  omega

theorem mark?_some {mark : Char} (start : skipBlank whole = mark :: rest) :
    ∃ shorter, mark? mark whole = some ⟨rest, shorter⟩ := by
  have starts : skipBlank whole = [mark] ++ rest := start
  refine ⟨length_lt starts (List.cons_ne_nil _ _), ?_⟩
  unfold mark?
  split
  · rename_i none_
    rw [start] at none_
    cases none_
  · rename_i c tail found
    obtain ⟨rfl, rfl⟩ := List.cons.inj (found.symm.trans start)
    rw [if_pos rfl]

theorem mark?_none {mark : Char} (other : ∀ c, (skipBlank whole).head? = some c → c ≠ mark) :
    mark? mark whole = none := by
  unfold mark?
  split
  · rfl
  · rename_i c tail found
    rw [if_neg (other c (by rw [found]; rfl))]

theorem takeWhile_ends {p : Char → Bool} (all : ∀ c ∈ word, p c = true)
    (ends : ∀ c, rest.head? = some c → p c = false) :
    (word ++ rest).takeWhile p = word ∧ (word ++ rest).dropWhile p = rest := by
  rw [List.takeWhile_append_of_pos all, List.dropWhile_append_of_pos all]
  cases rest with
  | nil => simp
  | cons c rest => simp [ends c rfl]

theorem name?_some (start : skipBlank whole = word ++ rest) (named : IsWord word = true)
    (ends : ∀ c, rest.head? = some c → inName c = false) :
    ∃ shorter, name? whole = some (String.ofList word, ⟨rest, shorter⟩) := by
  cases word with
  | nil => cases named
  | cons c word =>
    obtain ⟨first, others⟩ := Bool.and_eq_true_iff.1 named
    obtain ⟨taken, dropped⟩ := takeWhile_ends (List.all_eq_true.1 others) ends
    refine ⟨length_lt start (List.cons_ne_nil _ _), ?_⟩
    unfold name?
    split
    · rename_i none_
      rw [start] at none_
      cases none_
    · rename_i c' tail found
      obtain ⟨rfl, rfl⟩ := List.cons.inj (found.symm.trans (start.trans List.cons_append))
      rw [if_pos first]
      simp only [taken, dropped]

theorem name?_none {c : Char} (start : skipBlank whole = c :: rest) (other : startsName c = false) :
    name? whole = none := by
  unfold name?
  split
  · rfl
  · rename_i c' tail found
    obtain ⟨rfl, rfl⟩ := List.cons.inj (found.symm.trans start)
    simp [other]

/-! ### Integers -/

/-- A numeral is split off before what does not begin with a digit. -/
theorem splitDigits_numeral {value : Int} (numeral : Text.Numeral word value)
    (ends : ∀ c, rest.head? = some c → c.isDigit = false) :
    splitDigits (word ++ rest) = (word, rest) := by
  cases numeral with
  | @negative digits decimal =>
    obtain ⟨taken, dropped⟩ := takeWhile_ends decimal.2 ends
    simp only [List.cons_append, splitDigits, taken, dropped]
  | natural decimal =>
    obtain ⟨some_, all⟩ := decimal
    obtain ⟨taken, dropped⟩ := takeWhile_ends all ends
    unfold splitDigits
    split
    · rename_i tail same
      cases word with
      | nil => exact absurd rfl some_
      | cons c others =>
        have digit := all c List.mem_cons_self
        rw [(List.cons.inj same).1] at digit
        cases digit
    · exact Prod.ext taken dropped

theorem integer?_some {value : Int} (numeral : Text.Numeral word value)
    (fits : Text.fitsWide value = true) (start : skipBlank whole = word ++ rest)
    (ends : ∀ c, rest.head? = some c → c.isDigit = false) :
    ∃ shorter, integer? whole = some (value, ⟨rest, shorter⟩) := by
  have split_ : splitDigits (skipBlank whole) = (word, rest) := by
    rw [start, splitDigits_numeral numeral ends]
  have read := Text.integer?_numeral numeral fits
  refine ⟨length_lt start numeral.ne_nil, ?_⟩
  unfold integer?
  split
  · rename_i found
    exact absurd (Prod.mk.inj (split_.symm.trans found)).1 numeral.ne_nil
  · rename_i c digits tail found
    obtain ⟨same, rfl⟩ := Prod.mk.inj (found.symm.trans split_)
    rw [← same] at read
    rw [read]
    rfl

theorem integer?_none {c : Char} (start : skipBlank whole = c :: rest) (minus : c ≠ '-')
    (digit : c.isDigit = false) : integer? whole = none := by
  have split_ : (splitDigits (skipBlank whole)).1 = [] := by
    rw [start]
    unfold splitDigits
    split
    · rename_i same
      exact absurd (List.cons.inj same).1 minus
    · simp [digit]
  unfold integer?
  split
  · rfl
  · rename_i found
    rw [found] at split_
    cases split_

/-! ### Types and arguments -/

/-- Behind blanks and before what may follow a type, the text is read as the spelling. -/
structure Reads (text : List Char) (spelling : Spelling) : Prop where
  solid : Solid text
  read : ∀ whole rest, skipBlank whole = text ++ rest → Closed rest →
    ∃ shorter, readType whole = .ok (spelling, ⟨rest, shorter⟩)

/-- Behind blanks and before what may follow an argument, the text is read as the argument. -/
structure ReadsArgument (text : List Char) (argument : SpelledArgument) : Prop where
  solid : Solid text
  read : ∀ whole rest, skipBlank whole = text ++ rest → Closed rest →
    ∃ shorter, readArgument whole = .ok (argument, ⟨rest, shorter⟩)

theorem solid_cons {c : Char} (blank : Text.isBlank c = false) (other : c ≠ '>')
    (rest : List Char) : Solid (c :: rest) :=
  ⟨c, rest, rfl, blank, other⟩

/-- No other mark stands at the beginning. -/
theorem mark?_other {mark c : Char} (start : skipBlank whole = c :: rest) (other : c ≠ mark) :
    mark? mark whole = none := by
  refine mark?_none fun d first => ?_
  rw [start] at first
  cases first
  exact other

theorem mark?_closing (mark : Char) (ends : mark ∈ [']', ';', ',', '>']) (rest : List Char) :
    ∃ shorter, mark? mark (mark :: rest) = some ⟨rest, shorter⟩ :=
  mark?_some (closed_cons ends rest).skipBlank

theorem Reads.pointer (reads : Reads text spelling) : Reads ('*' :: text) (.pointer spelling) where
  solid := solid_cons (by decide) (by decide) text
  read whole rest start closed := by
    refine ⟨length_lt start (List.cons_ne_nil _ _), ?_⟩
    obtain ⟨_, opening⟩ := mark?_some start
    obtain ⟨_, inner⟩ := reads.read _ rest (skipBlank_solid reads.solid rest) closed
    rw [readType, opening]
    simp only [List.append_eq, inner]
    rfl

theorem Reads.slice (reads : Reads text spelling) :
    Reads ('[' :: (text ++ [']'])) (.slice spelling) where
  solid := solid_cons (by decide) (by decide) _
  read whole rest start closed := by
    refine ⟨length_lt start (List.cons_ne_nil _ _), ?_⟩
    rw [List.cons_append, List.append_assoc, List.singleton_append] at start
    obtain ⟨_, opening⟩ := mark?_some start
    obtain ⟨_, inner⟩ := reads.read _ (']' :: rest) (skipBlank_solid reads.solid _)
      (closed_cons (by decide) rest)
    obtain ⟨_, ending⟩ := mark?_closing ']' (by decide) rest
    rw [readType, mark?_other start (by decide), opening]
    simp only [inner, ending, bind, Except.bind]
    rfl

/-- What a name begins with is neither white space nor a digit. -/
theorem startsName_codes {c : Char} (starts : startsName c = true) :
    Text.isBlank c = false ∧ c.isDigit = false := by
  have codes : c.toNat = 95 ∨ (65 ≤ c.toNat ∧ c.toNat ≤ 90) ∨ (97 ≤ c.toNat ∧ c.toNat ≤ 122) := by
    rw [startsName, Bool.or_eq_true, beq_iff_eq] at starts
    rcases starts with rfl | letter
    · exact .inl rfl
    · have letters : c.isUpper = true ∨ c.isLower = true := Bool.or_eq_true_iff.1 letter
      rcases letters with upper | lower
      · exact .inr (.inl (of_decide_eq_true upper))
      · obtain ⟨least, most⟩ := Bool.and_eq_true_iff.1 lower
        exact .inr (.inr ⟨of_decide_eq_true least, of_decide_eq_true most⟩)
  constructor
  · simp only [Text.isBlank, Bool.or_eq_false_iff, Bool.and_eq_false_iff, decide_eq_false_iff_not,
      beq_eq_false_iff_ne]
    omega
  · rw [Bool.eq_false_iff, Ne, Char.isDigit, Bool.and_eq_true, decide_eq_true_eq, decide_eq_true_eq]
    rintro ⟨least, most⟩
    have least' : 48 ≤ c.toNat := least
    have most' : c.toNat ≤ 57 := most
    omega

theorem ne_of_startsName {c mark : Char} (starts : startsName c = true)
    (other : startsName mark = false) : c ≠ mark := by
  rintro rfl
  rw [starts] at other
  cases other

theorem exists_of_isWord (named : IsWord word = true) :
    ∃ c tail, word = c :: tail ∧ startsName c = true := by
  cases word with
  | nil => cases named
  | cons c tail => exact ⟨c, tail, rfl, (Bool.and_eq_true_iff.1 named).1⟩

theorem solid_word (named : IsWord word = true) (rest : List Char) : Solid (word ++ rest) := by
  obtain ⟨c, tail, rfl, starts⟩ := exists_of_isWord named
  exact solid_cons (startsName_codes starts).1 (ne_of_startsName starts (by decide)) _

/-- Where a name begins there is no mark and no integer. -/
theorem no_mark_of_isWord (named : IsWord word = true) (start : skipBlank whole = word ++ rest) :
    mark? '*' whole = none ∧ mark? '[' whole = none ∧ integer? whole = none := by
  obtain ⟨c, tail, rfl, starts⟩ := exists_of_isWord named
  rw [List.cons_append] at start
  exact ⟨mark?_other start (ne_of_startsName starts (by decide)),
    mark?_other start (ne_of_startsName starts (by decide)),
    integer?_none start (ne_of_startsName starts (by decide)) (startsName_codes starts).2⟩

theorem mark_closing (wanted : Char) (expected : Expectation)
    (ends : wanted ∈ [']', ';', ',', '>']) (rest : List Char) :
    ∃ shorter, mark wanted expected (wanted :: rest) = .ok ⟨rest, shorter⟩ := by
  obtain ⟨shorter, found⟩ := mark?_closing wanted ends rest
  refine ⟨shorter, ?_⟩
  rw [mark, found]

theorem isBlank_of_isDigit {c : Char} (digit : c.isDigit = true) : Text.isBlank c = false := by
  simp only [Char.isDigit, Bool.and_eq_true, decide_eq_true_eq, ge_iff_le] at digit
  obtain ⟨least, most⟩ := digit
  have least' : 48 ≤ c.toNat := least
  have most' : c.toNat ≤ 57 := most
  simp only [Text.isBlank, Bool.or_eq_false_iff, Bool.and_eq_false_iff, decide_eq_false_iff_not,
    beq_eq_false_iff_ne]
  omega

theorem solid_decimal (value : Int) : Solid (Text.decimal value) := by
  cases value with
  | negSucc n => exact solid_cons (by decide) (by decide) _
  | ofNat n =>
    change Solid (Nat.toDigits 10 n)
    cases digits : Nat.toDigits 10 n with
    | nil => exact absurd digits Nat.toDigits_ne_nil
    | cons c others =>
      have digit := Text.isDigit_of_mem_decimal (digits ▸ List.mem_cons_self)
      refine solid_cons (isBlank_of_isDigit digit) ?_ others
      rintro rfl
      cases digit

/-- 128 bits hold every length. -/
theorem fitsWide_length {length : Nat} (fits : length < UInt64.size) :
    Text.fitsWide (length : Int) = true := by
  have small : UInt64.size = 18446744073709551616 := rfl
  refine Bool.and_eq_true_iff.2 ⟨decide_eq_true ?_, decide_eq_true ?_⟩ <;>
    rw [Text.wideBound] <;> omega

theorem readLength_number {length : Nat} {behind : Rest whole} (fits : length < UInt64.size)
    (read : integer? whole = some ((length : Int), behind)) :
    readLength whole = .ok (.literal length, behind) := by
  have bounds : 0 ≤ (length : Int) ∧ (length : Int) < UInt64.size := by omega
  rw [readLength, read]
  exact if_pos bounds

theorem readLength_literal {length : Nat} (fits : length < UInt64.size) (closed : Closed rest) :
    ∃ shorter, readLength (' ' :: (Text.decimal length ++ rest)) =
      .ok (.literal length, ⟨rest, shorter⟩) := by
  obtain ⟨shorter, read⟩ := integer?_some (Text.numeral_decimal length) (fitsWide_length fits)
    (skipBlank_space (solid_decimal length) rest) fun _ => closed.not_digit
  exact ⟨shorter, readLength_number fits read⟩

theorem Reads.array (reads : Reads text spelling) {length : Nat} (fits : length < UInt64.size) :
    Reads ('[' :: (text ++ (';' :: ' ' :: (Text.decimal length ++ [']']))))
      (.array spelling (.literal length)) where
  solid := solid_cons (by decide) (by decide) _
  read whole rest start closed := by
    refine ⟨length_lt start (List.cons_ne_nil _ _), ?_⟩
    simp only [List.cons_append, List.append_assoc, List.nil_append] at start
    obtain ⟨_, opening⟩ := mark?_some start
    obtain ⟨_, inner⟩ := reads.read _ (';' :: ' ' :: (Text.decimal length ++ ']' :: rest))
      (skipBlank_solid reads.solid _) (closed_cons (by decide) _)
    have goes : mark? ']' (';' :: ' ' :: (Text.decimal length ++ ']' :: rest)) = none :=
      mark?_other (closed_cons (by decide) _).skipBlank (by decide)
    obtain ⟨_, between⟩ := mark_closing ';' .sliceEnd (by decide)
      (' ' :: (Text.decimal length ++ ']' :: rest))
    have closing : Closed (']' :: rest) := closed_cons (by decide) rest
    obtain ⟨_, measured⟩ := readLength_literal fits closing
    obtain ⟨_, ending⟩ := mark_closing ']' .arrayEnd (by decide) rest
    rw [readType, mark?_other start (by decide), opening]
    simp only [inner, goes, between, measured, ending, bind, Except.bind]
    rfl

theorem Reads.qualified {quals : Qualifiers} (reads : Reads text spelling)
    (named : IsWord word = true) (qualifies : qualifier? (String.ofList word) = some quals) :
    Reads (word ++ ' ' :: text) (.qualified spelling quals) where
  solid := solid_word named _
  read whole rest start closed := by
    rw [List.append_assoc, List.cons_append] at start
    obtain ⟨pointer, bracket, -⟩ := no_mark_of_isWord named start
    obtain ⟨_, name⟩ := name?_some start named (fun c first => by cases first; rfl)
    obtain ⟨_, inner⟩ := reads.read _ rest (skipBlank_space reads.solid rest) closed
    have whole_ : skipBlank whole = (word ++ ' ' :: text) ++ rest := by simpa using start
    refine ⟨length_lt whole_ (by simp), ?_⟩
    rw [readType, pointer, bracket, name]
    simp only [qualifies, inner, bind, Except.bind]
    rfl

/-- A name that is no keyword. -/
structure IsPlain (word : List Char) : Prop where
  named : IsWord word = true
  qualifier : qualifier? (String.ofList word) = none
  truth : truth? (String.ofList word) = none

theorem Closed.no_angle (closed : Closed rest) : mark? '<' rest = none := by
  refine mark?_none fun c first => ?_
  rw [closed.skipBlank] at first
  rintro rfl
  exact absurd (closed _ first) (by decide)

theorem IsPlain.reads (plain : IsPlain word) : Reads word (.named (String.ofList word)) where
  solid := by simpa using solid_word plain.named []
  read whole rest start closed := by
    obtain ⟨pointer, bracket, -⟩ := no_mark_of_isWord plain.named start
    obtain ⟨shorter, name⟩ := name?_some start plain.named fun _ => closed.not_inName
    refine ⟨shorter, ?_⟩
    rw [readType, pointer, bracket, name]
    simp only [plain.qualifier, plain.truth, closed.no_angle]
    rfl

/-! ### Arguments -/

theorem readsArgument_int {value : Int} (fits : Text.fitsWide value = true) :
    ReadsArgument (Text.decimal value) (.int value) where
  solid := solid_decimal value
  read whole rest start closed := by
    obtain ⟨shorter, read⟩ := integer?_some (Text.numeral_decimal value) fits start fun _ => closed.not_digit
    refine ⟨shorter, ?_⟩
    rw [readArgument, read]

theorem readsArgument_bool {value : Bool} (named : IsWord word = true)
    (states : truth? (String.ofList word) = some value) : ReadsArgument word (.bool value) where
  solid := by simpa using solid_word named []
  read whole rest start closed := by
    obtain ⟨-, -, integer⟩ := no_mark_of_isWord named start
    obtain ⟨shorter, name⟩ := name?_some start named fun _ => closed.not_inName
    refine ⟨shorter, ?_⟩
    rw [readArgument, integer, truthArgument?, name]
    simp only [Option.bind_eq_bind, Option.bind_some, states]
    rfl

/-- Where a text begins there is no integer and no truth value, whatever comes behind it. -/
def Opens (text : List Char) : Prop :=
  ∀ whole rest, skipBlank whole = text ++ rest → Closed rest →
    integer? whole = none ∧ truthArgument? whole = none

theorem Reads.argument (reads : Reads text spelling) (opens : Opens text) :
    ReadsArgument text (.type spelling) where
  solid := reads.solid
  read whole rest start closed := by
    obtain ⟨integer, truth⟩ := opens whole rest start closed
    obtain ⟨shorter, read⟩ := reads.read whole rest start closed
    refine ⟨shorter, ?_⟩
    rw [readArgument, integer, truth]
    simp only [read, bind, Except.bind]
    rfl

theorem opens_cons {c : Char} (mark : c ∈ ['*', '[']) (text : List Char) : Opens (c :: text) := by
  obtain ⟨minus, digit, starts⟩ : c ≠ '-' ∧ c.isDigit = false ∧ startsName c = false := by
    rcases List.mem_pair.1 mark with rfl | rfl <;> exact ⟨by decide, by decide, by decide⟩
  intro whole rest start _
  refine ⟨integer?_none start minus digit, ?_⟩
  rw [truthArgument?, name?_none start starts]
  rfl

/-- A word that is no truth value opens what stands for a type, if it ends where it should. -/
theorem opens_word (named : IsWord word = true) (truth : truth? (String.ofList word) = none)
    (ends : ∀ rest, Closed rest → ∀ c, (text ++ rest).head? = some c → inName c = false) :
    Opens (word ++ text) := by
  intro whole rest start closed
  rw [List.append_assoc] at start
  obtain ⟨-, -, integer⟩ := no_mark_of_isWord named start
  obtain ⟨_, name⟩ := name?_some start named (ends rest closed)
  refine ⟨integer, ?_⟩
  rw [truthArgument?, name]
  simp only [Option.bind_eq_bind, Option.bind_some, truth]
  rfl

theorem IsPlain.opens (plain : IsPlain word) : Opens word := by
  have opens : Opens (word ++ []) := opens_word plain.named plain.truth fun _ closed _ first =>
    closed.not_inName first
  rwa [List.append_nil] at opens

theorem IsPlain.opens_applied (plain : IsPlain word) (text : List Char) :
    Opens (word ++ '<' :: text) :=
  opens_word plain.named plain.truth fun _ _ _ first => by
    cases first
    rfl

theorem solid_intercalate (solid : Solid text) (texts : List (List Char)) :
    Solid ([',', ' '].intercalate (text :: texts)) := by
  obtain ⟨c, tail, rfl, blank, other⟩ := solid
  cases texts with
  | nil => exact ⟨c, tail, by simp, blank, other⟩
  | cons second texts =>
    rw [List.intercalate_cons_cons]
    exact ⟨c, _, rfl, blank, other⟩

/-- Arguments with commas between them are read one after the other. -/
theorem readArguments_intercalate {texts : List (List Char)} {arguments : List SpelledArgument}
    (reads : List.Forall₂ ReadsArgument texts arguments) (some_ : texts ≠ [])
    (start : skipBlank whole = [',', ' '].intercalate texts ++ '>' :: rest) :
    ∃ shorter, readArguments whole = .ok (arguments, ⟨rest, shorter⟩) := by
  induction reads generalizing whole with
  | nil => exact absurd rfl some_
  | @cons first argument texts arguments read others ih =>
    cases others with
    | nil =>
      have start : skipBlank whole = first ++ '>' :: rest := by simpa using start
      obtain ⟨shorter, inner⟩ := read.read whole _ start (closed_cons (by decide) rest)
      obtain ⟨shorter', ending⟩ := mark?_closing '>' (by decide) rest
      refine ⟨Nat.lt_trans shorter' shorter, ?_⟩
      rw [readArguments]
      simp only [inner, ending, bind, Except.bind]
      rfl
    | @cons second argument' texts arguments read' others =>
      have start : skipBlank whole =
          first ++ ',' :: ' ' :: ([',', ' '].intercalate (second :: texts) ++ '>' :: rest) := by
        rw [start, List.intercalate_cons_cons]
        simp
      have solid := solid_intercalate read'.solid texts
      obtain ⟨shorter, inner⟩ := read.read whole _ start (closed_cons (by decide) _)
      have goes : mark? '>' (',' :: ' ' :: ([',', ' '].intercalate (second :: texts) ++ '>' :: rest)) =
          none := mark?_other (closed_cons (by decide) _).skipBlank (by decide)
      obtain ⟨shorter', between⟩ := mark_closing ',' .argumentsEnd (by decide)
        (' ' :: ([',', ' '].intercalate (second :: texts) ++ '>' :: rest))
      obtain ⟨shorter'', further⟩ := ih (List.cons_ne_nil _ _) (skipBlank_space solid _)
      refine ⟨Nat.lt_trans shorter'' (Nat.lt_trans shorter' shorter), ?_⟩
      rw [readArguments]
      simp only [inner, goes, between, further, bind, Except.bind]
      rfl

theorem IsPlain.reads_applied (plain : IsPlain word) {texts : List (List Char)}
    {arguments : List SpelledArgument} (reads : List.Forall₂ ReadsArgument texts arguments) :
    Reads (word ++ '<' :: ([',', ' '].intercalate texts ++ ['>']))
      (.applied (String.ofList word) arguments) where
  solid := solid_word plain.named _
  read whole rest start closed := by
    have start : skipBlank whole = word ++ '<' :: ([',', ' '].intercalate texts ++ '>' :: rest) := by
      rw [start]
      simp
    obtain ⟨pointer, bracket, -⟩ := no_mark_of_isWord plain.named start
    obtain ⟨shorter, name⟩ := name?_some start plain.named (fun c first => by cases first; rfl)
    obtain ⟨shorter', opening⟩ : ∃ shorter, mark? '<'
        ('<' :: ([',', ' '].intercalate texts ++ '>' :: rest)) = some ⟨_, shorter⟩ := mark?_some rfl
    cases reads with
    | nil =>
      obtain ⟨shorter'', ending⟩ := mark?_closing '>' (by decide) rest
      refine ⟨Nat.lt_trans shorter'' (Nat.lt_trans shorter' shorter), ?_⟩
      rw [readType, pointer, bracket, name]
      simp only [plain.qualifier, plain.truth, opening]
      simp only [List.intercalate_nil, List.nil_append, ending]
      rfl
    | @cons text argument texts arguments read others =>
      have goes : mark? '>' ([',', ' '].intercalate (text :: texts) ++ '>' :: rest) = none := by
        obtain ⟨c, tail, same, blank, other⟩ := solid_intercalate read.solid texts
        have start := skipBlank_solid ⟨c, tail, same, blank, other⟩ ('>' :: rest)
        rw [same] at start ⊢
        exact mark?_other start other
      obtain ⟨shorter'', further⟩ := readArguments_intercalate (.cons read others)
        (List.cons_ne_nil _ _) (skipBlank_solid (solid_intercalate read.solid texts) ('>' :: rest))
      refine ⟨Nat.lt_trans shorter'' (Nat.lt_trans shorter' shorter), ?_⟩
      rw [readType, pointer, bracket, name]
      simp only [plain.qualifier, plain.truth, opening, goes, further, bind, Except.bind]
      rfl

/-- A text that reads as a spelling spells it. -/
theorem Reads.ofText {text : String} (reads : Reads text.toList spelling) :
    ofText text = .ok spelling := by
  have start : skipBlank text.toList = text.toList ++ [] := by
    simpa using skipBlank_solid reads.solid []
  obtain ⟨_, read⟩ := reads.read text.toList [] start closed_nil
  rw [Spelling.ofText, readAll, read]
  rfl

end Spelling

end FrontEnd
