import FrontEnd.Proofs.Spelling.Reader

/-!
The grammar of type spellings, and that reading follows it. A text is words with white space around
and between them, where a name goes as far as it can. The grammar says which words spell a type. A
text is read as a spelling exactly if its words spell it; so a text spells one type at most, and
where it spells none, the error stands at a place between two of its characters.
-/

namespace FrontEnd

namespace Spelling

/-! ### The grammar -/

/-- What a text is made of: marks, names and numbers. -/
inductive Lexeme where
  | mark (c : Char)
  | name (name : String)
  | number (value : Int)
  deriving DecidableEq

/-- The marks of spellings. -/
def marks : List Char := ['*', '[', ']', ';', '<', '>', ',']

/-- The words that name no type. -/
def keywords : List String := ["const", "volatile", "true", "false"]

/-- How a word is written. The only sign of a number is a minus sign, and nothing stands between
the sign and the digits. -/
inductive Lexeme.Written : Lexeme → List Char → Prop where
  | mark {c : Char} (known : c ∈ marks) : Written (.mark c) [c]
  | name {chars : List Char} (named : IsWord chars = true) :
    Written (.name (String.ofList chars)) chars
  | number {chars : List Char} {value : Int} (numeral : Text.Numeral chars value) :
    Written (.number value) chars

/-- A name ends where the next character can be part of no name. -/
def Lexeme.Ends : Lexeme → List Char → Prop
  | .name _, rest => ∀ c, rest.head? = some c → inName c = false
  | _, _ => True

/-- The characters are white space. -/
def IsBlank (text : List Char) : Prop := ∀ c ∈ text, Text.isBlank c = true

/-- The text begins with some words, with white space before each, and goes on with the rest. -/
inductive Scans : List Char → List Lexeme → List Char → Prop where
  | done (rest : List Char) : Scans rest [] rest
  | next {blanks chars rest last : List Char} {lexeme : Lexeme} {others : List Lexeme}
    (blank : IsBlank blanks) (written : lexeme.Written chars) (ends : lexeme.Ends rest)
    (further : Scans rest others last) :
    Scans (blanks ++ (chars ++ rest)) (lexeme :: others) last

/-- Words that spell the length of an array. -/
inductive DerivesLength : List Lexeme → SpelledLength → Prop where
  | literal {length : Nat} (fits : length < UInt64.size) :
    DerivesLength [.number length] (.literal length)
  | parameter (name : String) : DerivesLength [.name name] (.parameter name)

mutual

/-- Words that spell a type. -/
inductive Derives : List Lexeme → Spelling → Prop where
  | const {words : List Lexeme} {base : Spelling} (inner : Derives words base) :
    Derives (.name "const" :: words) (.qualified base .const)
  | volatile {words : List Lexeme} {base : Spelling} (inner : Derives words base) :
    Derives (.name "volatile" :: words) (.qualified base .volatile)
  | pointer {words : List Lexeme} {target : Spelling} (inner : Derives words target) :
    Derives (.mark '*' :: words) (.pointer target)
  | slice {words : List Lexeme} {element : Spelling} (inner : Derives words element) :
    Derives (.mark '[' :: (words ++ [.mark ']'])) (.slice element)
  | array {words size : List Lexeme} {element : Spelling} {length : SpelledLength}
    (inner : Derives words element) (measured : DerivesLength size length) :
    Derives (.mark '[' :: (words ++ .mark ';' :: (size ++ [.mark ']']))) (.array element length)
  | named {name : String} (plain : name ∉ keywords) : Derives [.name name] (.named name)
  | empty {name : String} (plain : name ∉ keywords) :
    Derives [.name name, .mark '<', .mark '>'] (.applied name [])
  | applied {name : String} {words : List Lexeme} {arguments : List SpelledArgument}
    (plain : name ∉ keywords) (inner : DerivesArguments words arguments) :
    Derives (.name name :: .mark '<' :: (words ++ [.mark '>'])) (.applied name arguments)

/-- Words that spell an argument. -/
inductive DerivesArgument : List Lexeme → SpelledArgument → Prop where
  | int {value : Int} (fits : Text.fitsWide value = true) :
    DerivesArgument [.number value] (.int value)
  | true : DerivesArgument [.name "true"] (.bool Bool.true)
  | false : DerivesArgument [.name "false"] (.bool Bool.false)
  | type {words : List Lexeme} {spelling : Spelling} (inner : Derives words spelling) :
    DerivesArgument words (.type spelling)

/-- Words that spell arguments with commas between them. -/
inductive DerivesArguments : List Lexeme → List SpelledArgument → Prop where
  | last {words : List Lexeme} {argument : SpelledArgument}
    (inner : DerivesArgument words argument) : DerivesArguments words [argument]
  | more {words others : List Lexeme} {argument : SpelledArgument}
    {arguments : List SpelledArgument} (inner : DerivesArgument words argument)
    (further : DerivesArguments others arguments) :
    DerivesArguments (words ++ .mark ',' :: others) (argument :: arguments)

end

/-- The text is words that spell a type, with white space around and between them. -/
def Spells (text : String) (spelling : Spelling) : Prop :=
  ∃ words rest, Scans text.toList words rest ∧ IsBlank rest ∧ Derives words spelling

variable {text rest last : List Char} {words others : List Lexeme}

/-! ### Words of a text -/

theorem Scans.append (first : Scans text words rest) (second : Scans rest others last) :
    Scans text (words ++ others) last := by
  induction first with
  | done rest => exact second
  | next blank written ends _ ih => exact .next blank written ends (ih second)

theorem Scans.split (scans : Scans text (words ++ others) last) :
    ∃ middle, Scans text words middle ∧ Scans middle others last := by
  induction words generalizing text with
  | nil => exact ⟨text, .done text, scans⟩
  | cons word words ih =>
    cases scans with
    | next blank written ends further =>
      obtain ⟨middle, first, second⟩ := ih further
      exact ⟨middle, .next blank written ends first, second⟩

theorem Scans.suffix (scans : Scans text words rest) : rest <:+ text := by
  induction scans with
  | done rest => exact List.suffix_refl rest
  | next _ _ _ _ ih =>
    exact ih.trans ((List.suffix_append _ _).trans (List.suffix_append _ _))

theorem skipBlank_suffix (text : List Char) : skipBlank text <:+ text := List.dropWhile_suffix _

theorem exists_blanks (text : List Char) :
    ∃ blanks, IsBlank blanks ∧ text = blanks ++ skipBlank text :=
  ⟨text.takeWhile Text.isBlank, List.all_eq_true.1 List.all_takeWhile,
    List.takeWhile_append_dropWhile.symm⟩

theorem skipBlank_blanks {blanks : List Char} (blank : IsBlank blanks) (rest : List Char) :
    skipBlank (blanks ++ rest) = skipBlank rest :=
  List.dropWhile_append_of_pos blank

/-- Behind the white space of a text stands the first of its words. -/
theorem scans_one {lexeme : Lexeme} {chars : List Char} (start : skipBlank text = chars ++ rest)
    (written : lexeme.Written chars) (ends : lexeme.Ends rest) : Scans text [lexeme] rest := by
  obtain ⟨blanks, blank, whole⟩ := exists_blanks text
  rw [whole, start]
  exact .next blank written ends (.done rest)

/-! ### What reading gives is derived -/

theorem scans_of_mark? {c : Char} (known : c ∈ marks) {behind : Rest text}
    (found : mark? c text = some behind) : Scans text [.mark c] behind.val := by
  unfold mark? at found
  split at found
  · cases found
  · rename_i d tail start
    split at found
    · rename_i same
      cases found
      rw [same] at start
      exact @scans_one _ _ _ [c] start (.mark known) trivial
    · cases found

theorem scans_of_name? {name : String} {behind : Rest text}
    (found : name? text = some (name, behind)) : Scans text [.name name] behind.val := by
  unfold name? at found
  split at found
  · cases found
  · rename_i c tail start
    split at found
    · rename_i starts
      cases found
      have whole : skipBlank text = (c :: tail.takeWhile inName) ++ tail.dropWhile inName := by
        rw [start, List.cons_append, List.takeWhile_append_dropWhile]
      refine scans_one whole (.name (Bool.and_eq_true_iff.2 ⟨starts, List.all_takeWhile⟩)) ?_
      intro d first
      have stops := List.head?_dropWhile_not inName tail
      rw [first] at stops
      simpa using stops
    · cases found

/-- Digits that are split off are a numeral if they are read. -/
theorem numeral_of_splitDigits {value : Int}
    (read : Text.integer? 10 (splitDigits text).1 = some value) :
    Text.Numeral (splitDigits text).1 value ∧ Text.fitsWide value = true := by
  unfold splitDigits at read ⊢
  split at read
  · rename_i tail
    have all : ∀ c ∈ tail.takeWhile Char.isDigit, c.isDigit = true :=
      List.all_eq_true.1 List.all_takeWhile
    by_cases none_ : tail.takeWhile Char.isDigit = []
    · simp [none_, Text.integer?_minus] at read
    · exact (Text.Numeral.negative ⟨none_, all⟩).of_read read
  · have all : ∀ c ∈ text.takeWhile Char.isDigit, c.isDigit = true :=
      List.all_eq_true.1 List.all_takeWhile
    by_cases none_ : text.takeWhile Char.isDigit = []
    · rw [none_] at read
      cases read
    · exact (Text.Numeral.natural ⟨none_, all⟩).of_read read

theorem scans_of_integer? {value : Int} {behind : Rest text}
    (found : integer? text = some (value, behind)) :
    Text.fitsWide value = true ∧ Scans text [.number value] behind.val := by
  unfold integer? at found
  split at found
  · cases found
  · rename_i c digits tail start
    obtain ⟨given, read, same⟩ := Option.map_eq_some_iff.1 found
    cases same
    have whole := splitDigits_append (skipBlank text)
    have numeral := @numeral_of_splitDigits (skipBlank text) value
    rw [start] at whole numeral
    obtain ⟨written, fits⟩ := numeral read
    exact ⟨fits, scans_one whole.symm (.number written) trivial⟩

/-- What a reader gives for a text: something that the words up to the rest spell, or a place of
the text. -/
def Derived (derives : List Lexeme → α → Prop) {text : List Char} (reading : Reading α text) :
    Prop :=
  match reading with
  | .ok (value, behind) => ∃ words, derives words value ∧ Scans text words behind.val
  | .error place => place.rest <:+ text

/-- Reading goes on behind what was read first. -/
theorem Derived.bind {first : List Lexeme → α → Prop} {second : List Lexeme → β → Prop}
    {inner : List Char} {reading : Reading α inner} {next : α × Rest inner → Reading β text}
    (derived : Derived first reading) (inside : inner <:+ text)
    (further : ∀ value behind words, first words value → Scans inner words behind.val →
      Derived second (next (value, behind))) : Derived second (reading >>= next) := by
  cases reading with
  | error place => exact List.IsSuffix.trans derived inside
  | ok result =>
    obtain ⟨words, derives, scans⟩ := derived
    exact further result.1 result.2 words derives scans

/-- Reading goes on behind a mark that has to be there. -/
theorem derived_mark {c : Char} (known : c ∈ marks) (expected : Expectation) {inner : List Char}
    {derives : List Lexeme → α → Prop} {next : Rest inner → Reading α text}
    (inside : inner <:+ text)
    (further : ∀ behind, Scans inner [.mark c] behind.val → Derived derives (next behind)) :
    Derived derives (mark c expected inner >>= next) := by
  unfold mark
  cases found : mark? c inner with
  | some behind => exact further behind (scans_of_mark? known found)
  | none => exact (skipBlank_suffix inner).trans inside

theorem derived_readLength (text : List Char) : Derived DerivesLength (readLength text) := by
  unfold readLength
  cases integer : integer? text with
  | some read =>
    obtain ⟨value, behind⟩ := read
    obtain ⟨-, scans⟩ := scans_of_integer? integer
    dsimp only
    split
    · rename_i bounds
      obtain ⟨length, rfl⟩ := Int.eq_ofNat_of_zero_le bounds.1
      exact ⟨_, .literal (Int.ofNat_lt.1 bounds.2), scans⟩
    · exact scans.suffix
  | none =>
    cases name : name? text with
    | some read => exact ⟨_, .parameter _, scans_of_name? name⟩
    | none => exact skipBlank_suffix text

/-- Names that are neither a qualifier nor a truth value are no keywords. -/
theorem not_mem_keywords {name : String} (qualifier : qualifier? name = none)
    (truth : truth? name = none) : name ∉ keywords := by
  intro member
  simp only [keywords, List.mem_cons, List.not_mem_nil, or_false] at member
  rcases member with rfl | rfl | rfl | rfl
  · cases qualifier
  · cases qualifier
  · cases truth
  · cases truth

theorem derives_qualified {name : String} {quals : Qualifiers} {base : Spelling}
    (qualifies : qualifier? name = some quals) (inner : Derives words base) :
    Derives (.name name :: words) (.qualified base quals) := by
  unfold qualifier? at qualifies
  split at qualifies
  · cases qualifies
    exact .const inner
  · cases qualifies
    exact .volatile inner
  · cases qualifies

theorem derivesArgument_truth {name : String} {value : Bool} (states : truth? name = some value) :
    DerivesArgument [.name name] (.bool value) := by
  unfold truth? at states
  split at states
  · cases states
    exact .true
  · cases states
    exact .false
  · cases states


/-- Words that spell arguments, with the mark behind them that ends them. -/
def DerivesEnded (words : List Lexeme) (arguments : List SpelledArgument) : Prop :=
  ∃ inner, words = inner ++ [.mark '>'] ∧ DerivesArguments inner arguments

/-- What a reader gives is derived, and it stops inside of the text where it gives nothing. The
cases are those of the readers. -/
theorem derived_read :
    (∀ text, Derived Derives (readType text)) ∧
    (∀ text, Derived DerivesEnded (readArguments text)) ∧
    (∀ text, Derived DerivesArgument (readArgument text)) := by
  refine readType.mutual_induct _ _ _ ?pointer ?bracket ?nothing ?qualified ?truth ?named ?empty
    ?applied ?arguments ?int ?bool ?type
  case pointer =>
    intro text inner _ opening target
    have opens := scans_of_mark? (by decide) opening
    rw [readType, opening]
    exact target.bind opens.suffix fun _ _ _ derives scans =>
      ⟨_, .pointer derives, opens.append scans⟩
  case bracket =>
    intro text pointer inner _ opening element
    have opens := scans_of_mark? (by decide) opening
    rw [readType, pointer, opening]
    refine element.bind opens.suffix fun element behind words derives scans => ?_
    obtain ⟨rest, fewer⟩ := behind
    have inside := scans.suffix.trans opens.suffix
    dsimp only at scans inside ⊢
    split
    · rename_i ending
      exact ⟨_, .slice derives,
        opens.append (scans.append (scans_of_mark? (by decide) ending))⟩
    · refine derived_mark (by decide) .sliceEnd inside fun behind between => ?_
      obtain ⟨rest, fewer⟩ := behind
      have inside := between.suffix.trans inside
      refine (derived_readLength rest).bind inside fun length behind size measures number => ?_
      obtain ⟨rest, fewer⟩ := behind
      have inside := number.suffix.trans inside
      refine derived_mark (by decide) .arrayEnd inside fun behind ends => ?_
      exact ⟨_, .array derives measures,
        opens.append (scans.append (between.append (number.append ends)))⟩
  case nothing =>
    intro text pointer bracket name
    rw [readType, pointer, bracket, name]
    exact skipBlank_suffix text
  case qualified =>
    intro text pointer bracket name rest _ found quals qualifies base
    have begins := scans_of_name? found
    rw [readType, pointer, bracket, found]
    simp only [qualifies]
    exact base.bind begins.suffix fun _ _ _ derives scans =>
      ⟨_, derives_qualified qualifies derives, begins.append scans⟩
  case truth =>
    intro text pointer bracket name rest _ found qualifier truth
    rw [readType, pointer, bracket, found]
    simp only [qualifier, truth, if_true]
    exact skipBlank_suffix text
  case named =>
    intro text pointer bracket name rest _ found qualifier truth angle
    have plain := not_mem_keywords qualifier (Option.not_isSome_iff_eq_none.1 truth)
    rw [readType, pointer, bracket, found]
    simp only [qualifier, truth, angle]
    exact ⟨_, .named plain, scans_of_name? found⟩
  case empty =>
    intro text pointer bracket name rest _ found qualifier truth inner _ opening last _ ending
    have plain := not_mem_keywords qualifier (Option.not_isSome_iff_eq_none.1 truth)
    rw [readType, pointer, bracket, found]
    simp only [qualifier, truth, opening, ending]
    exact ⟨_, .empty plain, (scans_of_name? found).append
      ((scans_of_mark? (by decide) opening).append (scans_of_mark? (by decide) ending))⟩
  case applied =>
    intro text pointer bracket name rest _ found qualifier truth inner _ opening ending arguments
    have plain := not_mem_keywords qualifier (Option.not_isSome_iff_eq_none.1 truth)
    have begins := (scans_of_name? found).append (scans_of_mark? (by decide) opening)
    rw [readType, pointer, bracket, found]
    simp only [qualifier, truth, opening, ending]
    refine arguments.bind begins.suffix fun arguments behind words derives scans => ?_
    obtain ⟨inner, rfl, derives⟩ := derives
    exact ⟨_, .applied plain derives, begins.append scans⟩
  case arguments =>
    intro text argument others
    rw [readArguments]
    refine argument.bind (List.suffix_refl text) fun argument behind words derives scans => ?_
    obtain ⟨rest, shorter⟩ := behind
    have inside := scans.suffix
    dsimp only at scans inside ⊢
    split
    · rename_i ending
      exact ⟨_, ⟨words, rfl, .last derives⟩, scans.append (scans_of_mark? (by decide) ending)⟩
    · refine derived_mark (by decide) .argumentsEnd inside fun behind between => ?_
      obtain ⟨rest, fewer⟩ := behind
      have inside := between.suffix.trans inside
      refine (others _ shorter rest fewer).bind inside fun arguments behind more further last => ?_
      obtain ⟨inner, rfl, further⟩ := further
      exact ⟨_, ⟨_, (List.append_assoc _ _ _).symm, .more derives further⟩,
        scans.append (between.append last)⟩
  case int =>
    intro text value behind integer
    obtain ⟨fits, scans⟩ := scans_of_integer? integer
    rw [readArgument, integer]
    exact ⟨_, .int fits, scans⟩
  case bool =>
    intro text integer value behind truth
    rw [readArgument, integer, truth]
    obtain ⟨⟨name, rest⟩, found, states⟩ := Option.bind_eq_some_iff.1 truth
    obtain ⟨value, stated, same⟩ := Option.bind_eq_some_iff.1 states
    cases same
    exact ⟨_, derivesArgument_truth stated, scans_of_name? found⟩
  case type =>
    intro text integer truth type
    rw [readArgument, integer, truth]
    exact type.bind (List.suffix_refl text) fun _ _ _ derives scans => ⟨_, .type derives, scans⟩

/-! ### What is derived is read -/

theorem Lexeme.Written.starts {lexeme : Lexeme} {chars : List Char}
    (written : lexeme.Written chars) : ∃ c tail, chars = c :: tail ∧ Text.isBlank c = false ∧
      match lexeme with
      | .mark d => c = d ∧ d ∈ marks
      | .name _ => startsName c = true
      | .number _ => c = '-' ∨ c.isDigit = true := by
  cases written with
  | mark known =>
    refine ⟨_, [], rfl, ?_, rfl, known⟩
    have solid : marks.all fun c => !Text.isBlank c := by decide
    simpa using List.all_eq_true.1 solid _ known
  | name named =>
    obtain ⟨c, tail, rfl, starts⟩ := exists_of_isWord named
    exact ⟨c, tail, rfl, (startsName_codes starts).1, starts⟩
  | number numeral =>
    cases numeral with
    | negative decimal => exact ⟨'-', _, rfl, by decide, .inl rfl⟩
    | natural decimal =>
      obtain ⟨some_, all⟩ := decimal
      cases chars with
      | nil => exact absurd rfl some_
      | cons c tail =>
        have digit := all c List.mem_cons_self
        exact ⟨c, tail, rfl, isBlank_of_isDigit digit, .inr digit⟩

/-- Behind white space a text begins with its first word. -/
theorem Scans.start {word : Lexeme} (scans : Scans text (word :: others) last) :
    ∃ chars rest, word.Written chars ∧ word.Ends rest ∧ skipBlank text = chars ++ rest ∧
      Scans rest others last := by
  cases scans with
  | @next blanks chars rest _ _ _ blank written ends further =>
    obtain ⟨c, tail, rfl, solid, -⟩ := written.starts
    refine ⟨_, _, written, ends, ?_, further⟩
    rw [skipBlank_blanks blank]
    simp [skipBlank, solid]

theorem Scans.mark_found {c : Char} (scans : Scans text (.mark c :: others) last) :
    ∃ rest shorter, mark? c text = some ⟨rest, shorter⟩ ∧ Scans rest others last := by
  obtain ⟨chars, rest, written, -, start, further⟩ := scans.start
  cases written with
  | mark known =>
    obtain ⟨shorter, found⟩ := mark?_some start
    exact ⟨rest, shorter, found, further⟩

/-- Where another word stands there is no mark. -/
theorem Scans.no_mark {c : Char} {word : Lexeme} (scans : Scans text (word :: others) last)
    (known : c ∈ marks) (other : word ≠ .mark c) : mark? c text = none := by
  obtain ⟨chars, rest, written, -, start, -⟩ := scans.start
  obtain ⟨d, tail, rfl, -, starts⟩ := written.starts
  refine mark?_other start ?_
  rintro rfl
  cases word with
  | mark e => exact other (by rw [starts.1])
  | name name =>
    have foreign : marks.all (fun c => !startsName c) = true := by decide
    have none_ := List.all_eq_true.1 foreign d known
    rw [show startsName d = true from starts] at none_
    cases none_
  | number value =>
    have foreign : marks.all (fun c => c ≠ '-' && !c.isDigit) = true := by decide
    obtain ⟨minus, digit⟩ := Bool.and_eq_true_iff.1 (List.all_eq_true.1 foreign d known)
    rcases starts with rfl | starts
    · cases minus
    · rw [starts] at digit
      cases digit

theorem Scans.name_found {name : String} (scans : Scans text (.name name :: others) last) :
    ∃ rest shorter, name? text = some (name, ⟨rest, shorter⟩) ∧ Scans rest others last := by
  obtain ⟨chars, rest, written, ends, start, further⟩ := scans.start
  cases written with
  | name named =>
    obtain ⟨shorter, found⟩ := name?_some start named ends
    exact ⟨rest, shorter, found, further⟩

/-- Where a mark stands there is no name. -/
theorem Scans.no_name {c : Char} (scans : Scans text (.mark c :: others) last) :
    name? text = none := by
  obtain ⟨chars, rest, written, -, start, -⟩ := scans.start
  cases written with
  | mark known =>
    have foreign : marks.all (fun c => !startsName c) = true := by decide
    exact name?_none start (by simpa using List.all_eq_true.1 foreign c known)

theorem Scans.no_integer {word : Lexeme} (scans : Scans text (word :: others) last)
    (other : ∀ value, word ≠ .number value) : integer? text = none := by
  obtain ⟨chars, rest, written, -, start, -⟩ := scans.start
  obtain ⟨c, tail, rfl, -, starts⟩ := written.starts
  cases word with
  | mark d =>
    obtain ⟨rfl, known⟩ := starts
    have foreign : marks.all (fun c => c ≠ '-' && !c.isDigit) = true := by decide
    obtain ⟨minus, digit⟩ := Bool.and_eq_true_iff.1 (List.all_eq_true.1 foreign c known)
    exact integer?_none start (of_decide_eq_true minus) (by simpa using digit)
  | name name =>
    exact integer?_none start (ne_of_startsName starts (by decide))
      (startsName_codes starts).2
  | number value => exact absurd rfl (other value)

/-- What may follow a type or an argument: white space, and then nothing or a mark that ends it. -/
def Stops (text : List Char) : Prop := Closed (skipBlank text)

theorem stops_of_blank (blank : IsBlank text) : Stops text := by
  have nothing := skipBlank_blanks blank []
  rw [List.append_nil] at nothing
  rw [Stops, nothing]
  exact closed_nil

theorem Scans.stops {c : Char} (scans : Scans text (.mark c :: others) last)
    (ends : c ∈ [']', ';', ',', '>']) : Stops text := by
  obtain ⟨chars, rest, written, -, start, -⟩ := scans.start
  cases written with
  | mark known =>
    rw [Stops, start]
    exact closed_cons ends rest

theorem Stops.not_digit (stops : Stops text) (c : Char) (first : text.head? = some c) :
    c.isDigit = false := by
  cases text with
  | nil => cases first
  | cons d tail =>
    cases first
    rw [Bool.eq_false_iff]
    intro digit
    have solid : skipBlank (c :: tail) = c :: tail := by
      simp [skipBlank, isBlank_of_isDigit digit]
    rw [Stops, solid] at stops
    rw [stops.not_digit rfl] at digit
    cases digit

theorem Stops.no_angle (stops : Stops text) : mark? '<' text = none := by
  refine mark?_none fun c first => ?_
  rintro rfl
  exact absurd (stops _ first) (by decide)

theorem Scans.integer_found {value : Int} (scans : Scans text [.number value] rest)
    (fits : Text.fitsWide value = true) (stops : Stops rest) :
    ∃ shorter, integer? text = some (value, ⟨rest, shorter⟩) := by
  obtain ⟨chars, behind, written, -, start, further⟩ := scans.start
  cases further
  cases written with
  | number numeral => exact integer?_some numeral fits start stops.not_digit

theorem readLength_derived {size : List Lexeme} {length : SpelledLength}
    (measures : DerivesLength size length) (scans : Scans text size rest) (stops : Stops rest) :
    ∃ shorter, readLength text = .ok (length, ⟨rest, shorter⟩) := by
  cases measures with
  | literal fits =>
    obtain ⟨shorter, read⟩ := scans.integer_found (fitsWide_length fits) stops
    exact ⟨shorter, readLength_number fits read⟩
  | parameter name =>
    have integer := scans.no_integer nofun
    obtain ⟨behind, shorter, found, further⟩ := scans.name_found
    cases further
    refine ⟨shorter, ?_⟩
    rw [readLength, integer, found]

/-- What is no keyword is neither a qualifier nor a truth value. -/
theorem plain_of_not_mem_keywords {name : String} (plain : name ∉ keywords) :
    qualifier? name = none ∧ truth? name = none := by
  simp only [keywords, List.mem_cons, List.not_mem_nil, or_false, not_or] at plain
  obtain ⟨const, volatile, true_, false_⟩ := plain
  constructor
  · unfold qualifier?
    split
    · exact absurd rfl const
    · exact absurd rfl volatile
    · rfl
  · unfold truth?
    split
    · exact absurd rfl true_
    · exact absurd rfl false_
    · rfl

/-- The words of a type begin with a mark that opens one, or with a name that is no truth value. -/
theorem Derives.opens {spelling : Spelling} (derives : Derives words spelling) :
    ∃ word others, words = word :: others ∧ (word = .mark '*' ∨ word = .mark '[' ∨
      ∃ name, word = .name name ∧ truth? name = none) := by
  cases derives with
  | const _ | volatile _ => exact ⟨_, _, rfl, .inr (.inr ⟨_, rfl, rfl⟩)⟩
  | pointer _ => exact ⟨_, _, rfl, .inl rfl⟩
  | slice _ | array _ _ => exact ⟨_, _, rfl, .inr (.inl rfl)⟩
  | named plain | empty plain | applied plain _ =>
    exact ⟨_, _, rfl, .inr (.inr ⟨_, rfl, (plain_of_not_mem_keywords plain).2⟩)⟩

/-- Where the words of a type stand there is no integer and no truth value. -/
theorem Derives.no_value {spelling : Spelling} (derives : Derives words spelling)
    (scans : Scans text words last) : integer? text = none ∧ truthArgument? text = none := by
  obtain ⟨word, others, rfl, opens⟩ := derives.opens
  rcases opens with rfl | rfl | ⟨name, rfl, truth⟩
  · exact ⟨scans.no_integer (by simp), by rw [truthArgument?, scans.no_name]; rfl⟩
  · exact ⟨scans.no_integer (by simp), by rw [truthArgument?, scans.no_name]; rfl⟩
  · obtain ⟨rest, shorter, found, -⟩ := scans.name_found
    refine ⟨scans.no_integer (by simp), ?_⟩
    rw [truthArgument?, found]
    simp only [Option.bind_eq_bind, Option.bind_some, truth]
    rfl

/-- Arguments do not begin with the mark that ends them. -/
theorem DerivesArguments.opens {arguments : List SpelledArgument}
    (derives : DerivesArguments words arguments) :
    ∃ word others, words = word :: others ∧ word ≠ .mark '>' := by
  have one : ∀ {words argument}, DerivesArgument words argument →
      ∃ word others, words = word :: others ∧ word ≠ .mark '>' := by
    intro words argument derives
    cases derives with
    | int _ | true | false => exact ⟨_, _, rfl, nofun⟩
    | type inner =>
      obtain ⟨word, others, rfl, opens⟩ := inner.opens
      refine ⟨word, others, rfl, ?_⟩
      rcases opens with rfl | rfl | ⟨name, rfl, -⟩
      · decide
      · decide
      · exact nofun
  cases derives with
  | last inner => exact one inner
  | more inner _ =>
    obtain ⟨word, others, rfl, other⟩ := one inner
    exact ⟨word, _, rfl, other⟩

/-- Words that spell a qualifier are read with the type behind them. -/
theorem readType_qualified {name : String} {quals : Qualifiers} {base : Spelling}
    (qualifies : qualifier? name = some quals)
    (scans : Scans text (.name name :: words) last)
    (inner : ∀ rest, Scans rest words last →
      ∃ shorter, readType rest = .ok (base, ⟨last, shorter⟩)) :
    ∃ shorter, readType text = .ok (.qualified base quals, ⟨last, shorter⟩) := by
  have pointer := scans.no_mark (c := '*') (by decide) nofun
  have bracket := scans.no_mark (c := '[') (by decide) nofun
  obtain ⟨rest, shorter, found, further⟩ := scans.name_found
  obtain ⟨fewer, read⟩ := inner rest further
  refine ⟨Nat.lt_trans fewer shorter, ?_⟩
  rw [readType, pointer, bracket, found]
  simp only [qualifies, read, bind, Except.bind]
  rfl

mutual

/-- The words of a type are read as it, if nothing follows that could go on. -/
theorem Derives.read {spelling : Spelling} {text last : List Char} {words : List Lexeme} :
    Derives words spelling → Scans text words last → Stops last →
      ∃ shorter, readType text = .ok (spelling, ⟨last, shorter⟩)
  | .const inner, scans, stops =>
    readType_qualified rfl scans fun _ further => inner.read further stops
  | .volatile inner, scans, stops =>
    readType_qualified rfl scans fun _ further => inner.read further stops
  | .pointer inner, scans, stops => by
    obtain ⟨rest, shorter, opening, further⟩ := scans.mark_found
    obtain ⟨fewer, read⟩ := inner.read further stops
    refine ⟨Nat.lt_trans fewer shorter, ?_⟩
    rw [readType, opening]
    simp only [read, bind, Except.bind]
    rfl
  | .slice inner, scans, stops => by
    have pointer := scans.no_mark (c := '*') (by decide) nofun
    obtain ⟨rest, shorter, opening, further⟩ := scans.mark_found
    obtain ⟨middle, first, second⟩ := further.split
    obtain ⟨fewer, read⟩ := inner.read first (second.stops (by decide))
    obtain ⟨_, less, ending, done⟩ := second.mark_found
    cases done
    refine ⟨by omega, ?_⟩
    rw [readType, pointer, opening]
    simp only [read, ending, bind, Except.bind]
    rfl
  | .array inner measures, scans, stops => by
    have pointer := scans.no_mark (c := '*') (by decide) nofun
    obtain ⟨rest, shorter, opening, further⟩ := scans.mark_found
    obtain ⟨middle, first, second⟩ := further.split
    obtain ⟨fewer, read⟩ := inner.read first (second.stops (by decide))
    have goes := second.no_mark (c := ']') (by decide) (by decide)
    obtain ⟨behind, less, between, third⟩ := second.mark_found
    obtain ⟨place, number, fourth⟩ := third.split
    obtain ⟨less', measured⟩ := readLength_derived measures number (fourth.stops (by decide))
    obtain ⟨_, less'', ending, done⟩ := fourth.mark_found
    cases done
    refine ⟨by omega, ?_⟩
    rw [readType, pointer, opening]
    simp only [read, goes, mark, between, measured, ending, bind, Except.bind]
    rfl
  | .named plain, scans, stops => by
    have pointer := scans.no_mark (c := '*') (by decide) nofun
    have bracket := scans.no_mark (c := '[') (by decide) nofun
    obtain ⟨qualifier, truth⟩ := plain_of_not_mem_keywords plain
    obtain ⟨_, shorter, found, done⟩ := scans.name_found
    cases done
    refine ⟨shorter, ?_⟩
    rw [readType, pointer, bracket, found]
    simp only [qualifier, truth, stops.no_angle]
    rfl
  | .empty plain, scans, stops => by
    have pointer := scans.no_mark (c := '*') (by decide) nofun
    have bracket := scans.no_mark (c := '[') (by decide) nofun
    obtain ⟨qualifier, truth⟩ := plain_of_not_mem_keywords plain
    obtain ⟨_, shorter, found, further⟩ := scans.name_found
    obtain ⟨_, fewer, opening, further⟩ := further.mark_found
    obtain ⟨_, less, ending, done⟩ := further.mark_found
    cases done
    refine ⟨by omega, ?_⟩
    rw [readType, pointer, bracket, found]
    simp only [qualifier, truth, opening, ending]
    rfl
  | .applied plain inner, scans, stops => by
    have pointer := scans.no_mark (c := '*') (by decide) nofun
    have bracket := scans.no_mark (c := '[') (by decide) nofun
    obtain ⟨qualifier, truth⟩ := plain_of_not_mem_keywords plain
    obtain ⟨_, shorter, found, further⟩ := scans.name_found
    obtain ⟨rest, fewer, opening, further⟩ := further.mark_found
    obtain ⟨less, read⟩ := inner.read further
    obtain ⟨word, others, rfl, other⟩ := inner.opens
    have goes := further.no_mark (by decide) other
    refine ⟨by omega, ?_⟩
    rw [readType, pointer, bracket, found]
    simp only [qualifier, truth, opening, goes, read, bind, Except.bind]
    rfl

theorem DerivesArgument.read {argument : SpelledArgument} {text last : List Char}
    {words : List Lexeme} : DerivesArgument words argument → Scans text words last → Stops last →
      ∃ shorter, readArgument text = .ok (argument, ⟨last, shorter⟩)
  | .int fits, scans, stops => by
    obtain ⟨shorter, read⟩ := scans.integer_found fits stops
    refine ⟨shorter, ?_⟩
    rw [readArgument, read]
  | .true, scans, _ => by
    have integer := scans.no_integer nofun
    obtain ⟨_, shorter, found, done⟩ := scans.name_found
    cases done
    refine ⟨shorter, ?_⟩
    rw [readArgument, integer, truthArgument?, found]
    rfl
  | .false, scans, _ => by
    have integer := scans.no_integer nofun
    obtain ⟨_, shorter, found, done⟩ := scans.name_found
    cases done
    refine ⟨shorter, ?_⟩
    rw [readArgument, integer, truthArgument?, found]
    rfl
  | .type inner, scans, stops => by
    obtain ⟨integer, truth⟩ := inner.no_value scans
    obtain ⟨shorter, read⟩ := inner.read scans stops
    refine ⟨shorter, ?_⟩
    rw [readArgument, integer, truth]
    simp only [read, bind, Except.bind]
    rfl

/-- The words of arguments are read with the mark behind them that ends them. -/
theorem DerivesArguments.read {arguments : List SpelledArgument} {text last : List Char}
    {words : List Lexeme} : DerivesArguments words arguments →
      Scans text (words ++ [.mark '>']) last →
      ∃ shorter, readArguments text = .ok (arguments, ⟨last, shorter⟩)
  | .last inner, scans => by
    obtain ⟨middle, first, second⟩ := scans.split
    obtain ⟨shorter, read⟩ := inner.read first (second.stops (by decide))
    obtain ⟨_, less, ending, done⟩ := second.mark_found
    cases done
    refine ⟨by omega, ?_⟩
    rw [readArguments]
    simp only [read, ending, bind, Except.bind]
    rfl
  | .more inner others, scans => by
    rw [List.append_assoc] at scans
    obtain ⟨middle, first, second⟩ := scans.split
    obtain ⟨shorter, read⟩ := inner.read first (second.stops (by decide))
    have goes := second.no_mark (c := '>') (by decide) (by decide)
    obtain ⟨rest, less, between, third⟩ := second.mark_found
    obtain ⟨fewer, further⟩ := others.read third
    refine ⟨by omega, ?_⟩
    rw [readArguments]
    simp only [read, goes, mark, between, further, bind, Except.bind]
    rfl

end

/-! ### Whole texts -/

theorem isBlank_of_skipBlank (nothing : skipBlank text = []) : IsBlank text := by
  obtain ⟨blanks, blank, whole⟩ := exists_blanks text
  rw [nothing, List.append_nil] at whole
  rwa [whole]

/-- A text is read as a spelling exactly if its words spell it and nothing is left behind them. -/
theorem readAll_ok {spelling : Spelling} : readAll text = .ok spelling ↔
    ∃ words rest, Scans text words rest ∧ IsBlank rest ∧ Derives words spelling := by
  constructor
  · intro whole
    unfold readAll at whole
    have derived := derived_read.1 text
    cases read : readType text with
    | error place =>
      rw [read] at whole
      cases whole
    | ok result =>
      rw [read] at whole derived
      obtain ⟨words, derives, scans⟩ := derived
      dsimp only at whole
      split at whole
      · rename_i nothing
        cases whole
        exact ⟨words, _, scans, isBlank_of_skipBlank nothing, derives⟩
      · cases whole
  · rintro ⟨words, rest, scans, blank, derives⟩
    obtain ⟨shorter, read⟩ := derives.read scans (stops_of_blank blank)
    have nothing := skipBlank_blanks blank []
    rw [List.append_nil] at nothing
    rw [readAll, read]
    exact if_pos nothing

/-- Reading stops inside of the text. -/
theorem readAll_error {place : Unexpected} (whole : readAll text = .error place) :
    place.rest <:+ text := by
  unfold readAll at whole
  have derived := derived_read.1 text
  cases read : readType text with
  | error other =>
    rw [read] at whole derived
    cases whole
    exact derived
  | ok result =>
    rw [read] at whole derived
    obtain ⟨words, -, scans⟩ := derived
    dsimp only at whole
    split at whole
    · cases whole
    · cases whole
      exact (skipBlank_suffix _).trans scans.suffix

theorem byteCount_append (first second : List Char) :
    byteCount (first ++ second) = byteCount first + byteCount second := by
  induction first with
  | nil => simp [byteCount]
  | cons c first ih => rw [List.cons_append, byteCount, byteCount, ih, Nat.add_assoc]

theorem byteCount_eq (chars : List Char) :
    byteCount chars = (String.ofList chars).utf8ByteSize := by
  induction chars with
  | nil => rfl
  | cons c chars ih =>
    rw [byteCount, ih, ← List.singleton_append, String.ofList_append, String.utf8ByteSize_append,
      ← String.utf8ByteSize_singleton]
    rfl

/-- The error at a place of a text stands between two of its characters, or at an end of it. -/
theorem Unexpected.within_isValid {place : Unexpected} {text : String}
    (inside : place.rest <:+ text.toList) :
    (⟨(place.within text.toList).offset⟩ : String.Pos.Raw).IsValid text := by
  obtain ⟨before, whole⟩ := inside
  have parts : text = String.ofList before ++ String.ofList place.rest := by
    rw [← String.ofList_append, whole, String.ofList_toList]
  have offset : (place.within text.toList).offset = (String.ofList before).utf8ByteSize := by
    rw [Unexpected.within, ← whole, byteCount_append, Nat.add_sub_cancel, byteCount_eq]
  have valid : (String.ofList before).rawEndPos.IsValid (String.ofList before) :=
    String.Pos.Raw.isValid_rawEndPos
  have ends : (⟨(place.within text.toList).offset⟩ : String.Pos.Raw) =
      (String.ofList before).rawEndPos := by rw [offset]; rfl
  rw [ends]
  exact parts ▸ valid.append_right (String.ofList place.rest)

/-- Every text is read to an end. It is read as a spelling exactly if it is words that spell it by
the grammar, with white space around and between them; no text spells two types; and where a text
spells none, the error is at a byte inside of the text, or at its end, with which a character
begins. -/
theorem ofText_grammar (text : String) :
    (∀ spelling, ofText text = .ok spelling ↔ Spells text spelling) ∧
    (∀ one two, Spells text one → Spells text two → one = two) ∧
    ((∃ spelling, ofText text = .ok spelling) ∨
      ∃ err, ofText text = .error err ∧ err.offset ≤ text.utf8ByteSize ∧
        (⟨err.offset⟩ : String.Pos.Raw).IsValid text) := by
  have exact_ : ∀ spelling, ofText text = .ok spelling ↔ Spells text spelling := by
    intro spelling
    rw [Spells, ← readAll_ok, ofText]
    cases readAll text.toList with
    | error place => simp [Except.mapError]
    | ok other => simp [Except.mapError]
  refine ⟨exact_, fun one two first second => ?_, ?_⟩
  · have same := ((exact_ one).2 first).symm.trans ((exact_ two).2 second)
    exact Except.ok.inj same
  · cases whole : readAll text.toList with
    | ok spelling => exact .inl ⟨spelling, by rw [ofText, whole]; rfl⟩
    | error place =>
      have valid := Unexpected.within_isValid (readAll_error whole)
      refine .inr ⟨place.within text.toList, ?_, valid.le_utf8ByteSize, valid⟩
      rw [ofText, whole]
      rfl

/-- A number that 128 bits do not hold is no argument: the text spells nothing. -/
example : (ofText "F<170141183460469231731687303715884105728>").isOk = false := by cbv


end Spelling

end FrontEnd
