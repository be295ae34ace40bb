import FrontEnd.Spelling.Basic
import FrontEnd.Text.Blank
import FrontEnd.Text.Integer

/-!
Reading of type spellings. The grammar is

    type     := "const" type | "volatile" type | "*" type | "[" type "]"
              | "[" type ";" length "]" | name | name "<" arguments ">"
    argument := integer | "true" | "false" | type
    length   := integer | name

with white space before any word or mark. Names are read as far as they go. Every reader gives
the rest of the text, which is shorter than what it was given, and so every text is read to an end.
-/

namespace FrontEnd

namespace Spelling

/-- A place in a text that does not hold what is expected there. -/
structure Unexpected where
  rest : List Char
  expected : Expectation

/-- What is left of a text behind something that was read from it. -/
abbrev Rest (text : List Char) := { rest : List Char // rest.length < text.length }

/-- The outcome of reading a text up to some place. -/
abbrev Reading (α : Type) (text : List Char) := Except Unexpected (α × Rest text)

/-- The text behind white space. -/
def skipBlank (text : List Char) : List Char := text.dropWhile Text.isBlank

theorem length_skipBlank_le (text : List Char) : (skipBlank text).length ≤ text.length :=
  (List.dropWhile_sublist _).length_le

/-- Reads a mark. -/
def mark? (mark : Char) (text : List Char) : Option (Rest text) :=
  match found : skipBlank text with
  | [] => none
  | c :: rest =>
    if c = mark then
      some ⟨rest, by have := length_skipBlank_le text; rw [found] at this; exact this⟩
    else none

/-- Reads a mark that has to be there. -/
def mark (wanted : Char) (expected : Expectation) (text : List Char) :
    Except Unexpected (Rest text) :=
  match mark? wanted text with
  | some rest => .ok rest
  | none => .error ⟨skipBlank text, expected⟩

/-- Characters with which names start. -/
def startsName (c : Char) : Bool := c == '_' || c.isAlpha

/-- Characters of which names consist. -/
def inName (c : Char) : Bool := c == '_' || c.isAlphanum

/-- Reads a name. -/
def name? (text : List Char) : Option (String × Rest text) :=
  match found : skipBlank text with
  | [] => none
  | c :: rest =>
    if startsName c then
      some (String.ofList (c :: rest.takeWhile inName), ⟨rest.dropWhile inName, by
        have := length_skipBlank_le text
        have := (List.dropWhile_sublist (l := rest) inName).length_le
        rw [found, List.length_cons] at *
        omega⟩)
    else none

/-- Splits the digits that a text starts with from what follows them. A minus sign may stand before
the digits. -/
def splitDigits : List Char → List Char × List Char
  | '-' :: rest => ('-' :: rest.takeWhile Char.isDigit, rest.dropWhile Char.isDigit)
  | text => (text.takeWhile Char.isDigit, text.dropWhile Char.isDigit)

theorem splitDigits_append (text : List Char) :
    (splitDigits text).1 ++ (splitDigits text).2 = text := by
  unfold splitDigits
  split <;> simp

/-- Reads an integer that 128 bits hold. -/
def integer? (text : List Char) : Option (Int × Rest text) :=
  match found : splitDigits (skipBlank text) with
  | ([], _) => none
  | (c :: digits, rest) => (Text.integer? 10 (c :: digits)).map fun value => (value, ⟨rest, by
      have := length_skipBlank_le text
      have := congrArg List.length (splitDigits_append (skipBlank text))
      simp only [found, List.length_append, List.length_cons] at this
      omega⟩)

/-- Reads the length of an array. -/
def readLength (text : List Char) : Reading SpelledLength text :=
  match integer? text with
  | some (value, rest) =>
    if 0 ≤ value ∧ value < UInt64.size then .ok (.literal value.toNat, rest)
    else .error ⟨rest.val, .arrayLength⟩
  | none => match name? text with
    | some (name, rest) => .ok (.parameter name, rest)
    | none => .error ⟨skipBlank text, .arrayLength⟩

/-- The qualifier that a word stands for where a type is expected. -/
def qualifier? : String → Option Qualifiers
  | "const" => some .const
  | "volatile" => some .volatile
  | _ => none

/-- The truth value that a word stands for. -/
def truth? : String → Option Bool
  | "true" => some true
  | "false" => some false
  | _ => none

/-- Reads the truth value that an argument may be. -/
def truthArgument? (text : List Char) : Option (Bool × Rest text) := do
  let (name, rest) ← name? text
  return (← truth? name, rest)

mutual

/-- Reads a type. -/
def readType (text : List Char) : Reading Spelling text :=
  match mark? '*' text with
  | some ⟨inner, _⟩ => do
    let (target, ⟨rest, _⟩) ← readType inner
    return (.pointer target, ⟨rest, by omega⟩)
  | none => match mark? '[' text with
  | some ⟨inner, _⟩ => do
    let (element, ⟨rest, _⟩) ← readType inner
    match mark? ']' rest with
    | some ⟨rest, _⟩ => return (.slice element, ⟨rest, by omega⟩)
    | none =>
      let ⟨rest, _⟩ ← mark ';' .sliceEnd rest
      let (length, ⟨rest, _⟩) ← readLength rest
      let ⟨rest, _⟩ ← mark ']' .arrayEnd rest
      return (.array element length, ⟨rest, by omega⟩)
  | none => match name? text with
  | none => .error ⟨skipBlank text, .type⟩
  | some (name, ⟨rest, _⟩) => match qualifier? name with
    | some quals => do
      let (base, ⟨rest, _⟩) ← readType rest
      return (.qualified base quals, ⟨rest, by omega⟩)
    | none =>
      if (truth? name).isSome then .error ⟨skipBlank text, .type⟩
      else match mark? '<' rest with
        | none => .ok (.named name, ⟨rest, by omega⟩)
        | some ⟨rest, _⟩ => match mark? '>' rest with
          | some ⟨rest, _⟩ => .ok (.applied name [], ⟨rest, by omega⟩)
          | none => do
            let (arguments, ⟨rest, _⟩) ← readArguments rest
            return (.applied name arguments, ⟨rest, by omega⟩)
termination_by (text.length, 0)

/-- Reads an argument. -/
def readArgument (text : List Char) : Reading SpelledArgument text :=
  match integer? text with
  | some (value, rest) => .ok (.int value, rest)
  | none => match truthArgument? text with
    | some (value, rest) => .ok (.bool value, rest)
    | none => do
      let (spelling, rest) ← readType text
      return (.type spelling, rest)
termination_by (text.length, 1)

/-- Reads one or more arguments and the mark that ends them. -/
def readArguments (text : List Char) : Reading (List SpelledArgument) text := do
  let (argument, ⟨rest, _⟩) ← readArgument text
  match mark? '>' rest with
  | some ⟨rest, _⟩ => return ([argument], ⟨rest, by omega⟩)
  | none =>
    let ⟨rest, _⟩ ← mark ',' .argumentsEnd rest
    let (arguments, ⟨rest, _⟩) ← readArguments rest
    return (argument :: arguments, ⟨rest, by omega⟩)
termination_by (text.length, 2)

end

/-- How many bytes characters take. -/
def byteCount : List Char → Nat
  | [] => 0
  | c :: rest => c.utf8Size + byteCount rest

/-- The error at a place of a text. -/
def Unexpected.within (place : Unexpected) (text : List Char) : SpellingError :=
  ⟨byteCount text - byteCount place.rest, place.expected⟩

/-- Reads a text that spells a type and nothing else. -/
def readAll (text : List Char) : Except Unexpected Spelling :=
  match readType text with
  | .error place => .error place
  | .ok (spelling, rest) =>
    if skipBlank rest.val = [] then .ok spelling else .error ⟨skipBlank rest.val, .endOfType⟩

/-- The type that a text spells. -/
def ofText (text : String) : Except SpellingError Spelling :=
  (readAll text.toList).mapError (·.within text.toList)

end Spelling

end FrontEnd
