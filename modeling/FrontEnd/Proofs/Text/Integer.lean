import FrontEnd.Text.Integer

/-!
Decimal digits. What a text of digits stands for, and that integers are read accordingly: one that
128 bits hold is read from each of its numerals, so also from its own digits.
-/

namespace FrontEnd.Text

/-- The digits of an integer, with a minus sign before those of a negative one. -/
def decimal : Int → List Char
  | .ofNat n => Nat.toDigits 10 n
  | .negSucc n => '-' :: Nat.toDigits 10 (n + 1)

/-- The characters are decimal digits, and there is one at least. -/
def IsDecimal (digits : List Char) : Prop := digits ≠ [] ∧ ∀ c ∈ digits, c.isDigit = true

/-- A text of decimal digits, with a minus sign before them or without, and the number that it
stands for. -/
inductive Numeral : List Char → Int → Prop where
  | natural {digits : List Char} (decimal : IsDecimal digits) :
    Numeral digits (Nat.ofDigitChars 10 digits 0)
  | negative {digits : List Char} (decimal : IsDecimal digits) :
    Numeral ('-' :: digits) (-(Nat.ofDigitChars 10 digits 0 : Int))

theorem toList_toString_nat (n : Nat) : (toString n).toList = Nat.toDigits 10 n := by
  rw [Nat.toString_eq_ofList_toDigits, String.toList_ofList]

theorem toList_toString_int (value : Int) : (toString value).toList = decimal value := by
  cases value with
  | ofNat n => exact toList_toString_nat n
  | negSucc n =>
    have parts : toString (Int.negSucc n) = "-" ++ toString (n + 1) := rfl
    rw [parts, String.toList_append, toList_toString_nat]
    rfl

theorem isDigit_of_mem_decimal {n : Nat} {c : Char} (member : c ∈ Nat.toDigits 10 n) :
    c.isDigit = true :=
  Nat.isDigit_of_mem_toDigits (by decide) (by decide) member

theorem isDecimal_toDigits (n : Nat) : IsDecimal (Nat.toDigits 10 n) :=
  ⟨Nat.toDigits_ne_nil, fun _ => isDigit_of_mem_decimal⟩

/-- The digits of an integer stand for it. -/
theorem numeral_decimal (value : Int) : Numeral (decimal value) value := by
  cases value with
  | ofNat n =>
    have numeral := Numeral.natural (isDecimal_toDigits n)
    rwa [Nat.ofDigitChars_ten_toDigits] at numeral
  | negSucc n =>
    have numeral := Numeral.negative (isDecimal_toDigits (n + 1))
    rwa [Nat.ofDigitChars_ten_toDigits] at numeral

/-- The decimal digits stand for the numbers below ten. -/
theorem digit?_of_isDigit {c : Char} (digit : c.isDigit = true) :
    digit? 10 c = some (c.toNat - '0'.toNat) := by
  simp only [Char.isDigit, Bool.and_eq_true, decide_eq_true_eq, ge_iff_le] at digit
  obtain ⟨least, most⟩ := digit
  have bounds : '0' ≤ c ∧ c ≤ '9' := ⟨least, most⟩
  have small : c.toNat - '0'.toNat < 10 := by
    have most' : c.toNat ≤ 57 := most
    have zero : '0'.toNat = 48 := rfl
    omega
  simp only [digit?, if_pos bounds, Option.filter_some, decide_eq_true_eq]
  exact if_pos small

theorem naturalFrom?_digits {digits : List Char} (all : ∀ c ∈ digits, c.isDigit = true)
    (sum : Nat) : naturalFrom? 10 sum digits = some (Nat.ofDigitChars 10 digits sum) := by
  induction digits generalizing sum with
  | nil => simp [naturalFrom?]
  | cons c rest ih =>
    obtain ⟨first, others⟩ := List.forall_mem_cons.1 all
    rw [naturalFrom?, digit?_of_isDigit first, Option.bind_some, ih others,
      Nat.ofDigitChars_cons, Nat.mul_comm]

theorem natural?_decimal {digits : List Char} (decimal : IsDecimal digits) :
    natural? 10 digits = some (Nat.ofDigitChars 10 digits 0) := by
  rw [natural?, if_neg decimal.1, naturalFrom?_digits decimal.2]

/-- Digits without a sign are read as what they stand for, if 128 bits hold it. -/
theorem integer?_natural {digits : List Char} (decimal : IsDecimal digits) :
    integer? 10 digits = (some (Nat.ofDigitChars 10 digits 0 : Int)).filter fitsWide := by
  obtain ⟨some_, all⟩ := decimal
  cases digits with
  | nil => exact absurd rfl some_
  | cons c rest =>
    have digit := all c List.mem_cons_self
    unfold integer?
    split
    · rename_i same
      rw [(List.cons.inj same).1] at digit
      cases digit
    · rename_i same
      rw [(List.cons.inj same).1] at digit
      cases digit
    · rw [natural?_decimal ⟨some_, all⟩]
      rfl

theorem integer?_negative {digits : List Char} (decimal : IsDecimal digits) :
    integer? 10 ('-' :: digits) = (some (-(Nat.ofDigitChars 10 digits 0 : Int))).filter fitsWide := by
  simp only [integer?, natural?_decimal decimal]
  rfl

/-- A numeral is read as what it stands for, if 128 bits hold it, and else not at all. -/
theorem Numeral.read {text : List Char} {value : Int} (numeral : Numeral text value) :
    integer? 10 text = (some value).filter fitsWide := by
  cases numeral with
  | natural decimal => exact integer?_natural decimal
  | negative decimal => exact integer?_negative decimal

theorem Numeral.ne_nil {text : List Char} {value : Int} (numeral : Numeral text value) :
    text ≠ [] := by
  cases numeral with
  | natural decimal => exact decimal.1
  | negative decimal => exact List.cons_ne_nil _ _

/-- The digits of a number that 128 bits hold are read as that number. -/
theorem integer?_numeral {text : List Char} {value : Int} (numeral : Numeral text value)
    (fits : fitsWide value = true) : integer? 10 text = some value := by
  rw [numeral.read, Option.filter_some, if_pos fits]

/-- What is read from a numeral is what it stands for. -/
theorem Numeral.of_read {text : List Char} {other value : Int} (numeral : Numeral text other)
    (read : integer? 10 text = some value) : Numeral text value ∧ fitsWide value = true := by
  rw [numeral.read, Option.filter_eq_some_iff] at read
  obtain ⟨same, fits⟩ := read
  cases same
  exact ⟨numeral, fits⟩

/-- A minus sign alone is no numeral, and it is not read. -/
theorem integer?_minus : integer? 10 ['-'] = none := rfl

end FrontEnd.Text
