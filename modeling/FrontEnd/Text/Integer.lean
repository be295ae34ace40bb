/-!
Integers in text: digits with or without a sign before them. They have 128 bits. Bytes are shown in
hexadecimal notation.
-/

namespace FrontEnd.Text

/-- The value of a digit. Behind the nine come the letters, of either case. -/
def digit? (radix : Nat) (c : Char) : Option Nat :=
  let value :=
    if '0' ≤ c ∧ c ≤ '9' then some (c.toNat - '0'.toNat)
    else if 'a' ≤ c ∧ c ≤ 'z' then some (c.toNat - 'a'.toNat + 10)
    else if 'A' ≤ c ∧ c ≤ 'Z' then some (c.toNat - 'A'.toNat + 10)
    else none
  value.filter (· < radix)

/-- The number that digits stand for when `sum` stands before them. -/
def naturalFrom? (radix sum : Nat) : List Char → Option Nat
  | [] => some sum
  | c :: rest => (digit? radix c).bind fun value => naturalFrom? radix (sum * radix + value) rest

/-- The number that one or more digits stand for. -/
def natural? (radix : Nat) (text : List Char) : Option Nat :=
  if text = [] then none else naturalFrom? radix 0 text

/-- The least positive number that is too large for 128 bits with a sign: two to the power of
127. -/
def wideBound : Int := 170141183460469231731687303715884105728

/-- Whether 128 bits hold a number, one of them for the sign. -/
def fitsWide (value : Int) : Bool := -wideBound ≤ value && value < wideBound

/-- The number that a text stands for, if 128 bits hold it. -/
def integer? (radix : Nat) (text : List Char) : Option Int :=
  let value := match text with
    | '-' :: digits => (natural? radix digits).map fun value => -(value : Int)
    | '+' :: digits => (natural? radix digits).map Int.ofNat
    | digits => (natural? radix digits).map Int.ofNat
  value.filter fitsWide

/-- A byte as `0x` and two hexadecimal digits. -/
def hexByte (byte : UInt8) : String :=
  let digit (value : Nat) : Char := (Nat.toDigits 16 value).headD '0'
  "0x" ++ String.ofList [digit (byte.toNat / 16), digit (byte.toNat % 16)]

end FrontEnd.Text
