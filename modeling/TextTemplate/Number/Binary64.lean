/-!
# Binary floating point

A `Binary64` is a finite number of the 64-bit binary format without its sign. A decimal number is
read as the nearest of them, a tie going to the even mantissa, in exact arithmetic on natural
numbers; a number beyond the range has no nearest one.
-/
namespace TextTemplate

/-- The number `mantissa · 2 ^ exponent`. -/
structure Binary64 where
  /-- The whole factor, below `2 ^ 53`. -/
  mantissa : Nat
  /-- The power of two. -/
  exponent : Int
deriving DecidableEq, Repr

/-- The number `digits · 10 ^ exponent`. -/
structure Decimal where
  /-- The whole factor. -/
  digits : Nat
  /-- The power of ten. -/
  exponent : Int
deriving DecidableEq, Repr

/-- The whole number nearest to a quotient; a tie goes to the even one. -/
def divNearest (num den : Nat) : Nat :=
  let low := num / den
  let twice := 2 * (num % den)
  if twice < den then low
  else if den < twice then low + 1
  else if low % 2 = 0 then low else low + 1

namespace Binary64

/-- The least exponent. -/
def minExponent : Int := -1074

/-- The greatest exponent. -/
def maxExponent : Int := 971

/-- The number of bits of a mantissa. -/
def mantissaBits : Nat := 53

/-- A quotient divided by a power of two, as a quotient. -/
def unscale (num den : Nat) (exponent : Int) : Nat × Nat :=
  (num * Nat.pow 2 (-exponent).toNat, den * Nat.pow 2 exponent.toNat)

/-- The greatest power of two that is at most a quotient of positive numbers. -/
def log2Floor (num den : Nat) : Int :=
  let guess : Int := (num.log2 : Int) - den.log2
  let (n, d) := unscale num den guess
  if n < d then guess - 1 else guess

/-- The number nearest to a quotient, if the quotient is in range. -/
def ofQuotient? (num den : Nat) : Option Binary64 :=
  if num = 0 then some ⟨0, minExponent⟩
  else
    let exponent := max (log2Floor num den - (mantissaBits - 1)) minExponent
    let (n, d) := unscale num den exponent
    let mantissa := divNearest n d
    let rounded : Binary64 :=
      if mantissa = Nat.pow 2 mantissaBits then ⟨Nat.pow 2 (mantissaBits - 1), exponent + 1⟩
      else ⟨mantissa, exponent⟩
    if maxExponent < rounded.exponent then none else some rounded

end Binary64

namespace Decimal

/-- The number of decimal digits of the whole factor. -/
def length (x : Decimal) : Nat := (Nat.toDigits 10 x.digits).length

/-- The binary number nearest to a decimal one, if that is in range. Numbers far above the range
and far below the least positive number are told by their size alone. -/
def nearest? (x : Decimal) : Option Binary64 :=
  if x.digits = 0 then some ⟨0, Binary64.minExponent⟩
  else
    let magnitude : Int := x.length + x.exponent
    if 400 < magnitude then none
    else if magnitude < -400 then some ⟨0, Binary64.minExponent⟩
    else
      Binary64.ofQuotient? (x.digits * Nat.pow 10 x.exponent.toNat)
        (Nat.pow 10 (-x.exponent).toNat)

end Decimal

end TextTemplate
