import TextTemplate.Number.Binary64

/-!
# Shortest decimal text

The decimal number written for a binary one is the one with the fewest digits among those that read
back as it, and of these the nearest. It is looked for on grids of powers of ten, coarse before
fine: if a point of a grid reads back, so does one of the two points beside the number.
`decimalText` writes it with a point where that is short, and else with an exponent.
-/
namespace TextTemplate

namespace Binary64

/-- The decimal numbers that read back as a binary one lie between two bounds. All are given in
quarters of the unit of the last place, so that they are whole. -/
structure Neighbourhood where
  /-- Four times the mantissa. -/
  centre : Nat
  /-- Half-way to the number below. -/
  low : Nat
  /-- Half-way to the number above. -/
  high : Nat
  /-- Whether the bounds themselves read back. -/
  closed : Bool

/-- The bounds of a number. The number below a power of two is only half as far away. -/
def neighbourhood (x : Binary64) : Neighbourhood where
  centre := 4 * x.mantissa
  low := 4 * x.mantissa -
    (if x.mantissa = Nat.pow 2 (mantissaBits - 1) ∧ minExponent < x.exponent then 1 else 2)
  high := 4 * x.mantissa + 2
  closed := x.mantissa % 2 == 0

/-- Whether a number of the same scale lies within the bounds, both of them scaled. -/
def Neighbourhood.holds (n : Neighbourhood) (scale point : Nat) : Bool :=
  if n.closed then n.low * scale ≤ point && point ≤ n.high * scale
  else n.low * scale < point && point < n.high * scale

/-- The multiple of a power of ten that reads back as a number, if there is one: of the two beside
the number the nearer that does, of two as near the even one. -/
def onGrid? (x : Binary64) (power : Int) : Option Decimal :=
  let n := x.neighbourhood
  let quarter := x.exponent - 2
  let scale := Nat.pow 2 quarter.toNat * Nat.pow 10 (-power).toNat
  let unit := Nat.pow 10 power.toNat * Nat.pow 2 (-quarter).toNat
  let below := n.centre * scale / unit
  let nearest := divNearest (n.centre * scale) unit
  let other := if nearest = below then below + 1 else below
  if n.holds scale (nearest * unit) then some ⟨nearest, power⟩
  else if n.holds scale (other * unit) then some ⟨other, power⟩
  else none

/-- The first hit on grids from a power of ten downwards, trying as many as there is fuel. -/
def searchGrids (x : Binary64) : Nat → Int → Option Decimal
  | 0, _ => none
  | fuel + 1, power =>
    match x.onGrid? power with
    | some hit => some hit
    | none => searchGrids x fuel (power - 1)

/-- A power of ten that is greater than a number. -/
def powerAbove (x : Binary64) : Int := ((x.exponent + mantissaBits + 1) * 30103).ediv 100000 + 1

/-- The shortest decimal number that reads back as a positive number. Seventeen digits always
suffice, so the grids that are tried do. -/
def shortest (x : Binary64) : Decimal := (searchGrids x 40 x.powerAbove).getD ⟨0, 0⟩

/-- The number of digits in front of the point up to which a number is written with a point. -/
def maxPlaces : Int := 16

/-- The number of zeros after the point up to which a number is written with a point. -/
def maxZeros : Int := 4

/-- The text of digits with an exponent; the point stands after the first digit. -/
def exponentText (digits : List Char) (exponent : Int) : String :=
  let mantissa := match digits with
    | first :: next :: rest => first :: '.' :: next :: rest
    | few => few
  let sign := if exponent < 0 then "e-" else "e+"
  String.ofList mantissa ++ sign ++ toString exponent.natAbs

/-- The text of a number that is not negative. -/
def decimalText (x : Binary64) : String :=
  if x.mantissa = 0 then "0.0"
  else
    let found := x.shortest
    let digits := Nat.toDigits 10 found.digits
    let places : Int := digits.length + found.exponent
    if 0 ≤ found.exponent ∧ places ≤ maxPlaces then
      String.ofList (digits ++ List.replicate found.exponent.toNat '0') ++ ".0"
    else if 0 < places ∧ places ≤ maxPlaces then
      String.ofList (digits.take places.toNat ++ '.' :: digits.drop places.toNat)
    else if -maxZeros ≤ places ∧ places ≤ 0 then
      "0." ++ String.ofList (List.replicate (-places).toNat '0' ++ digits)
    else exponentText digits (places - 1)

end Binary64

end TextTemplate
