import Multimethod.Decimal.Shortest

/-!
How a number is written: its shortest digits, laid out with a point or with an exponent as a
`Layout` says. Each text format of the library owns one value of that type.
-/
namespace Multimethod

namespace Decimal

/-- The decisions of a text format about numbers. -/
structure Layout where
  /-- Which of two equally near decimals is written. -/
  tie : Tie
  /-- The least power of ten whose multiples are written with a point. -/
  pointFrom : Int
  /-- The first power of ten from which an exponent is written. -/
  pointBelow : Int
  /-- Whether an exponent without a minus sign gets a plus sign. -/
  plus : Bool
deriving DecidableEq

/-- The digits of a natural number, most significant first. -/
def digitText (n : Nat) : List Char :=
  Nat.toDigits 10 n

/-- An integer with a minus sign where it is negative. -/
def intText (n : Int) : List Char :=
  if n < 0 then '-' :: digitText n.natAbs else digitText n.natAbs

namespace Layout

/-- Digits with a point after the first `place` of them, filled up with zeros on either side; one
digit at least stands on each side of the point. -/
def withPoint (digits : List Char) (place : Int) : List Char :=
  if place ≤ 0 then
    ['0', '.'] ++ List.replicate (-place).toNat '0' ++ digits
  else
    let whole := digits.take place.toNat
    let fraction := digits.drop place.toNat
    whole ++ List.replicate (place.toNat - whole.length) '0' ++ ['.'] ++
      (if fraction.isEmpty then ['0'] else fraction)

/-- Digits with a point after the first, where more follow, and the power of ten of the first. -/
def withExponent (layout : Layout) (digits : List Char) (power : Int) : List Char :=
  let mantissa :=
    match digits with
    | first :: second :: rest => first :: '.' :: second :: rest
    | short => short
  mantissa ++ ['e'] ++ (if layout.plus && 0 ≤ power then ['+'] else []) ++ intText power

/-- The text of a finite number. -/
def write (layout : Layout) (x : Double.Finite) : List Char :=
  let decimal := shortest layout.tie x
  let digits := digitText decimal.digits
  let place := digits.length + decimal.exponent
  let power := place - 1
  let magnitude :=
    if decimal.digits = 0 ∨ (layout.pointFrom ≤ power ∧ power < layout.pointBelow) then
      withPoint digits place
    else layout.withExponent digits power
  if x.negative then '-' :: magnitude else magnitude

end Layout

end Decimal

end Multimethod
