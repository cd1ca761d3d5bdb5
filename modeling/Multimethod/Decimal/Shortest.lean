import Multimethod.Double

/-!
The shortest decimal that stands for a number: of all decimals that round to it, one with the
fewest digits, and of those the nearest to it. All comparisons are exact, on naturals.
-/
namespace Multimethod

/-- The magnitude `digits * 10 ^ exponent`. -/
structure Decimal where
  digits : Nat
  exponent : Int
deriving DecidableEq, Repr

namespace Decimal

/-- Which of two equally near decimals is chosen. -/
inductive Tie where
  | toEven
  | awayFromZero
deriving DecidableEq

/-- The order of `a * 10 ^ i` and `n * 2 ^ j`. -/
def compareScaled (a : Nat) (i : Int) (n : Nat) (j : Int) : Ordering :=
  compare (a * Nat.pow 10 i.toNat * Nat.pow 2 (-j).toNat)
    (n * Nat.pow 2 j.toNat * Nat.pow 10 (-i).toNat)

/-- Whether a decimal rounds to `x`: it lies between the midpoints to the neighbours of `x`, ends
included when the mantissa is even. Below a power of two the neighbour is half as far away. -/
def roundsTo (d : Decimal) (x : Double.Finite) : Bool :=
  let narrow := x.mantissa = Nat.pow 2 52 ∧ -1074 < x.exponent
  let low := if narrow then 4 * x.mantissa - 1 else 4 * x.mantissa - 2
  let high := 4 * x.mantissa + 2
  let ends := x.mantissa % 2 == 0
  let fromLow := compareScaled d.digits d.exponent low (x.exponent - 2)
  let fromHigh := compareScaled d.digits d.exponent high (x.exponent - 2)
  (fromLow == .gt || (ends && fromLow == .eq)) && (fromHigh == .lt || (ends && fromHigh == .eq))

/-- The least `k` with `x < 10 ^ k` in magnitude, for a number other than zero. The binary
logarithm gives it up to one step. -/
def scaleOf (x : Double.Finite) : Int :=
  let guess := ((x.mantissa.log2 + x.exponent) * 30103).fdiv 100000
  let below (k : Int) : Bool := compareScaled 1 k x.mantissa x.exponent == .gt
  if below guess then guess
  else if below (guess + 1) then guess + 1
  else guess + 2

/-- The decimal in units of `10 ^ unit` that rounds to `x`, the nearer one where both neighbours
of `x` on that grid do. -/
def onGrid? (tie : Tie) (x : Double.Finite) (unit : Int) : Option Decimal :=
  let num := x.mantissa * Nat.pow 2 x.exponent.toNat * Nat.pow 10 (-unit).toNat
  let den := Nat.pow 2 (-x.exponent).toNat * Nat.pow 10 unit.toNat
  let down := num / den
  let rest := num % den
  let upward : Bool :=
    if 2 * rest = den then
      match tie with
      | .toEven => down % 2 == 1
      | .awayFromZero => true
    else den < 2 * rest
  let near : Decimal := ⟨if upward then down + 1 else down, unit⟩
  let far : Decimal := ⟨if upward then down else down + 1, unit⟩
  if near.roundsTo x then some near
  else if far.roundsTo x then some far
  else none

/-- The same magnitude without zeros at the end of its digits. -/
def trim (d : Decimal) : Decimal :=
  if h : d.digits ≠ 0 ∧ d.digits % 10 = 0 then trim ⟨d.digits / 10, d.exponent + 1⟩ else d
termination_by d.digits
decreasing_by exact Nat.div_lt_self (Nat.pos_of_ne_zero h.1) (by decide)

/-- The magnitude of `x` itself as a decimal. -/
def exactly (x : Double.Finite) : Decimal :=
  ⟨x.mantissa * Nat.pow 2 x.exponent.toNat * Nat.pow 5 (-x.exponent).toNat, min x.exponent 0⟩

/-- The shortest decimal that rounds to `x`. Seventeen digits always suffice. -/
def shortest (tie : Tie) (x : Double.Finite) : Decimal :=
  if x.mantissa = 0 then ⟨0, 0⟩
  else
    let scale := scaleOf x
    let grids := (List.range 17).map fun (n : Nat) => scale - (n + 1 : Nat)
    (grids.findSome? (onGrid? tie x)).getD (exactly x) |>.trim

end Decimal

end Multimethod
