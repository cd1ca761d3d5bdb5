/-!
Binary floating-point numbers of 64 bits as exact values: a sign, a mantissa below `2 ^ 53`
and a power of two. Every operation computes the exact result as a ratio of naturals and
rounds it once, to nearest with ties to the even mantissa. Definitions call the power of naturals by
its name, since what `^` stands for depends on the imports.
-/
namespace Multimethod

namespace Double

/-- The range in which each magnitude `mantissa * 2 ^ exponent` has exactly one form: the
mantissa is full, unless the exponent is already the least one. -/
def Canonical (mantissa : Nat) (exponent : Int) : Prop :=
  mantissa < Nat.pow 2 53 ∧ -1074 ≤ exponent ∧ exponent ≤ 971 ∧
    (Nat.pow 2 52 ≤ mantissa ∨ exponent = -1074)

instance (mantissa : Nat) (exponent : Int) : Decidable (Canonical mantissa exponent) :=
  inferInstanceAs (Decidable (_ ∧ _ ∧ _ ∧ _))

/-- A finite number: the magnitude `mantissa * 2 ^ exponent` under a sign. Zero keeps its sign. -/
structure Finite where
  negative : Bool
  mantissa : Nat
  exponent : Int
  canonical : Canonical mantissa exponent
deriving DecidableEq

/-- The zero of the given sign. -/
def Finite.zero (negative : Bool) : Finite :=
  ⟨negative, 0, -1074, by decide⟩

instance : Inhabited Finite := ⟨.zero false⟩

/-- The number under the opposite sign. -/
def Finite.neg (x : Finite) : Finite :=
  { x with negative := !x.negative }

/-- The integer that the number equals, where it equals one. -/
def Finite.toInt? (x : Finite) : Option Int :=
  let signed (n : Nat) : Int := if x.negative then -(n : Int) else n
  if 0 ≤ x.exponent then
    some (signed (x.mantissa * Nat.pow 2 x.exponent.toNat))
  else
    let unit := Nat.pow 2 (-x.exponent).toNat
    if x.mantissa % unit = 0 then some (signed (x.mantissa / unit)) else none

end Double

/-- A number of 64 bits, or one of the three marks that stand beside the finite numbers. All
payloads of the undefined result are one value. -/
inductive Double where
  | nan
  | infinite (negative : Bool)
  | finite (x : Double.Finite)
deriving DecidableEq

namespace Double

instance : Inhabited Double := ⟨.finite default⟩

/-- The number of the given form, or the infinity of its sign where the form is out of range. -/
def ofForm (negative : Bool) (mantissa : Nat) (exponent : Int) : Double :=
  if h : Canonical mantissa exponent then .finite ⟨negative, mantissa, exponent, h⟩
  else .infinite negative

/-! ### Rounding -/

/-- `num / den` as an integer, a half going to the even neighbour. -/
def roundHalfEven (num den : Nat) : Nat :=
  let whole := num / den
  let rest := num % den
  if 2 * rest < den then whole
  else if den < 2 * rest then whole + 1
  else whole + whole % 2

/-- The exponent under which the mantissa of `num / den` is full, but never below the least. -/
def exponentOf (num den : Nat) : Int :=
  let guess : Int := (num.log2 : Int) - (den.log2 : Int) - 52
  let short := num * Nat.pow 2 (-guess).toNat < Nat.pow 2 52 * (den * Nat.pow 2 guess.toNat)
  max (if short then guess - 1 else guess) (-1074)

/-- The number nearest to `num / den` under the given sign. -/
def ofRatio (negative : Bool) (num den : Nat) : Double :=
  if num = 0 then .finite (.zero negative)
  else
    let exponent := exponentOf num den
    let mantissa :=
      roundHalfEven (num * Nat.pow 2 (-exponent).toNat) (den * Nat.pow 2 exponent.toNat)
    if mantissa = Nat.pow 2 53 then ofForm negative (Nat.pow 2 52) (exponent + 1)
    else ofForm negative mantissa exponent

/-- The number nearest to an integer. -/
def ofInt (n : Int) : Double :=
  ofRatio (n < 0) n.natAbs 1

/-! ### Bits -/

/-- The number that 64 bits stand for: sign, eleven bits of exponent, 52 bits of mantissa. -/
def ofBits (bits : UInt64) : Double :=
  let negative := bits.toNat / Nat.pow 2 63 == 1
  let scale : Nat := bits.toNat / Nat.pow 2 52 % Nat.pow 2 11
  let fraction : Nat := bits.toNat % Nat.pow 2 52
  if scale = 2047 then if fraction = 0 then .infinite negative else .nan
  else if scale = 0 then ofForm negative fraction (-1074)
  else ofForm negative (Nat.pow 2 52 + fraction) ((scale : Int) - 1075)

/-- The bits of a number; the undefined result has the quiet pattern of positive sign. -/
def toBits : Double → UInt64
  | .nan => 0x7FF8000000000000
  | .infinite negative => .ofNat (signBit negative + 2047 * Nat.pow 2 52)
  | .finite x =>
    if x.mantissa < Nat.pow 2 52 then .ofNat (signBit x.negative + x.mantissa)
    else
      .ofNat (signBit x.negative + (x.exponent + 1075).toNat * Nat.pow 2 52 +
        (x.mantissa - Nat.pow 2 52))
where
  /-- The highest bit carries the sign. -/
  signBit (negative : Bool) : Nat := if negative then Nat.pow 2 63 else 0

/-! ### Comparison and arithmetic -/

/-- Numeric equality: the undefined result equals nothing, and the two zeros are equal. -/
protected def beq : Double → Double → Bool
  | .infinite a, .infinite b => a == b
  | .finite x, .finite y => x == y || (x.mantissa == 0 && y.mantissa == 0)
  | _, _ => false

instance : BEq Double := ⟨Double.beq⟩

/-- The number under the opposite sign. -/
protected def neg : Double → Double
  | .nan => .nan
  | .infinite negative => .infinite (!negative)
  | .finite x => .finite x.neg

/-- The product, rounded once. A zero times an infinity is undefined. -/
protected def mul : Double → Double → Double
  | .finite x, .finite y =>
    let exponent := x.exponent + y.exponent
    ofRatio (x.negative != y.negative) (x.mantissa * y.mantissa * Nat.pow 2 exponent.toNat)
      (Nat.pow 2 (-exponent).toNat)
  | .infinite a, .infinite b => .infinite (a != b)
  | .infinite a, .finite y => if y.mantissa = 0 then .nan else .infinite (a != y.negative)
  | .finite x, .infinite b => if x.mantissa = 0 then .nan else .infinite (x.negative != b)
  | .nan, _ => .nan
  | _, .nan => .nan

/-- The quotient, rounded once. Zero over zero and infinity over infinity are undefined; any
other number over zero is infinite. -/
protected def div : Double → Double → Double
  | .finite x, .finite y =>
    let negative := x.negative != y.negative
    if y.mantissa = 0 then if x.mantissa = 0 then .nan else .infinite negative
    else
      let exponent := x.exponent - y.exponent
      ofRatio negative (x.mantissa * Nat.pow 2 exponent.toNat)
        (y.mantissa * Nat.pow 2 (-exponent).toNat)
  | .infinite a, .finite y => .infinite (a != y.negative)
  | .finite x, .infinite b => .finite (.zero (x.negative != b))
  | .infinite _, .infinite _ => .nan
  | .nan, _ => .nan
  | _, .nan => .nan

instance : Neg Double := ⟨Double.neg⟩

instance : Mul Double := ⟨Double.mul⟩

instance : Div Double := ⟨Double.div⟩

/-- The integer that the number equals, where it equals one. -/
def toInt? : Double → Option Int
  | .finite x => x.toInt?
  | _ => none

/-- Integers up to this magnitude are told apart by their numbers. -/
def maxExactInt : Nat := Nat.pow 2 53 - 1

/-- The integer that the number equals, where it is one that numbers tell apart. -/
def Finite.toExactInt? (x : Finite) : Option Int :=
  x.toInt?.filter fun n => n.natAbs ≤ maxExactInt

end Double

end Multimethod
