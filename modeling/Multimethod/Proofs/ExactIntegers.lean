import Mathlib.Algebra.Order.Ring.Nat
import Multimethod.Double

/-!
Integers among the numbers. Every integer below `2 ^ 53` in magnitude is a number, and no other number
equals it, the sign of zero apart: rounding an integer and reading a number as an integer undo each
other there (`exact_ofInt`, `ofInt_of_exact`). Beyond that an integer is rounded, but never to anything
infinite before it has more than 1023 bits (`ofInt_finite`).
-/
namespace Multimethod.Double

/-! ### The form of a small integer -/

private theorem log2_le_of_small {n : Nat} (solid : 0 < n) (small : n < Nat.pow 2 53) : n.log2 ≤ 52 :=
  Nat.le_of_lt_succ ((Nat.log2_lt (Nat.ne_of_gt solid)).mpr small)

/-- The mantissa of an integer is moved until it is full: up while there is room, else down. -/
theorem moved_mantissa {n : Nat} (solid : 0 < n) :
    Nat.pow 2 52 * Nat.pow 2 (n.log2 - 52) ≤ n * Nat.pow 2 (52 - n.log2) ∧
      n * Nat.pow 2 (52 - n.log2) < Nat.pow 2 53 * Nat.pow 2 (n.log2 - 52) := by
  have low : (2 : Nat) ^ 52 * 2 ^ (n.log2 - 52) = 2 ^ n.log2 * 2 ^ (52 - n.log2) := by
    rw [← Nat.pow_add, ← Nat.pow_add]
    congr 1
    omega
  have high : (2 : Nat) ^ 53 * 2 ^ (n.log2 - 52) = 2 ^ (n.log2 + 1) * 2 ^ (52 - n.log2) := by
    rw [← Nat.pow_add, ← Nat.pow_add]
    congr 1
    omega
  constructor
  · calc 2 ^ 52 * 2 ^ (n.log2 - 52) = 2 ^ n.log2 * 2 ^ (52 - n.log2) := low
      _ ≤ n * 2 ^ (52 - n.log2) := Nat.mul_le_mul_right _ (Nat.log2_self_le (Nat.ne_of_gt solid))
  · calc n * 2 ^ (52 - n.log2) < 2 ^ (n.log2 + 1) * 2 ^ (52 - n.log2) :=
          Nat.mul_lt_mul_of_pos_right Nat.lt_log2_self (Nat.two_pow_pos _)
      _ = 2 ^ 53 * 2 ^ (n.log2 - 52) := high.symm

/-- The mantissa of a small integer is the integer, moved up until it is full. -/
theorem full_mantissa {n : Nat} (solid : 0 < n) (small : n < Nat.pow 2 53) :
    Nat.pow 2 52 ≤ n * Nat.pow 2 (52 - n.log2) ∧ n * Nat.pow 2 (52 - n.log2) < Nat.pow 2 53 := by
  have bound := log2_le_of_small solid small
  have moved := moved_mantissa solid
  rwa [Nat.sub_eq_zero_of_le bound] at moved

private theorem canonical_small {n : Nat} (solid : 0 < n) (small : n < Nat.pow 2 53) :
    Canonical (n * Nat.pow 2 (52 - n.log2)) ((n.log2 : Int) - 52) := by
  have bound := log2_le_of_small solid small
  obtain ⟨full, fits⟩ := full_mantissa solid small
  exact ⟨fits, by omega, by omega, .inl full⟩

/-- The number of a small integer under a sign. -/
def ofSmall (negative : Bool) {n : Nat} (solid : 0 < n) (small : n < Nat.pow 2 53) : Finite :=
  ⟨negative, n * Nat.pow 2 (52 - n.log2), (n.log2 : Int) - 52, canonical_small solid small⟩

private theorem exponentOf_one {n : Nat} (solid : 0 < n) : exponentOf n 1 = (n.log2 : Int) - 52 := by
  obtain ⟨full, -⟩ := moved_mantissa solid
  have guess : (n.log2 : Int) - ((Nat.log2 1 : Nat) : Int) - 52 = (n.log2 : Int) - 52 := by
    rw [show Nat.log2 1 = 0 from rfl]
    omega
  have up : (-((n.log2 : Int) - 52)).toNat = 52 - n.log2 := by omega
  have down : ((n.log2 : Int) - 52).toNat = n.log2 - 52 := by omega
  have long : ¬ n * Nat.pow 2 (52 - n.log2) < Nat.pow 2 52 * (1 * Nat.pow 2 (n.log2 - 52)) := by
    rw [Nat.one_mul]
    exact Nat.not_lt.mpr full
  simp only [exponentOf, guess, up, down, if_neg long]
  omega

private theorem roundHalfEven_one (n : Nat) : roundHalfEven n 1 = n := by
  simp [roundHalfEven, Nat.mod_one]

/-- Rounding leaves a small integer as it is. -/
theorem ofRatio_small (negative : Bool) {n : Nat} (solid : 0 < n) (small : n < Nat.pow 2 53) :
    ofRatio negative n 1 = .finite (ofSmall negative solid small) := by
  have bound := log2_le_of_small solid small
  obtain ⟨-, fits⟩ := full_mantissa solid small
  have up : (-((n.log2 : Int) - 52)).toNat = 52 - n.log2 := by omega
  have down : ((n.log2 : Int) - 52).toNat = 0 := by omega
  have whole : 1 * Nat.pow 2 0 = 1 := rfl
  simp only [ofRatio, Nat.ne_of_gt solid, ↓reduceIte, exponentOf_one solid, up, down, whole,
    roundHalfEven_one, Nat.ne_of_lt fits, ofForm, canonical_small solid small, ↓reduceDIte]
  rfl

/-! ### Integers of any size -/

private theorem roundHalfEven_bounds (num den : Nat) :
    num / den ≤ roundHalfEven num den ∧ roundHalfEven num den ≤ num / den + 1 := by
  unfold roundHalfEven
  dsimp only
  split
  · omega
  split <;> omega

/-- Rounding makes no integer infinite that has at most 1023 bits. -/
theorem ofInt_finite {k : Int} (bits : k.natAbs.log2 < 1023) : ∃ x, ofInt k = .finite x := by
  unfold ofInt ofRatio
  generalize decide (k < 0) = negative
  generalize k.natAbs = n at bits
  split
  · exact ⟨_, rfl⟩
  · rename_i some_bit
    have solid := Nat.pos_of_ne_zero some_bit
    have room : 0 < Nat.pow 2 (n.log2 - 52) := Nat.two_pow_pos _
    obtain ⟨full, fits⟩ := moved_mantissa solid
    have up : (-((n.log2 : Int) - 52)).toNat = 52 - n.log2 := by omega
    have down : ((n.log2 : Int) - 52).toNat = n.log2 - 52 := by omega
    obtain ⟨least, most⟩ := roundHalfEven_bounds (n * Nat.pow 2 (52 - n.log2)) (Nat.pow 2 (n.log2 - 52))
    have atLeast := Nat.le_trans ((Nat.le_div_iff_mul_le room).mpr full) least
    have atMost := Nat.le_trans most ((Nat.div_lt_iff_lt_mul room).mpr fits)
    simp only [exponentOf_one solid, up, down, Nat.one_mul]
    split
    · have carried : Canonical (Nat.pow 2 52) ((n.log2 : Int) - 52 + 1) :=
        ⟨by decide, by omega, by omega, .inl (Nat.le_refl _)⟩
      exact ⟨_, dif_pos carried⟩
    · rename_i smaller
      have canonical := And.intro (Nat.lt_of_le_of_ne atMost smaller) atLeast
      exact ⟨_, dif_pos ⟨canonical.1, by omega, by omega, .inl canonical.2⟩⟩

/-! ### Numbers that equal an integer -/

/-- A magnitude under a sign. -/
def signed (negative : Bool) (n : Nat) : Int :=
  if negative then -(n : Int) else n

private theorem natAbs_signed (negative : Bool) (n : Nat) : (signed negative n).natAbs = n := by
  cases negative <;> simp [signed]

/-- An integer is its magnitude under its sign. -/
theorem signed_natAbs (k : Int) : signed (k < 0) k.natAbs = k := by
  unfold signed
  by_cases below : k < 0
  · rw [if_pos (decide_eq_true below)]
    omega
  · rw [if_neg (by simpa using below)]
    omega

/-- A number equals an integer if its magnitude is that of the integer, in whichever way the power of
two has to be moved to say so. -/
theorem toInt?_iff (x : Finite) (k : Int) : x.toInt? = some k ↔ ∃ n : Nat, k = signed x.negative n ∧
    x.mantissa * Nat.pow 2 x.exponent.toNat = n * Nat.pow 2 (-x.exponent).toNat := by
  unfold Finite.toInt?
  by_cases large : 0 ≤ x.exponent
  · have down : (-x.exponent).toNat = 0 := by omega
    simp only [large, ↓reduceIte, down, Option.some.injEq]
    constructor
    · rintro rfl
      exact ⟨_, rfl, (Nat.mul_one _).symm⟩
    · rintro ⟨n, rfl, same⟩
      rw [same]
      exact congrArg (signed x.negative) (Nat.mul_one n)
  · have up : x.exponent.toNat = 0 := by omega
    have unit : 0 < Nat.pow 2 (-x.exponent).toNat := Nat.two_pow_pos _
    have plain : x.mantissa * Nat.pow 2 0 = x.mantissa := Nat.mul_one _
    simp only [large, ↓reduceIte, up, plain, Option.ite_none_right_eq_some, Option.some.injEq]
    constructor
    · rintro ⟨divides, rfl⟩
      exact ⟨_, rfl, (Nat.div_mul_cancel (Nat.dvd_of_mod_eq_zero divides)).symm⟩
    · rintro ⟨n, rfl, same⟩
      rw [same]
      exact ⟨Nat.mul_mod_left _ _, congrArg (signed x.negative) (Nat.mul_div_cancel n unit)⟩

theorem toExactInt?_iff (x : Finite) (k : Int) :
    x.toExactInt? = some k ↔ x.toInt? = some k ∧ k.natAbs ≤ maxExactInt := by
  simp [Finite.toExactInt?, Option.filter_eq_some_iff]

theorem le_maxExactInt_iff (n : Nat) : n ≤ maxExactInt ↔ n < Nat.pow 2 53 := by
  have bound : maxExactInt + 1 = Nat.pow 2 53 := rfl
  omega

/-- Exactly the zeros equal zero. -/
theorem toExactInt?_zero_iff (x : Finite) : x.toExactInt? = some 0 ↔ x.mantissa = 0 := by
  rw [toExactInt?_iff, toInt?_iff]
  constructor
  · rintro ⟨⟨n, zero, same⟩, -⟩
    have none : n = 0 := by rw [← natAbs_signed x.negative n, ← zero]; rfl
    have power : 0 < Nat.pow 2 x.exponent.toNat := Nat.two_pow_pos _
    rw [none, Nat.zero_mul, Nat.mul_eq_zero] at same
    omega
  · intro zero
    refine ⟨⟨0, ?_, by rw [zero, Nat.zero_mul, Nat.zero_mul]⟩, Nat.zero_le _⟩
    cases x.negative <;> rfl

/-- A number that equals a small integer has the form of that integer. -/
theorem form_of_small {mantissa n : Nat} {exponent : Int} (canonical : Canonical mantissa exponent)
    (solid : 0 < n) (small : n < Nat.pow 2 53)
    (same : mantissa * Nat.pow 2 exponent.toNat = n * Nat.pow 2 (-exponent).toNat) :
    mantissa = n * Nat.pow 2 (52 - n.log2) ∧ exponent = (n.log2 : Int) - 52 := by
  obtain ⟨fits, least, -, full⟩ := canonical
  by_cases large : 0 ≤ exponent
  · have down : (-exponent).toNat = 0 := by omega
    have normal : Nat.pow 2 52 ≤ mantissa := full.resolve_right (by omega)
    rw [down, show n * Nat.pow 2 0 = n from Nat.mul_one n] at same
    -- A full mantissa leaves no room for a factor of two.
    have none : exponent.toNat = 0 := by
      by_contra some_power
      have double : Nat.pow 2 1 ≤ Nat.pow 2 exponent.toNat :=
        Nat.pow_le_pow_right (by decide) (Nat.pos_of_ne_zero some_power)
      have beyond : Nat.pow 2 52 * Nat.pow 2 1 ≤ n := same ▸ Nat.mul_le_mul normal double
      exact absurd small (Nat.not_lt.mpr beyond)
    rw [none, show mantissa * Nat.pow 2 0 = mantissa from Nat.mul_one mantissa] at same
    have highest : n.log2 = 52 :=
      (Nat.log2_eq_iff (Nat.ne_of_gt solid)).mpr ⟨same ▸ normal, small⟩
    rw [highest, same]
    exact ⟨(Nat.mul_one n).symm, by omega⟩
  · have up : exponent.toNat = 0 := by omega
    rw [up, show mantissa * Nat.pow 2 0 = mantissa from Nat.mul_one mantissa] at same
    generalize steps : (-exponent).toNat = k at same
    have few : k < 53 := by
      have power : Nat.pow 2 k < Nat.pow 2 53 := calc
        Nat.pow 2 k ≤ n * Nat.pow 2 k := Nat.le_mul_of_pos_left _ solid
        _ < Nat.pow 2 53 := same ▸ fits
      exact (Nat.pow_lt_pow_iff_right (by decide)).mp power
    have normal : Nat.pow 2 52 ≤ mantissa := full.resolve_right (by omega)
    have low : Nat.pow 2 52 = 2 ^ (52 - k) * 2 ^ k := by
      rw [← Nat.pow_add, Nat.sub_add_cancel (by omega)]
    have high : Nat.pow 2 53 = 2 ^ (52 - k + 1) * 2 ^ k := by
      rw [← Nat.pow_add, show 52 - k + 1 + k = 53 by omega]
    have highest : n.log2 = 52 - k := by
      refine (Nat.log2_eq_iff (Nat.ne_of_gt solid)).mpr ⟨?_, ?_⟩
      · exact Nat.le_of_mul_le_mul_right (low ▸ same ▸ normal) (Nat.two_pow_pos k)
      · exact Nat.lt_of_mul_lt_mul_right (high ▸ same ▸ fits)
    rw [highest, same, show 52 - (52 - k) = k by omega]
    exact ⟨rfl, by omega⟩

/-! ### There and back -/

/-- Rounding an integer gives back the number that equals it; only the sign of zero is lost. -/
theorem ofInt_of_exact {x : Finite} {k : Int} (exact : x.toExactInt? = some k) (solid : k ≠ 0) :
    ofInt k = .finite x := by
  obtain ⟨equals, bound⟩ := (toExactInt?_iff x k).mp exact
  obtain ⟨n, rfl, same⟩ := (toInt?_iff x k).mp equals
  rw [natAbs_signed, le_maxExactInt_iff] at bound
  have positive : 0 < n := by
    refine Nat.pos_of_ne_zero fun zero => solid ?_
    subst zero
    cases x.negative <;> rfl
  have negative : decide (signed x.negative n < 0) = x.negative := by
    cases x.negative <;> grind [signed]
  obtain ⟨mantissa, exponent⟩ := form_of_small x.canonical positive bound same
  have form : ofSmall x.negative positive bound = x := by
    obtain ⟨_, _, _, _⟩ := x
    simp only [ofSmall] at mantissa exponent ⊢
    subst mantissa exponent
    rfl
  rw [ofInt, negative, natAbs_signed, ofRatio_small x.negative positive bound, form]

/-- Each small integer is a number, which equals it. -/
theorem exact_ofInt {k : Int} (small : k.natAbs ≤ maxExactInt) :
    ∃ x, ofInt k = .finite x ∧ x.toExactInt? = some k := by
  by_cases zero : k = 0
  · subst zero
    exact ⟨.zero false, rfl, (toExactInt?_zero_iff _).mpr rfl⟩
  · have positive : 0 < k.natAbs := by omega
    have bound := (le_maxExactInt_iff _).mp small
    have fits := log2_le_of_small positive bound
    refine ⟨ofSmall (k < 0) positive bound, ofRatio_small _ positive bound, ?_⟩
    refine (toExactInt?_iff _ k).mpr ⟨(toInt?_iff _ k).mpr ⟨k.natAbs, ?_, ?_⟩, small⟩
    · exact (signed_natAbs k).symm
    · have up : (-((k.natAbs.log2 : Int) - 52)).toNat = 52 - k.natAbs.log2 := by omega
      have down : ((k.natAbs.log2 : Int) - 52).toNat = 0 := by omega
      simp only [ofSmall, up, down]
      exact Nat.mul_one _

end Multimethod.Double
