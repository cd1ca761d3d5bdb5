import Mathlib.Data.List.TakeWhile
import Multimethod.Proofs.Tokens

/-!
Numbers of a document. A number is read in all its parts as it is written (`Numeral`), where the text does not
go on with it (`Ends`); what is printed of an integer is one way of writing it.
-/
namespace Multimethod.Json.Reader

variable {α β : Type}

/-! ### Numbers as they are written -/

/-- A text does not go on with a number: it is over, or what comes next is neither a digit nor a point nor
the mark of a power of ten. -/
def Ends (rest : List Char) : Prop :=
  ∀ c ∈ rest.head?, c.isDigit = false ∧ c ≠ '.' ∧ c ≠ 'e' ∧ c ≠ 'E'

theorem ends_nil : Ends [] := nofun

/-- One digit or more. -/
structure Digits where
  text : List Char
  ne_nil : text ≠ []
  all : ∀ c ∈ text, c.isDigit = true

/-- What the digits of a number stand for, one by one. -/
def Digits.values (written : Digits) : List Nat :=
  written.text.map fun c => c.toNat - '0'.toNat

/-- A power of ten as it is written. -/
structure Power where
  capital : Bool
  /-- Whether it has a sign, and whether that is a minus sign. -/
  sign : Option Bool
  digits : Digits

def Power.chars (power : Power) : List Char :=
  (if power.capital then 'E' else 'e') ::
    ((power.sign.elim [] fun below => if below then ['-'] else ['+']) ++ power.digits.text)

def Power.value (power : Power) : Int :=
  let magnitude : Nat := power.digits.values.foldl (fun n digit => n * 10 + digit) 0
  if power.sign.getD false then -(magnitude : Int) else magnitude

/-- A number as the grammar has it: a whole part without leading zeros, then perhaps a fraction, then perhaps
a power of ten. -/
structure Numeral where
  negative : Bool
  whole : Digits
  solid : whole.text.head? = some '0' → whole.text.length = 1
  fraction : Option Digits
  power : Option Power

def Numeral.chars (numeral : Numeral) : List Char :=
  (if numeral.negative then ['-'] else []) ++ numeral.whole.text ++
    (numeral.fraction.elim [] fun digits => '.' :: digits.text) ++ numeral.power.elim [] Power.chars

/-- What is read of a number. -/
def Numeral.parts (numeral : Numeral) : NumberText :=
  ⟨numeral.negative, numeral.whole.values, numeral.fraction.map Digits.values,
    numeral.power.map Power.value⟩

theorem Digits.front (written : Digits) :
    ∃ first more, written.text = first :: more ∧ first.isDigit = true := by
  obtain ⟨first, more, parts⟩ := List.exists_cons_of_ne_nil written.ne_nil
  exact ⟨first, more, parts, written.all first (parts ▸ List.mem_cons_self)⟩

/-- What starts with digits does not start with anything else. -/
theorem Digits.head_ne (written : Digits) (rest : List Char) {other : Char}
    (noDigit : other.isDigit = false) : ∀ c ∈ (written.text ++ rest).head?, c ≠ other := by
  obtain ⟨first, more, parts, digit⟩ := written.front
  rw [parts]
  rintro c head rfl
  cases head
  exact Bool.false_ne_true (noDigit.symm.trans digit)

/-- A character with which a number starts is none that is neither a minus sign nor a digit. -/
theorem front_ne {c other : Char} (front : c = '-' ∨ c.isDigit = true)
    (others : ¬ (other = '-' ∨ other.isDigit = true)) : c ≠ other :=
  fun same => others (same ▸ front)

/-- What starts a number is no blank. -/
theorem front_solid {c : Char} (front : c = '-' ∨ c.isDigit = true) : isBlank c = false := by
  simp only [isBlank, Bool.or_eq_false_iff, beq_eq_false_iff_ne]
  refine ⟨⟨⟨?_, ?_⟩, ?_⟩, ?_⟩
  all_goals exact front_ne front (by decide)

theorem Numeral.front (numeral : Numeral) :
    ∃ c more, numeral.chars = c :: more ∧ (c = '-' ∨ c.isDigit = true) := by
  obtain ⟨negative, whole, solid, fraction, power⟩ := numeral
  obtain ⟨first, more, parts, digit⟩ := whole.front
  unfold Numeral.chars
  cases negative with
  | true => exact ⟨_, _, rfl, .inl rfl⟩
  | false =>
    simp only [parts]
    exact ⟨_, _, rfl, .inr digit⟩

/-- A zero in front is the character zero. -/
theorem Digits.zero_front {written : Digits} (zero : written.values.head? = some 0) :
    written.text.head? = some '0' := by
  obtain ⟨first, more, parts, digit⟩ := written.front
  rw [Digits.values, parts, List.map_cons, List.head?_cons, Option.some.injEq] at zero
  have least := (Char.isDigit_iff_toNat.mp digit).1
  have same : first.toNat = '0'.toNat := by omega
  rw [parts, List.head?_cons, Char.toNat_inj.mp same]

private theorem run_digits (written : Digits) {rest : List Char} (ends : ∀ c ∈ rest.head?, c.isDigit = false)
    (atEnd : Fault) : (digits atEnd).run (written.text ++ rest) = .ok (written.values, rest) := by
  have stops : rest.takeWhile Char.isDigit = [] ∧ rest.dropWhile Char.isDigit = rest := by
    cases rest with
    | nil => exact ⟨rfl, rfl⟩
    | cons c rest =>
      have stop := ends c rfl
      simp [stop]
  have taken : (written.text ++ rest).takeWhile Char.isDigit = written.text := by
    rw [List.takeWhile_append_of_pos written.all, stops.1, List.append_nil]
  have left : (written.text ++ rest).dropWhile Char.isDigit = rest := by
    rw [List.dropWhile_append_of_pos written.all, stops.2]
  unfold digits
  rw [run_then (run_get _)]
  simp only [taken, left, List.isEmpty_eq_false_iff.mpr written.ne_nil]
  rfl

/-- A sign is read where one stands before the digits. -/
theorem run_minus (negative : Bool) (written : Digits) (rest : List Char) :
    (accept (· == '-')).run ((if negative then ['-'] else []) ++ (written.text ++ rest)) =
      .ok (negative, written.text ++ rest) := by
  cases negative with
  | true => exact run_accept rfl _
  | false =>
    exact run_accept_not fun c head =>
      beq_eq_false_iff_ne.mpr (written.head_ne rest (by decide) c head)

private theorem run_fraction (fraction : Option Digits) {rest : List Char}
    (ends : ∀ c ∈ rest.head?, c.isDigit = false ∧ c ≠ '.') (atEnd : Fault)
    (next : Option (List Nat) → Reader β) :
    (do
        let fraction ← if ← accept (· == '.') then some <$> digits atEnd else pure none
        next fraction).run ((fraction.elim [] fun digits => '.' :: digits.text) ++ rest) =
      (next (fraction.map Digits.values)).run rest := by
  cases fraction with
  | none =>
    have noPoint : (accept (· == '.')).run rest = .ok (false, rest) :=
      run_accept_not fun c head => beq_eq_false_iff_ne.mpr (ends c head).2
    rw [Option.elim_none, List.nil_append, run_then noPoint, if_neg Bool.false_ne_true]
    rfl
  | some written =>
    have point : (accept (· == '.')).run ('.' :: (written.text ++ rest)) =
        .ok (true, written.text ++ rest) := run_accept rfl _
    have read := run_digits written (fun c head => (ends c head).1) atEnd
    rw [Option.elim_some, List.cons_append, run_then point, if_pos rfl, map_eq_pure_bind, bind_assoc,
      run_then read]
    rfl

/-- The sign of a power of ten is read as far as there is one. -/
theorem run_sign (sign : Option Bool) (written : Digits) (rest : List Char) (next : Bool → Reader β) :
    (do
        let below ← accept (· == '-')
        unless below do discard <| accept (· == '+')
        next below).run ((sign.elim [] fun below => if below then ['-'] else ['+']) ++
          (written.text ++ rest)) =
      (next (sign.getD false)).run (written.text ++ rest) := by
  rcases sign with _ | below
  · have noMinus := run_minus false written rest
    have noPlus : (accept (· == '+')).run (written.text ++ rest) = .ok (false, written.text ++ rest) :=
      run_accept_not fun c head => beq_eq_false_iff_ne.mpr (written.head_ne rest (by decide) c head)
    rw [Option.elim_none, List.nil_append]
    refine (run_then noMinus).trans ?_
    exact run_then (run_discard noPlus)
  · cases below with
    | true => rfl
    | false => rfl

private theorem run_power (power : Option Power) {rest : List Char} (ends : Ends rest) (atEnd : Fault)
    (next : Option Int → Reader β) :
    (do
        let exponent ←
          if ← accept fun c => c == 'e' || c == 'E' then do
            let below ← accept (· == '-')
            unless below do discard <| accept (· == '+')
            let power : Nat := (← digits atEnd).foldl (fun n digit => n * 10 + digit) 0
            pure (some (if below then -(power : Int) else power))
          else pure none
        next exponent).run (power.elim [] Power.chars ++ rest) =
      (next (power.map Power.value)).run rest := by
  cases power with
  | none =>
    have noMark : (accept fun c => c == 'e' || c == 'E').run rest = .ok (false, rest) :=
      run_accept_not fun c head => by simpa using (ends c head).2.2
    rw [Option.elim_none, List.nil_append, run_then noMark, if_neg Bool.false_ne_true]
    rfl
  | some power =>
    obtain ⟨capital, sign, written⟩ := power
    have mark : ∀ text, (accept fun c => c == 'e' || c == 'E').run
        ((if capital then 'E' else 'e') :: text) = .ok (true, text) := by
      cases capital <;> exact run_accept rfl
    have read := run_digits written (fun c head => (ends c head).1) atEnd
    rw [Option.elim_some, Power.chars, List.cons_append, run_then (mark _), if_pos rfl]
    rw [List.append_assoc]
    refine (run_sign sign written rest _).trans ?_
    exact run_then read

theorem run_numberText (numeral : Numeral) {rest : List Char} (ends : Ends rest) (atEnd : Fault) :
    (numberText atEnd).run (numeral.chars ++ rest) = .ok (numeral.parts, rest) := by
  obtain ⟨negative, whole, solid, fraction, power⟩ := numeral
  have front : ¬ (whole.values.head? = some 0 ∧ whole.values.length ≠ 1) :=
    fun ⟨zero, long⟩ => long ((List.length_map _).trans (solid (whole.zero_front zero)))
  have tail : ∀ c ∈ (power.elim [] Power.chars ++ rest).head?, c.isDigit = false ∧ c ≠ '.' := by
    intro c head
    cases power with
    | none => exact ⟨(ends c head).1, (ends c head).2.1⟩
    | some power =>
      cases head
      cases power.capital <;> decide
  have body : ∀ c ∈ ((fraction.elim [] fun digits => '.' :: digits.text) ++
      (power.elim [] Power.chars ++ rest)).head?, c.isDigit = false := by
    intro c head
    cases fraction with
    | none => exact (tail c head).1
    | some digits =>
      cases head
      rfl
  simp only [Numeral.chars, List.append_assoc]
  unfold numberText
  rw [run_then (run_minus negative whole _), run_then (run_digits whole body atEnd)]
  dsimp only
  rw [if_neg front]
  refine (run_fraction fraction tail atEnd _).trans ?_
  exact run_power power ends atEnd _

/-! ### Integers as they are printed -/

/-- What the digits of a number stand for, one by one. -/
def digitValues (n : Nat) : List Nat :=
  (Decimal.digitText n).map fun c => c.toNat - '0'.toNat

private theorem digitValues_fold (n : Nat) :
    (digitValues n).foldl (fun n digit => n * 10 + digit) 0 = n := by
  have value := Nat.ofDigitChars_toDigits (b := 10) (n := n) (by decide) (by decide)
  simpa only [Nat.ofDigitChars, digitValues, Decimal.digitText, List.foldl_map, Nat.mul_comm] using value

/-- No number but zero has a zero in front. -/
theorem digitValues_solid {n : Nat} (solid : 0 < n) : (digitValues n).head? ≠ some 0 := by
  unfold digitValues Decimal.digitText
  induction n using Nat.strongRecOn with
  | ind n ih =>
    rw [Nat.toDigits_eq_if (by decide)]
    split
    · rename_i small
      have each : ∀ n < 10, 0 < n → [n.digitChar].map (fun c => c.toNat - '0'.toNat) ≠ [0] := by decide
      intro head
      exact each n small solid (by simpa using head)
    · rename_i large
      have before := ih (n / 10) (Nat.div_lt_self solid (by decide)) (by omega)
      obtain ⟨first, more, written⟩ := List.exists_cons_of_ne_nil
        (Nat.toDigits_ne_nil (b := 10) (n := n / 10))
      rw [written] at before ⊢
      exact before

private theorem digitValues_front {n : Nat} (zero : (digitValues n).head? = some 0) :
    (digitValues n).length = 1 := by
  cases n with
  | zero => rfl
  | succ n => exact absurd zero (digitValues_solid n.succ_pos)

/-- What is printed of a natural number. -/
def Digits.ofNat (n : Nat) : Digits where
  text := Decimal.digitText n
  ne_nil := Nat.toDigits_ne_nil
  all _ among := Nat.isDigit_of_mem_toDigits (by decide) (by decide) among

/-- What is printed of an integer. -/
def Numeral.ofInt (n : Int) : Numeral where
  negative := n < 0
  whole := .ofNat n.natAbs
  solid zero := by
    have front : (digitValues n.natAbs).head? = some 0 := by
      rw [digitValues, List.head?_map]
      exact congrArg _ zero
    exact (List.length_map _).symm.trans (digitValues_front front)
  fraction := none
  power := none

theorem Numeral.chars_ofInt (n : Int) : (Numeral.ofInt n).chars = Decimal.intText n := by
  unfold Decimal.intText Numeral.chars Numeral.ofInt
  by_cases negative : n < 0 <;> simp [negative, Digits.ofNat]

/-- Digits that stand for less than what 64 bits hold are all taken in. -/
theorem absorb_fits {n : Nat} {row : List Nat}
    (fits : row.foldl (fun n digit => n * 10 + digit) n < Nat.pow 2 64) :
    absorb n row = (row.foldl (fun n digit => n * 10 + digit) n, 0) := by
  have grows : ∀ (row : List Nat) (n : Nat), n ≤ row.foldl (fun n digit => n * 10 + digit) n := by
    intro row
    induction row with
    | nil => exact fun n => Nat.le_refl n
    | cons digit row ih => exact fun n => Nat.le_trans (by omega) (ih (n * 10 + digit))
  induction row generalizing n with
  | nil => rfl
  | cons digit row ih =>
    rw [absorb, if_pos (Nat.lt_of_le_of_lt (grows row _) fits)]
    exact ih fits

/-- However many digits there are, only what 64 bits hold is taken in. -/
theorem absorb_below (row : List Nat) {n : Nat} (below : n < Nat.pow 2 64) :
    (absorb n row).1 < Nat.pow 2 64 := by
  induction row generalizing n with
  | nil => exact below
  | cons digit row ih =>
    rw [absorb]
    split
    · rename_i fits
      exact ih fits
    · exact below

/-- A number stands for an integer only if 64 bits hold its magnitude. -/
theorem natAbs_of_number {text : NumberText} {n : Int} (stands : text.number? = some (.int n)) :
    n.natAbs < Nat.pow 2 64 := by
  have whole := absorb_below text.whole (Nat.two_pow_pos 64)
  have bound := absorb_below (text.fraction.getD []) whole
  unfold NumberText.number? at stands
  dsimp only at stands
  split at stands
  · cases stands
    split <;> omega
  · split at stands <;> cases stands

private theorem absorb_digitValues {n : Nat} (fits : n < Nat.pow 2 64) :
    absorb 0 (digitValues n) = (n, 0) := by
  rw [absorb_fits (by rwa [digitValues_fold]), digitValues_fold]

/-- What is printed of an integer that 64 bits hold stands for it. -/
theorem number_of_ofInt {n : Int} (least : -(Nat.pow 2 63 : Nat) ≤ n) (below : n < (Nat.pow 2 64 : Nat)) :
    (Numeral.ofInt n).parts.number? = some (.int n) := by
  have double : Nat.pow 2 64 = 2 * Nat.pow 2 63 := rfl
  have absorbed : absorb 0 (digitValues n.natAbs) = (n.natAbs, 0) := absorb_digitValues (by omega)
  have parts : (Numeral.ofInt n).parts = ⟨n < 0, digitValues n.natAbs, none, none⟩ := rfl
  rw [parts]
  unfold NumberText.number?
  simp only [absorbed, Option.getD_none, absorb]
  by_cases negative : n < 0
  · have solid : (n.natAbs != 0) = true := bne_iff_ne.mpr (by omega)
    have small : n.natAbs ≤ Nat.pow 2 63 := by omega
    have same : -(n.natAbs : Int) = n := by omega
    simp only [negative, decide_true, solid, small, Option.isNone_none, Bool.not_true, Bool.and_true,
      beq_self_eq_true, Bool.false_or, ↓reduceIte, same]
  · have same : (n.natAbs : Int) = n := by omega
    simp only [negative, decide_false, Option.isNone_none, Bool.not_false, Bool.and_true,
      beq_self_eq_true, Bool.true_or, ↓reduceIte, Bool.false_eq_true, same]

/-- A number is read as what it stands for, if it stands for one at all. -/
theorem run_number (numeral : Numeral) {n : Number} (stands : numeral.parts.number? = some n)
    {rest : List Char} (ends : Ends rest) : number.run (numeral.chars ++ rest) = .ok (n, rest) := by
  unfold number
  rw [run_then (run_numberText numeral ends .truncated)]
  simp only [stands]
  rfl

end Multimethod.Json.Reader
