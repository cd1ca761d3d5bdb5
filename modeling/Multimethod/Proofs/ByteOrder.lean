import Mathlib.Data.String.Basic
import Mathlib.Tactic.SplitIfs

/-!
Texts in the order of their bytes. Texts are compared character by character; comparing the bytes of their
encoding comes to the same (`lt_iff_bytes`), since of two characters the lesser has the lesser bytes.
-/
namespace Multimethod.Text

/-- The bytes of a text in the encoding of one to four bytes for a character. -/
def bytes (text : String) : List UInt8 :=
  text.toUTF8.data.toList

private theorem bytes_eq (text : String) : bytes text = text.toList.flatMap String.utf8EncodeChar := by
  rw [bytes, String.toUTF8_eq_toByteArray, ← String.utf8Encode_toList, List.utf8Encode,
    List.toList_data_toByteArray]

private theorem ofNat_lt_ofNat {m n : Nat} (small : m < 256) (large : n < 256) :
    UInt8.ofNat m < UInt8.ofNat n ↔ m < n := by
  rw [UInt8.lt_iff_toNat_lt, UInt8.toNat_ofNat', UInt8.toNat_ofNat', Nat.mod_eq_of_lt small,
    Nat.mod_eq_of_lt large]

private theorem ofNat_inj {m n : Nat} (small : m < 256) (large : n < 256) :
    UInt8.ofNat m = UInt8.ofNat n ↔ m = n := by
  rw [← UInt8.toNat_inj, UInt8.toNat_ofNat', UInt8.toNat_ofNat', Nat.mod_eq_of_lt small,
    Nat.mod_eq_of_lt large]

/-- Numbers of 21 bits are compared digit by digit, with six bits in each digit but the first. -/
theorem digits_lt {v w : Nat} (less : v < w) (small : w < 0x200000) :
    v / 0x40000 % 8 < w / 0x40000 % 8 ∨ v / 0x40000 % 8 = w / 0x40000 % 8 ∧
      (v / 0x1000 % 64 < w / 0x1000 % 64 ∨ v / 0x1000 % 64 = w / 0x1000 % 64 ∧
        (v / 64 % 64 < w / 64 % 64 ∨ v / 64 % 64 = w / 64 % 64 ∧ v % 64 < w % 64)) := by
  have digits : ∀ n < 0x200000, n = 0x40000 * (n / 0x40000 % 8) + 0x1000 * (n / 0x1000 % 64) +
      0x40 * (n / 64 % 64) + n % 64 := by
    omega
  have bounds : ∀ n : Nat, n / 0x1000 % 64 < 64 ∧ n / 64 % 64 < 64 ∧ n % 64 < 64 := by
    omega
  have row := And.intro (digits v (by omega)) (bounds v)
  have other := And.intro (digits w small) (bounds w)
  generalize v / 0x40000 % 8 = a, v / 0x1000 % 64 = b, v / 64 % 64 = c, v % 64 = d at *
  generalize w / 0x40000 % 8 = a', w / 0x1000 % 64 = b', w / 64 % 64 = c', w % 64 = d' at *
  omega

/-- The lesser character has the lesser bytes, whatever comes after them. -/
theorem encoded_lt {c d : Char} (less : c < d) (later others : List UInt8) :
    String.utf8EncodeChar c ++ later < String.utf8EncodeChar d ++ others := by
  have order : c.val.toNat < d.val.toNat := less
  have highest : d.val.toNat < 0x110000 := d.valid.elim (fun low => by omega) And.right
  unfold String.utf8EncodeChar
  generalize c.val.toNat = v at order ⊢
  generalize d.val.toNat = w at order highest ⊢
  have digits := digits_lt order (by omega)
  dsimp only
  -- The first byte tells how many there are, so only rows of one length are compared beyond it.
  split_ifs
  all_goals
    simp (disch := omega) only [List.cons_append, List.cons_lt_cons_iff, ofNat_lt_ofNat, ofNat_inj]
    omega

private theorem encodings_lt {row other : List Char} (less : row < other) :
    row.flatMap String.utf8EncodeChar < other.flatMap String.utf8EncodeChar := by
  induction row generalizing other with
  | nil =>
    cases other with
    | nil => exact absurd less (List.not_lt_nil _)
    | cons d other =>
      obtain ⟨first, more, parts⟩ := List.exists_cons_of_ne_nil (String.utf8EncodeChar_ne_nil (c := d))
      rw [List.flatMap_cons, parts]
      exact List.nil_lt_cons _ _
  | cons c row ih =>
    cases other with
    | nil => exact absurd less (List.not_lt_nil _)
    | cons d other =>
      rw [List.flatMap_cons, List.flatMap_cons]
      rcases List.cons_lt_cons_iff.mp less with first | ⟨rfl, later⟩
      · exact encoded_lt first _ _
      · exact List.append_left_lt (ih later)

/-- The order of texts is that of their bytes. -/
theorem lt_iff_bytes (s t : String) : s < t ↔ bytes s < bytes t := by
  have forward : ∀ {s t : String}, s < t → bytes s < bytes t := by
    intro s t less
    rw [bytes_eq, bytes_eq]
    exact encodings_lt less
  constructor
  · exact forward
  · intro less
    rcases lt_trichotomy s t with below | rfl | above
    · exact below
    · exact absurd less (List.lt_irrefl _)
    · exact absurd less (List.lt_asymm (forward above))

end Multimethod.Text
