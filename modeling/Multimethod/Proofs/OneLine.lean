import Mathlib.Data.List.Forall2
import Multimethod.Proofs.Spelling
import Multimethod.Table.Report

/-!
Texts on one line. Strings are printed in documents with all control characters escaped, and rules are
spelled in plain words, so what is said about a call on a table of such rules is a line whatever
labels are in it: `verdict_oneLine`, `describe_oneLine`.
-/
namespace Multimethod

variable {P H : Type}

/-- No line break and no other control character is in the text. -/
def OneLine (text : String) : Prop :=
  ∀ c ∈ text.toList, 32 ≤ c.toNat

-- Named, since an instance that goes through all characters there are would be found as well.
instance (text : String) : Decidable (OneLine text) :=
  List.decidableBAll (fun c : Char => 32 ≤ c.toNat) text.toList

namespace OneLine

theorem append {first second : String} (one : OneLine first) (other : OneLine second) :
    OneLine (first ++ second) := by
  intro c among
  rw [String.toList_append] at among
  rcases List.mem_append.mp among with before | after
  · exact one c before
  · exact other c after

theorem join {between : String} (one : OneLine between) {parts : List String}
    (each : ∀ part ∈ parts, OneLine part) : OneLine (between.intercalate parts) := by
  unfold OneLine
  rw [String.toList_intercalate]
  induction parts with
  | nil => exact fun c among => absurd among List.not_mem_nil
  | cons part rest ih =>
    obtain ⟨first, others⟩ := List.forall_mem_cons.mp each
    cases rest with
    | nil => simpa [OneLine] using first
    | cons next rest =>
      intro c among
      rw [List.map_cons, List.map_cons, List.intercalate_cons_cons] at among
      rcases List.mem_append.mp among with before | after
      · rcases List.mem_append.mp before with inside | separating
        · exact first c inside
        · exact one c separating
      · exact ih others c after

theorem number (n : Nat) : OneLine (toString n) := by
  intro c among
  have digit : c.isDigit = true := by
    refine Nat.isDigit_of_mem_toDigits (b := 10) (n := n) (by decide) (by decide) ?_
    simpa [toString, Nat.repr] using among
  simp only [Char.isDigit, Bool.and_eq_true, decide_eq_true_eq] at digit
  have least : '0'.toNat ≤ c.toNat := digit.1
  exact Nat.le_trans (by decide) least

end OneLine

/-! ### Strings in documents -/

private theorem hexDigit_visible (n : Nat) : 32 ≤ (Json.hexDigit n).toNat := by
  have all : ∀ digit < 16, 32 ≤ (Nat.digitChar digit).toNat := by decide
  exact all (n % 16) (Nat.mod_lt n (by decide))

private theorem escape_visible (c : Char) : ∀ d ∈ Json.escapeChar c, 32 ≤ d.toNat := by
  have pair : ∀ letter : Char, 32 ≤ letter.toNat → ∀ d ∈ ['\\', letter], 32 ≤ d.toNat := by
    intro letter visible d among
    rcases List.mem_cons.mp among with rfl | last
    · decide
    · exact List.mem_singleton.mp last ▸ visible
  intro d among
  unfold Json.escapeChar at among
  split at among
  case h_8 =>
    split at among
    · simp only [List.mem_cons, List.not_mem_nil, or_false] at among
      rcases among with rfl | rfl | rfl | rfl | high | low
      · decide
      · decide
      · decide
      · decide
      · exact high ▸ hexDigit_visible _
      · exact low ▸ hexDigit_visible _
    · rename_i large
      rw [List.mem_singleton.mp among]
      exact Nat.le_of_not_lt large
  all_goals exact pair _ (by decide) d among

theorem string_oneLine (text : String) : OneLine (Json.string text).compact := by
  intro d among
  simp only [Json.compact, Json.chars, Json.stringChars, String.toList_ofList, List.mem_cons,
    List.mem_append, List.mem_flatMap, List.not_mem_nil, or_false] at among
  rcases among with rfl | ⟨c, -, escaped⟩ | rfl
  · decide
  · exact escape_visible c d escaped
  · decide

/-! ### Rules and bindings -/

private theorem tag_oneLine (tag : Tag) : OneLine tag.name := by
  cases tag <;> decide

private theorem word_oneLine (word : Word) : OneLine (word.rule : Rule P).display := by
  obtain ⟨tag?, nullable⟩ := word
  cases tag? with
  | none =>
    simp only [Word.rule, Option.elim, Rule.display]
    decide
  | some tag =>
    simp only [Word.rule, Option.elim, Rule.display]
    split
    · exact (tag_oneLine tag).append (by decide)
    · exact tag_oneLine tag

private theorem spelling_oneLine (spelling : Spelling) : OneLine (spelling.rule : Rule P).display := by
  cases spelling with
  | single word => exact word_oneLine word
  | union words some_word =>
    simp only [Spelling.rule, Rule.display, Rule.displayEach_eq_map]
    refine OneLine.join (by decide) fun part among => ?_
    obtain ⟨rule, inside, rfl⟩ := List.mem_map.mp among
    obtain ⟨word, -, rfl⟩ := List.mem_map.mp inside
    exact word_oneLine word

theorem schema_oneLine (spellings : List Spelling) :
    OneLine (⟨spellings.map Spelling.rule⟩ : Schema P).display := by
  refine OneLine.append (OneLine.append (by decide) (OneLine.join (by decide) ?_)) (by decide)
  intro part among
  obtain ⟨rule, inside, rfl⟩ := List.mem_map.mp among
  obtain ⟨spelling, -, rfl⟩ := List.mem_map.mp inside
  exact spelling_oneLine spelling

/-! ### What is said about a call -/

theorem verdict_oneLine {verdict : Verdict} (schema : OneLine verdict.schema) :
    OneLine verdict.line := by
  have numbered : OneLine ("#" ++ toString verdict.index ++ " ") :=
    OneLine.append (OneLine.append (by decide) (OneLine.number _)) (by decide)
  have judged : OneLine (if verdict.accepted then "accepts" else "rejects") := by
    split <;> decide
  exact ((numbered.append schema).append (by decide)).append judged

/-- The line about an outcome is one line if the schemas and the value in it are. -/
theorem describe_oneLine {table : Table P H} {outcome : Outcome}
    (schemas : ∀ binding ∈ table.bindings, OneLine binding.schema.display)
    (value : ∀ result, outcome.value? = some result → OneLine result.toJson.compact) :
    OneLine (table.describe outcome) := by
  cases outcome with
  | matched index result =>
    have schema : OneLine ((table.bindings[index]?.map (·.schema.display)).getD "") := by
      cases standing : table.bindings[index]? with
      | none => exact (by decide : OneLine "")
      | some binding => exact schemas binding (List.mem_of_getElem? standing)
    have numbered : OneLine ("matched #" ++ toString index ++ " ") :=
      OneLine.append (OneLine.append (by decide) (OneLine.number index)) (by decide)
    exact ((numbered.append schema).append (by decide)).append (value result rfl)
  | fallback result => exact OneLine.append (by decide) (value result rfl)
  | noMatch => exact (by decide : OneLine "no match")

end Multimethod
