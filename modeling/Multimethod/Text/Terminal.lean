import Multimethod.Text.Quoted

/-!
Text on its way to a terminal. A control character by which text could give orders to the terminal
is written as an escape; line ends, tabs and the other controls stay as they are. No such character
is left: `not_commands_of_mem_disarmed`.
-/
namespace Multimethod.Text

/-- Whether a terminal takes a character as an order, or as the start of one: the bell, backspace,
form feed, escape and delete, and the controls of the second block. -/
def commands (c : Char) : Bool :=
  c.toNat ∈ [0x07, 0x08, 0x0c, 0x1b, 0x7f] || (0x80 ≤ c.toNat && c.toNat ≤ 0x9f)

/-- The escape of a control character: two digits in the first block, braces in the second. -/
def controlEscape (n : Nat) : String :=
  if n < 0x80 then "\\x" ++ (if n < 16 then "0" else "") ++ hexText n
  else "\\u\x7b" ++ hexText n ++ "\x7d"

/-- One character on a terminal. -/
def disarmedChar (c : Char) : List Char :=
  if commands c then (controlEscape c.toNat).toList else [c]

/-- A text that gives no orders to a terminal. -/
def disarmed (text : String) : String :=
  String.ofList (text.toList.flatMap disarmedChar)

/-- Escapes consist of characters that a terminal only shows. -/
theorem not_commands_of_mem_controlEscape {n : Nat} (low : n < 0xa0) :
    ∀ c ∈ (controlEscape n).toList, commands c = false := by
  have shown : ((List.range 0xa0).all fun n =>
      (controlEscape n).toList.all fun c => !commands c) = true := by
    decide +kernel
  simpa using List.all_eq_true.1 (List.all_eq_true.1 shown n (List.mem_range.2 low))

/-- What a terminal gets, it only shows. -/
theorem not_commands_of_mem_disarmed (text : String) :
    ∀ c ∈ (disarmed text).toList, commands c = false := by
  intro c shown
  simp only [disarmed, String.toList_ofList, List.mem_flatMap] at shown
  obtain ⟨source, _, shown⟩ := shown
  unfold disarmedChar at shown
  split at shown
  · rename_i active
    refine not_commands_of_mem_controlEscape ?_ c shown
    simp only [commands, Bool.or_eq_true, Bool.and_eq_true, decide_eq_true_eq, List.mem_cons,
      List.not_mem_nil, or_false] at active
    omega
  · rename_i idle
    rw [List.mem_singleton.1 shown]
    simpa using idle

/-- A text without orders reaches the terminal unchanged. -/
theorem disarmed_of_forall {text : String} (idle : ∀ c ∈ text.toList, commands c = false) :
    disarmed text = text := by
  suffices same : ∀ cs : List Char, (∀ c ∈ cs, commands c = false) → cs.flatMap disarmedChar = cs by
    rw [disarmed, same _ idle, String.ofList_toList]
  intro cs idle
  induction cs with
  | nil => rfl
  | cons c rest ih =>
    have here : disarmedChar c = [c] := by simp [disarmedChar, idle c (by simp)]
    rw [List.flatMap_cons, here, ih fun d member => idle d (by simp [member])]
    rfl

end Multimethod.Text
