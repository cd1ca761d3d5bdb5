import Multimethod.Proofs.Denotation

/-!
What readers take off the front of a text. Each of them takes only what the grammar has for its result
(`TakesOnly`); so a text from which a document is read denotes one (`takesOnly_value`), and nothing is read
of any other text.
-/
namespace Multimethod.Json

namespace Reader

variable {α β σ : Type}

/-- Whatever the reader takes off the front of a text means what the reader makes of it. -/
def TakesOnly (reader : Reader α) (means : List Char → α → Prop) : Prop :=
  ∀ ⦃text rest result⦄, reader.run text = .ok (result, rest) →
    ∃ written, text = written ++ rest ∧ means written result

/-! ### Steps -/

private theorem takesOnly_fault {reader : Reader α} {means : List Char → α → Prop} {fault : Fault}
    (refused : ∀ text, reader.run text = .error fault) : TakesOnly reader means := by
  intro text rest result read
  rw [refused text] at read
  cases read

private theorem takesOnly_pure {means : List Char → α → Prop} {result : α} (meant : means [] result) :
    TakesOnly (pure result) means := by
  intro text rest _ read
  cases read
  exact ⟨[], rfl, meant⟩

theorem TakesOnly.bind {reader : Reader α} {next : α → Reader β} {means : List Char → α → Prop}
    {whole : List Char → β → Prop} (here : TakesOnly reader means)
    (later : ∀ front result, means front result →
      TakesOnly (next result) fun written final => whole (front ++ written) final) :
    TakesOnly (reader >>= next) whole := by
  intro text rest final read
  cases first : reader.run text with
  | error fault =>
    rw [run_fault first] at read
    cases read
  | ok taken =>
    obtain ⟨result, left⟩ := taken
    rw [run_then first] at read
    obtain ⟨front, rfl, meant⟩ := here first
    obtain ⟨written, rfl, whole⟩ := later front result meant read
    exact ⟨front ++ written, (List.append_assoc _ _ _).symm, whole⟩

theorem TakesOnly.wrap {reader : Reader α} {means : List Char → α → Prop} {whole : List Char → β → Prop}
    (here : TakesOnly reader means) {change : α → β}
    (meant : ∀ written result, means written result → whole written (change result)) :
    TakesOnly (do return change (← reader)) whole := by
  refine here.bind fun front result means => takesOnly_pure ?_
  rw [List.append_nil]
  exact meant front result means

theorem TakesOnly.discard {reader : Reader α} {means : List Char → α → Prop}
    (here : TakesOnly reader means) :
    TakesOnly (discard reader) fun written _ => ∃ result, means written result :=
  here.wrap fun _ result meant => ⟨result, meant⟩

private theorem takesOnly_get : TakesOnly get fun written _ => written = [] := by
  intro text rest result read
  cases read
  exact ⟨[], rfl, rfl⟩

private theorem takesOnly_take : TakesOnly take fun written c => written = [c] := by
  intro text rest result read
  cases text with
  | nil => cases read
  | cons c more =>
    cases read
    exact ⟨_, rfl, rfl⟩

private theorem takesOnly_one (c : Char) : TakesOnly (one c) fun written _ => written = [c] := by
  refine takesOnly_take.bind fun front taken alone => ?_
  split
  · rename_i same
    refine takesOnly_pure ?_
    rw [List.append_nil, alone, same]
  · exact takesOnly_fault fun _ => rfl

private theorem takesOnly_word (wanted : List Char) :
    TakesOnly (word wanted) fun written _ => written = wanted := by
  induction wanted with
  | nil => exact takesOnly_pure rfl
  | cons c wanted ih =>
    refine (takesOnly_one c).bind fun front _ alone => ?_
    intro text rest result read
    obtain ⟨written, parts, rfl⟩ := ih read
    exact ⟨written, parts, alone ▸ rfl⟩

/-- Looking at the next character takes the blanks in front of it. -/
theorem takesOnly_upcoming : TakesOnly upcoming fun written _ => Blank written := by
  intro text rest c read
  have left : rest = text.dropWhile isBlank := by
    have skipped : (modify (·.dropWhile isBlank) : Reader PUnit).run text =
        .ok (⟨⟩, text.dropWhile isBlank) := rfl
    unfold upcoming at read
    rw [run_then skipped, run_then (run_get _)] at read
    cases next : text.dropWhile isBlank with
    | nil =>
      rw [next] at read
      cases read
    | cons other more =>
      rw [next] at read
      cases read
      rfl
  refine ⟨text.takeWhile isBlank, ?_, fun c among => List.mem_takeWhile_imp among⟩
  rw [left, List.takeWhile_append_dropWhile]

private theorem takesOnly_mark (c : Char) :
    TakesOnly (mark c) fun written _ => ∃ blanks, Blank blanks ∧ written = blanks ++ [c] := by
  refine takesOnly_upcoming.bind fun blanks _ blank => ?_
  split
  · intro text rest result read
    obtain ⟨written, parts, rfl⟩ := takesOnly_one c read
    exact ⟨[c], parts, blanks, blank, rfl⟩
  · exact takesOnly_fault fun _ => rfl

private theorem takesOnly_accept (wanted : Char → Bool) : TakesOnly (accept wanted) fun written found =>
    (found = true ∧ ∃ c, wanted c = true ∧ written = [c]) ∨ (found = false ∧ written = []) := by
  intro text rest found read
  cases text with
  | nil =>
    cases read
    exact ⟨[], rfl, .inr ⟨rfl, rfl⟩⟩
  | cons c more =>
    unfold accept at read
    rw [run_then (run_get _)] at read
    cases fits : wanted c with
    | true =>
      simp only [fits] at read
      cases read
      exact ⟨[c], rfl, .inl ⟨rfl, c, fits, rfl⟩⟩
    | false =>
      simp only [fits] at read
      cases read
      exact ⟨[], rfl, .inr ⟨rfl, rfl⟩⟩

/-! ### Strings -/

/-- A hexadecimal digit is one byte long. -/
theorem hex_narrow {c : Char} {n : Nat} (digit : hexValue? c = some n) : c.utf8Size = 1 := by
  unfold hexValue? at digit
  have small : c.toNat ≤ 127 := by
    have below : ∀ last : Char, c ≤ last → c.toNat ≤ last.toNat := fun last less => less
    split at digit
    · rename_i range
      exact (below '9' range.2).trans (by decide)
    · split at digit
      · rename_i range
        exact (below 'f' range.2).trans (by decide)
      · split at digit
        · rename_i range
          exact (below 'F' range.2).trans (by decide)
        · cases digit
  exact if_pos small

/-- Hexadecimal digits take as many bytes as there are of them. -/
theorem hex_size {digits : List Char} {values : List Nat} (read : digits.mapM hexValue? = some values)
    (size : Nat) : digits.foldl (fun size c => size + c.utf8Size) size = size + digits.length := by
  induction digits generalizing values size with
  | nil => rfl
  | cons c digits ih =>
    rw [List.mapM_cons] at read
    obtain ⟨n, digit, read⟩ := Option.bind_eq_some_iff.mp read
    obtain ⟨others, later, -⟩ := Option.bind_eq_some_iff.mp read
    rw [List.foldl_cons, ih later, hex_narrow digit, List.length_cons]
    omega

private theorem takesOnly_codeUnit : TakesOnly codeUnit CodeUnit := by
  intro text rest n read
  unfold codeUnit at read
  rw [run_then (run_get _)] at read
  dsimp only at read
  split at read
  · cases read
  · rename_i enough
    split at read
    · rename_i values digits
      cases read
      refine ⟨text.take 4, (List.take_append_drop 4 text).symm, ?_, ?_⟩
      · have four := hex_size digits 0
        rw [List.length_take] at four ⊢
        omega
      · rw [digits]
        rfl
    · cases read

/-- What stands for a character between quotes, whatever is spelled behind it. -/
def SpellsFront (unit : List Char) (c : Char) : Prop :=
  ∀ ⦃written text⦄, Spells written text → Spells (unit ++ written) (c :: text)

private theorem takesOnly_pairedCode :
    TakesOnly pairedCode fun digits c => SpellsFront ('\\' :: 'u' :: digits) c := by
  refine takesOnly_codeUnit.bind fun high m first => ?_
  dsimp only
  split
  · exact takesOnly_fault fun _ => rfl
  · rename_i noSecond
    split
    · rename_i leads
      refine (takesOnly_word _).bind fun marks _ marked => ?_
      refine takesOnly_codeUnit.bind fun low n second => ?_
      split
      · rename_i follows
        refine takesOnly_pure fun written text later => ?_
        have spelled := Spells.pair first second leads follows later
        simpa only [marked, List.append_nil, List.append_assoc, List.cons_append, List.nil_append]
          using spelled
      · exact takesOnly_fault fun _ => rfl
    · rename_i noFirst
      refine takesOnly_pure fun written text later => ?_
      rw [List.append_nil]
      exact .code first (by omega) later

/-- What one unit of a string is: the closing quote, or something that stands for a character. -/
def UnitMeans (unit : List Char) : Option Char → Prop
  | none => unit = ['"']
  | some c => SpellsFront unit c

private theorem takesOnly_stringUnit : TakesOnly (stringUnit pairedCode) UnitMeans := by
  refine takesOnly_take.bind fun front first alone => ?_
  subst alone
  split
  · exact takesOnly_pure rfl
  · refine takesOnly_take.bind fun front second alone => ?_
    subst alone
    split
    case h_9 =>
      exact takesOnly_pairedCode.wrap fun digits c front => front
    case h_10 => exact takesOnly_fault fun _ => rfl
    all_goals exact takesOnly_pure fun _ _ later => .simple (.short (by decide)) later
  · rename_i noQuote noBackslash
    split
    · exact takesOnly_fault fun _ => rfl
    · rename_i visible
      exact takesOnly_pure fun _ _ later =>
        .simple (.plain noQuote noBackslash (Nat.not_lt.mp visible)) later

private theorem takesOnly_stringUnits (bound : Nat) :
    TakesOnly (stringUnits pairedCode bound) fun written text =>
    ∃ inner, written = inner ++ ['"'] ∧ Spells inner text := by
  induction bound with
  | zero => exact takesOnly_fault fun _ => rfl
  | succ bound ih =>
    refine takesOnly_stringUnit.bind fun unit found meant => ?_
    split
    · exact takesOnly_pure ⟨[], (List.append_nil unit).trans meant, .nil⟩
    · refine ih.wrap fun written text spelled => ?_
      obtain ⟨inner, rfl, spells⟩ := spelled
      exact ⟨unit ++ inner, (List.append_assoc _ _ _).symm, meant spells⟩

private theorem takesOnly_string : TakesOnly string fun written text =>
    ∃ inner, written = quote inner ∧ Spells inner text.toList := by
  refine (takesOnly_one '"').bind fun opening _ alone => ?_
  refine takesOnly_get.bind fun nothing left empty => ?_
  refine (takesOnly_stringUnits left.length).wrap fun written text spelled => ?_
  obtain ⟨inner, rfl, spells⟩ := spelled
  refine ⟨inner, by rw [alone, empty]; rfl, ?_⟩
  rwa [String.toList_ofList]

/-! ### Numbers -/

private theorem takesOnly_digits (atEnd : Fault) : TakesOnly (digits atEnd) fun written values =>
    ∃ row : Digits, written = row.text ∧ values = row.values := by
  intro text rest values read
  unfold digits at read
  rw [run_then (run_get _)] at read
  dsimp only at read
  split at read
  · cases read
  · rename_i some_digit
    cases read
    refine ⟨text.takeWhile Char.isDigit, List.takeWhile_append_dropWhile.symm, ⟨_, ?_, ?_⟩, rfl, rfl⟩
    · exact List.isEmpty_eq_false_iff.mp (Bool.eq_false_iff.mpr some_digit)
    · exact fun c among => List.mem_takeWhile_imp among

private theorem takesOnly_char (wanted : Char) : TakesOnly (accept (· == wanted)) fun written found =>
    written = if found then [wanted] else [] := by
  intro text rest found read
  obtain ⟨written, parts, ⟨rfl, c, same, rfl⟩ | ⟨rfl, rfl⟩⟩ := takesOnly_accept _ read
  · rw [beq_iff_eq.mp same] at parts
    exact ⟨[wanted], parts, rfl⟩
  · exact ⟨[], parts, rfl⟩

private theorem takesOnly_fraction {atEnd : Fault} {next : Option (List Nat) → Reader β}
    {whole : List Char → β → Prop}
    (later : ∀ fraction : Option Digits, TakesOnly (next (fraction.map Digits.values))
      fun written final => whole ((fraction.elim [] fun digits => '.' :: digits.text) ++ written) final) :
    TakesOnly (do
      let fraction ← if ← accept (· == '.') then some <$> digits atEnd else pure none
      next fraction) whole := by
  refine (takesOnly_char '.').bind fun point found marked => ?_
  cases found with
  | true =>
    have digits : TakesOnly (digits atEnd >>= fun values => next (some values))
        fun written final => whole (point ++ written) final := by
      refine (takesOnly_digits atEnd).bind fun front values taken => ?_
      obtain ⟨row, rfl, rfl⟩ := taken
      rw [marked]
      exact later (some row)
    rw [if_pos rfl, map_eq_pure_bind, bind_assoc]
    exact digits
  | false =>
    rw [marked]
    exact later none

private theorem takesOnly_sign {next : Bool → Reader β} {whole : List Char → β → Prop}
    (later : ∀ sign : Option Bool, TakesOnly (next (sign.getD false)) fun written final =>
      whole ((sign.elim [] fun below => if below then ['-'] else ['+']) ++ written) final) :
    TakesOnly (do
      let below ← accept (· == '-')
      unless below do discard <| accept (· == '+')
      next below) whole := by
  refine (takesOnly_char '-').bind fun minus below marked => ?_
  cases below with
  | true =>
    rw [marked]
    exact later (some true)
  | false =>
    rw [if_neg Bool.false_ne_true, marked]
    refine (takesOnly_char '+').discard.bind fun plus _ taken => ?_
    obtain ⟨found, rfl⟩ := taken
    cases found with
    | true => exact later (some false)
    | false => exact later none

private theorem takesOnly_power {atEnd : Fault} {next : Option Int → Reader β} {whole : List Char → β → Prop}
    (later : ∀ power : Option Power, TakesOnly (next (power.map Power.value)) fun written final =>
      whole (power.elim [] Power.chars ++ written) final) :
    TakesOnly (do
      let exponent ←
        if ← accept fun c => c == 'e' || c == 'E' then do
          let below ← accept (· == '-')
          unless below do discard <| accept (· == '+')
          let power : Nat := (← digits atEnd).foldl (fun n digit => n * 10 + digit) 0
          pure (some (if below then -(power : Int) else power))
        else pure none
      next exponent) whole := by
  refine (takesOnly_accept _).bind fun front found marked => ?_
  rcases marked with ⟨rfl, c, mark, rfl⟩ | ⟨rfl, rfl⟩
  · refine takesOnly_sign fun sign => ?_
    refine (takesOnly_digits atEnd).bind fun _ values taken => ?_
    obtain ⟨row, rfl, rfl⟩ := taken
    obtain ⟨capital, rfl⟩ : ∃ capital : Bool, c = if capital then 'E' else 'e' := by
      rcases Bool.or_eq_true_iff.mp mark with small | capital
      · exact ⟨false, beq_iff_eq.mp small⟩
      · exact ⟨true, beq_iff_eq.mp capital⟩
    have after := later (some ⟨capital, sign, row⟩)
    simp only [Option.elim_some, Power.chars, List.cons_append, List.append_assoc] at after
    exact after
  · exact later none

private theorem takesOnly_numberText (atEnd : Fault) : TakesOnly (numberText atEnd) fun written parts =>
    ∃ numeral : Numeral, written = numeral.chars ∧ parts = numeral.parts := by
  refine (takesOnly_char '-').bind fun sign negative signed => ?_
  refine (takesOnly_digits atEnd).bind fun front values taken => ?_
  obtain ⟨row, rfl, rfl⟩ := taken
  dsimp only
  split
  · exact takesOnly_fault fun _ => rfl
  · rename_i noZero
    have solid : row.text.head? = some '0' → row.text.length = 1 := by
      intro zero
      by_contra long
      refine noZero ⟨?_, fun one => long ((List.length_map _).symm.trans one)⟩
      rw [Digits.values, List.head?_map, zero]
      rfl
    refine takesOnly_fraction fun fraction => ?_
    refine takesOnly_power fun power => ?_
    refine takesOnly_pure ⟨⟨negative, row, solid, fraction, power⟩, ?_, rfl⟩
    simp only [Numeral.chars, signed, List.append_assoc, List.append_nil]

private theorem takesOnly_number : TakesOnly number fun written n =>
    ∃ numeral : Numeral, written = numeral.chars ∧ numeral.parts.number? = some n := by
  refine (takesOnly_numberText _).bind fun front parts taken => ?_
  obtain ⟨numeral, rfl, rfl⟩ := taken
  split
  · rename_i n stands
    exact takesOnly_pure ⟨numeral, List.append_nil _, stands⟩
  · exact takesOnly_fault fun _ => rfl

/-! ### Items between brackets -/

/-- What stands before an item, or before the closing bracket if none follows. -/
def Parting (first : Bool) (written : List Char) : Bool → Prop
  | true => ∃ lead before, Blank lead ∧ Blank before ∧
      written = lead ++ ((if first then [] else [',']) ++ before)
  | false => Blank written

theorem Blank.append {text other : List Char} (blank : Blank text) (after : Blank other) :
    Blank (text ++ other) :=
  List.forall_mem_append.mpr ⟨blank, after⟩

private theorem takesOnly_itemFollows (closing : Char) (starts : Char → Bool) (first : Bool) :
    TakesOnly (itemFollows closing starts first) (Parting first) := by
  refine takesOnly_upcoming.bind fun lead next blank => ?_
  dsimp only
  split
  · refine takesOnly_pure ?_
    rwa [List.append_nil]
  · cases first with
    | true =>
      have checked : TakesOnly (do
          unless starts next do throw .malformed
          return true) fun written follows => Parting true (lead ++ written) follows := by
        split
        · exact takesOnly_pure ⟨[], lead, blank_nil, blank, List.append_nil lead⟩
        · exact takesOnly_fault fun _ => rfl
      exact checked
    | false =>
      refine (takesOnly_one ',').bind fun comma _ alone => ?_
      refine takesOnly_upcoming.bind fun before start blankBefore => ?_
      split
      · refine takesOnly_pure ⟨lead, before, blank, blankBefore, ?_⟩
        rw [alone, List.append_nil]
        rfl
      · exact takesOnly_fault fun _ => rfl

section Items

variable {closing : Char} {starts : Char → Bool} {item : σ → Reader σ} {means : List Char → α → Prop}
  {put : σ → α → σ}

/-- A row is made of what its items are made of, and comes to what they come to one after the other. -/
theorem takesOnly_itemsFrom (each : ∀ soFar, TakesOnly (item soFar) fun written result =>
      ∃ blanks inner entry, Blank blanks ∧ written = blanks ++ inner ∧ means inner entry ∧
        result = put soFar entry) (bound : Nat) (first : Bool) (soFar : σ) :
    TakesOnly (itemsFrom closing starts item bound first soFar) fun written result =>
      ∃ lead, ∃ entries : List (Padded × α), Blank lead ∧
        written = lead ++ (row first (entries.map Prod.fst) ++ [closing]) ∧
        (∀ entry ∈ entries, entry.1.Spaced ∧ means entry.1.text entry.2) ∧
        result = (entries.map Prod.snd).foldl put soFar := by
  induction bound generalizing first soFar with
  | zero => exact takesOnly_fault fun _ => rfl
  | succ bound ih =>
    refine (takesOnly_itemFollows closing starts first).bind fun parting follows parted => ?_
    cases follows with
    | true =>
      obtain ⟨lead, before, blankLead, blankBefore, rfl⟩ := parted
      refine (each soFar).bind fun front result meant => ?_
      obtain ⟨blanks, inner, entry, blank, rfl, meant, rfl⟩ := meant
      intro text rest final read
      obtain ⟨written, parts, after, entries, blankAfter, rfl, meanings, rfl⟩ := ih false _ read
      refine ⟨_, parts, lead, (⟨before ++ blanks, inner, after⟩, entry) :: entries, blankLead, ?_, ?_, rfl⟩
      · simp only [row, Padded.chars, List.map_cons, List.append_assoc]
      · exact List.forall_mem_cons.mpr ⟨⟨⟨blankBefore.append blank, blankAfter⟩, meant⟩, meanings⟩
    | false =>
      refine (takesOnly_one closing).bind fun last _ alone => takesOnly_pure ?_
      refine ⟨parting, [], parted, ?_, List.forall_mem_nil _, rfl⟩
      rw [alone]
      rfl

private theorem takesOnly_items {opening : Char} (each : ∀ soFar, TakesOnly (item soFar) fun written result =>
      ∃ blanks inner entry, Blank blanks ∧ written = blanks ++ inner ∧ means inner entry ∧
        result = put soFar entry) (start : σ) :
    TakesOnly (items opening closing starts item start) fun written result =>
      ∃ lead, ∃ entries : List (Padded × α), Blank lead ∧
        written = bracketed opening closing lead (entries.map Prod.fst) ∧
        (∀ entry ∈ entries, entry.1.Spaced ∧ means entry.1.text entry.2) ∧
        result = (entries.map Prod.snd).foldl put start := by
  refine (takesOnly_one opening).bind fun front _ alone => ?_
  refine takesOnly_get.bind fun nothing left empty => ?_
  intro text rest final read
  obtain ⟨written, parts, lead, entries, blank, rfl, meanings, rfl⟩ := takesOnly_itemsFrom each _ _ _ read
  refine ⟨_, parts, lead, entries, blank, ?_, meanings, rfl⟩
  have closed := bracketed_append opening closing lead (entries.map Prod.fst) []
  rw [List.append_nil] at closed
  rw [closed, alone, empty]
  rfl

end Items

/-! ### Documents -/

/-- What a reader that goes down to some depth takes for a document: blanks, and then a text that denotes
what is read, nested no deeper than the reader goes. -/
def DenotesWithin (budget : Nat) (written : List Char) (json : Json) : Prop :=
  ∃ blanks inner document, Blank blanks ∧ written = blanks ++ inner ∧ Denotes inner document ∧
    document.depth ≤ budget ∧ json = document.settled

private theorem takesOnly_scalar (c : Char) : TakesOnly (scalar c) fun written json =>
    Denotes written json ∧ json.depth = 0 ∧ json.settled = json := by
  have named : ∀ {text : List Char} {json : Json}, Denotes text json → json.depth = 0 →
      json.settled = json → TakesOnly (do word text; return json) fun written json =>
        Denotes written json ∧ json.depth = 0 ∧ json.settled = json := by
    intro text json denotes flat same
    refine (takesOnly_word text).wrap fun written _ alone => ?_
    exact alone ▸ ⟨denotes, flat, same⟩
  unfold scalar
  split
  · exact named .null rfl rfl
  split
  · exact named (.bool true) rfl rfl
  split
  · exact named (.bool false) rfl rfl
  split
  · refine takesOnly_string.wrap fun written text spelled => ?_
    obtain ⟨inner, rfl, spells⟩ := spelled
    exact ⟨.string spells, rfl, rfl⟩
  split
  · refine takesOnly_number.wrap fun written n taken => ?_
    obtain ⟨numeral, rfl, stands⟩ := taken
    exact ⟨.number stands, rfl, rfl⟩
  · exact takesOnly_fault fun _ => rfl

private theorem takesOnly_array {budget : Nat} (each : TakesOnly (value budget) (DenotesWithin budget)) :
    TakesOnly (array (value budget)) fun written items => ∃ documents,
      Denotes written (.array documents) ∧ (Json.array documents).depth ≤ budget + 1 ∧
      items = documents.map settled := by
  have one : ∀ soFar : List Json, TakesOnly (do return (← value budget) :: soFar) fun written result =>
      ∃ blanks inner document, Blank blanks ∧ written = blanks ++ inner ∧
        (Denotes inner document ∧ document.depth ≤ budget) ∧ result = document.settled :: soFar := by
    refine fun soFar => each.wrap fun written json held => ?_
    obtain ⟨blanks, inner, document, blank, parts, denotes, fits, rfl⟩ := held
    exact ⟨blanks, inner, document, blank, parts, ⟨denotes, fits⟩, rfl⟩
  unfold array
  rw [map_eq_pure_bind]
  refine (takesOnly_items one []).wrap fun written items taken => ?_
  obtain ⟨lead, entries, blank, rfl, meanings, rfl⟩ := taken
  refine ⟨entries.map Prod.snd, .array blank (fun entry among => (meanings entry among).1)
    (fun entry among => (meanings entry among).2.1), ?_, collected_items _⟩
  rw [depth, Nat.succ_le_succ_iff, depthOfItems_le_iff, List.forall_mem_map]
  exact fun entry among => (meanings entry among).2.2

/-- What a text is as a member: a key, a colon, and a text that denotes what the key stands for. -/
def MemberMeans (budget : Nat) (written : List Char) (entry : Member × String × Json) : Prop :=
  written = entry.1.layout.text ∧ entry.1.Spaced ∧ Spells entry.1.key entry.2.1.toList ∧
    Denotes entry.1.value entry.2.2 ∧ entry.2.2.depth ≤ budget

private theorem takesOnly_member {budget : Nat} (each : TakesOnly (value budget) (DenotesWithin budget))
    (soFar : List (String × Json)) :
    TakesOnly (do
        let key ← string
        mark ':'
        return insertMember soFar key (← value budget)) fun written result =>
      ∃ blanks inner entry, Blank blanks ∧ written = blanks ++ inner ∧ MemberMeans budget inner entry ∧
        result = insertMember soFar entry.2.1 entry.2.2.settled := by
  refine takesOnly_string.bind fun front key spelled => ?_
  obtain ⟨inner, rfl, spells⟩ := spelled
  refine (takesOnly_mark ':').bind fun colon _ marked => ?_
  obtain ⟨between, blankBetween, rfl⟩ := marked
  refine each.wrap fun written json held => ?_
  obtain ⟨beyond, text, document, blankBeyond, rfl, denotes, fits, rfl⟩ := held
  let member : Member := ⟨[], inner, between, beyond, text, []⟩
  refine ⟨[], _, (member, key, document), blank_nil, rfl, ⟨?_, ?_, spells, denotes, fits⟩, rfl⟩
  · simp [member, Member.layout, quote]
  · exact ⟨blank_nil, blankBetween, blankBeyond, blank_nil⟩

/-- A member with the blanks of its place in a row around it. -/
def Member.placed (member : Member) (place : Padded) : Member :=
  { member with before := place.before, after := place.after }

private theorem Member.placed_layout {member : Member} {place : Padded}
    (same : place.text = member.layout.text) :
    (member.placed place).layout = place :=
  congrArg (Padded.mk place.before · place.after) same.symm

private theorem takesOnly_object {budget : Nat} (each : TakesOnly (value budget) (DenotesWithin budget)) :
    TakesOnly (objectMembers (fun key soFar => do
        mark ':'
        return insertMember soFar key (← value budget)) []) fun written members => ∃ documents,
      Denotes written (.object documents) ∧ (Json.object documents).depth ≤ budget + 1 ∧
      members = Fields.mapItems settled (sortMembers documents) := by
  intro text rest members read
  obtain ⟨_, parts, lead, entries, blank, rfl, meanings, rfl⟩ :=
    takesOnly_items (takesOnly_member each) [] read
  let placed := entries.map fun entry => (entry.2.1.placed entry.1, entry.2.2)
  have layouts : (placed.map fun entry => entry.1.layout) = entries.map Prod.fst := by
    rw [List.map_map]
    exact List.map_congr_left fun entry among => Member.placed_layout (meanings entry among).2.1
  have documents : placed.map Prod.snd = (entries.map Prod.snd).map Prod.snd := by
    rw [List.map_map, List.map_map]
    rfl
  have denotes : Denotes (bracketed '\x7b' '\x7d' lead (placed.map fun entry => entry.1.layout))
      (.object (placed.map Prod.snd)) := by
    refine .object blank ?_ ?_ ?_ <;> refine List.forall_mem_map.mpr fun entry among => ?_
    all_goals obtain ⟨place, -, inside, spells, denotes, -⟩ := meanings entry among
    · exact ⟨place.before, inside.between, inside.beyond, place.after⟩
    · exact spells
    · exact denotes
  refine ⟨_, parts, placed.map Prod.snd, layouts ▸ denotes, ?_, ?_⟩
  · rw [depth, Nat.succ_le_succ_iff, depthOfMembers_le_iff]
    refine List.forall_mem_map.mpr (List.forall_mem_map.mpr fun entry among => ?_)
    exact (meanings entry among).2.2.2.2.2
  · rw [documents, ← collected_members, List.foldl_map (l := entries.map Prod.snd)]

/-- The document that is read of a text is one that the text denotes. -/
theorem takesOnly_value (budget : Nat) : TakesOnly (value budget) (DenotesWithin budget) := by
  have scalar : ∀ {budget : Nat} {blanks : List Char} (c : Char), Blank blanks →
      TakesOnly (scalar c) fun written json => DenotesWithin budget (blanks ++ written) json := by
    intro budget blanks c blank text rest json read
    obtain ⟨written, parts, denotes, flat, same⟩ := takesOnly_scalar c read
    exact ⟨written, parts, blanks, written, json, blank, rfl, denotes, flat ▸ Nat.zero_le _, same.symm⟩
  induction budget with
  | zero =>
    unfold value
    refine takesOnly_upcoming.bind fun blanks first blank => ?_
    dsimp only
    split
    · exact takesOnly_fault fun _ => rfl
    · exact scalar first blank
  | succ budget ih =>
    unfold value
    refine takesOnly_upcoming.bind fun blanks first blank => ?_
    dsimp only
    split
    · refine (takesOnly_array ih).wrap fun written items taken => ?_
      obtain ⟨documents, denotes, fits, rfl⟩ := taken
      exact ⟨blanks, written, _, blank, rfl, denotes, fits, (settled_array documents).symm⟩
    split
    · refine (takesOnly_object ih).wrap fun written members taken => ?_
      obtain ⟨documents, denotes, fits, rfl⟩ := taken
      exact ⟨blanks, written, _, blank, rfl, denotes, fits, (settled_object documents).symm⟩
    · exact scalar first blank

end Reader

/-- A document is read of a text exactly if the text holds one, nested no deeper than that; what is read is
that document in order. -/
theorem parse_ok_iff {text : String} {json : Json} : parse text = .ok json ↔
    ∃ document, Holds text document ∧ document.depth ≤ 127 ∧ json = document.settled := by
  constructor
  · intro read
    unfold parse at read
    cases taken : (Reader.value depthLimit).run text.toList with
    | error fault =>
      rw [Reader.whole_of_fault taken] at read
      cases read
    | ok result =>
      obtain ⟨result, rest⟩ := result
      obtain ⟨_, parts, before, written, document, blankBefore, rfl, denotes, fits, rfl⟩ :=
        Reader.takesOnly_value depthLimit taken
      rw [Reader.whole_of_run taken] at read
      split at read
      · rename_i blank
        cases read
        exact ⟨document, ⟨before, written, rest, blankBefore, List.all_eq_true.mp blank, parts, denotes⟩,
          fits, rfl⟩
      · cases read
  · rintro ⟨document, holds, fits, rfl⟩
    rw [parse_of_holds holds, if_pos fits]

end Multimethod.Json
