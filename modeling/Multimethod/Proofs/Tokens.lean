import Multimethod.Json.Reader

/-!
Words and strings of a document. Each reader takes exactly what was written off the front of the text,
whatever follows. A string may be escaped in any of the ways that spell its text (`Spells`); what is passed
over need only be `Quotable`.
-/
namespace Multimethod.Json.Reader

variable {α β : Type}

/-! ### Steps -/

theorem run_then {reader : Reader α} {next : α → Reader β} {text rest : List Char} {result : α}
    (read : reader.run text = .ok (result, rest)) :
    (reader >>= next).run text = (next result).run rest := by
  rw [StateT.run_bind, read]
  rfl

theorem run_return {reader : Reader α} {text rest : List Char} {result : α}
    (read : reader.run text = .ok (result, rest)) (wrap : α → β) :
    (reader >>= fun result => pure (wrap result)).run text = .ok (wrap result, rest) :=
  run_then read

/-- The first fault is the fault of the whole. -/
theorem run_fault {reader : Reader α} {next : α → Reader β} {text : List Char} {fault : Fault}
    (refused : reader.run text = .error fault) : (reader >>= next).run text = .error fault := by
  rw [StateT.run_bind, refused]
  rfl

theorem run_discard {reader : Reader α} {text rest : List Char} {result : α}
    (read : reader.run text = .ok (result, rest)) : (discard reader).run text = .ok (⟨⟩, rest) :=
  run_return read fun _ => PUnit.unit

theorem run_get (text : List Char) : (get : Reader (List Char)).run text = .ok (text, text) := rfl

private theorem run_take (c : Char) (rest : List Char) : take.run (c :: rest) = .ok (c, rest) := rfl

theorem run_one (c : Char) (rest : List Char) : (one c).run (c :: rest) = .ok ((), rest) := by
  unfold one
  rw [run_then (run_take c rest), if_pos rfl]
  rfl

theorem run_word (wanted rest : List Char) : (word wanted).run (wanted ++ rest) = .ok ((), rest) := by
  induction wanted with
  | nil => rfl
  | cons c wanted ih => exact (run_then (run_one c (wanted ++ rest))).trans ih

theorem run_upcoming {c : Char} (solid : isBlank c = false) (rest : List Char) :
    upcoming.run (c :: rest) = .ok (c, c :: rest) := by
  have stays : (c :: rest).dropWhile isBlank = c :: rest := by simp [solid]
  have skipped : (modify (·.dropWhile isBlank) : Reader PUnit).run (c :: rest) = .ok (⟨⟩, c :: rest) :=
    congrArg (fun text => Except.ok (PUnit.unit, text)) stays
  unfold upcoming
  rw [run_then skipped]
  rfl

theorem run_mark {c : Char} (solid : isBlank c = false) (rest : List Char) :
    (mark c).run (c :: rest) = .ok ((), rest) := by
  unfold mark
  rw [run_then (run_upcoming solid rest), if_pos rfl]
  exact run_one c rest

theorem run_accept {wanted : Char → Bool} {c : Char} (fits : wanted c = true) (rest : List Char) :
    (accept wanted).run (c :: rest) = .ok (true, rest) := by
  unfold accept
  rw [run_then (run_get _)]
  simp only [fits]
  rfl

theorem run_accept_not {wanted : Char → Bool} {text : List Char}
    (other : ∀ c ∈ text.head?, wanted c = false) : (accept wanted).run text = .ok (false, text) := by
  cases text with
  | nil => rfl
  | cons c rest =>
    have refused := other c rfl
    unfold accept
    rw [run_then (run_get _)]
    simp only [refused]
    rfl

/-! ### Strings -/

/-- Four hexadecimal digits of either case, and the code unit that they are. -/
def CodeUnit (digits : List Char) (n : Nat) : Prop :=
  digits.length = 4 ∧
    (digits.mapM hexValue?).map (·.foldl (fun n digit => n * 16 + digit) 0) = some n

/-- What a backslash and one character more stand for. -/
def shortEscapes : List (Char × Char) :=
  [('"', '"'), ('\\', '\\'), ('/', '/'), ('b', '\x08'), ('f', '\x0c'), ('n', '\n'), ('r', '\r'),
    ('t', '\t')]

/-- A character as it stands between quotes, or behind a backslash. -/
inductive Simple : List Char → Char → Prop where
  | plain {c : Char} (noQuote : c ≠ '"') (noBackslash : c ≠ '\\') (visible : 32 ≤ c.toNat) : Simple [c] c
  | short {mark c : Char} (stands : (mark, c) ∈ shortEscapes) : Simple ['\\', mark] c

/-- What may be written between quotes, and the text that it spells. A code unit that is half of a pair must
have the other half behind it. -/
inductive Spells : List Char → List Char → Prop where
  | nil : Spells [] []
  | simple {unit written text : List Char} {c : Char} (here : Simple unit c) (later : Spells written text) :
      Spells (unit ++ written) (c :: text)
  | code {digits written text : List Char} {n : Nat} (unit : CodeUnit digits n)
      (whole : n < 0xD800 ∨ 0xDFFF < n) (later : Spells written text) :
      Spells ('\\' :: 'u' :: digits ++ written) (Char.ofNat n :: text)
  | pair {high low written text : List Char} {m n : Nat} (first : CodeUnit high m) (second : CodeUnit low n)
      (leads : 0xD800 ≤ m ∧ m ≤ 0xDBFF) (follows : 0xDC00 ≤ n ∧ n ≤ 0xDFFF) (later : Spells written text) :
      Spells ('\\' :: 'u' :: high ++ '\\' :: 'u' :: low ++ written)
        (Char.ofNat ((m - 0xD800) * 0x400 + (n - 0xDC00) + 0x10000) :: text)

/-- What may be written between quotes at all: a code unit need not spell anything by itself. -/
inductive Quotable : List Char → Prop where
  | nil : Quotable []
  | simple {unit written : List Char} {c : Char} (here : Simple unit c) (later : Quotable written) :
      Quotable (unit ++ written)
  | code {digits written : List Char} {n : Nat} (unit : CodeUnit digits n) (later : Quotable written) :
      Quotable ('\\' :: 'u' :: digits ++ written)

/-- What spells a text may be written between quotes. -/
theorem Spells.quotable {written text : List Char} (spells : Spells written text) : Quotable written := by
  induction spells with
  | nil => exact .nil
  | simple here _ ih => exact .simple here ih
  | code unit _ _ ih => exact .code unit ih
  | pair first second _ _ _ ih =>
    rw [List.append_assoc]
    exact .code first (.code second ih)

/-- A text between its quotes. -/
def quote (written : List Char) : List Char :=
  '"' :: (written ++ ['"'])

private theorem length_le_size (digits : List Char) :
    digits.length ≤ digits.foldl (fun size c => size + c.utf8Size) 0 := by
  have grows : ∀ (digits : List Char) (size : Nat),
      size + digits.length ≤ digits.foldl (fun size c => size + c.utf8Size) size := by
    intro digits
    induction digits with
    | nil => exact fun size => Nat.le_refl size
    | cons c digits ih =>
      intro size
      have positive := c.utf8Size_pos
      have later := ih (size + c.utf8Size)
      rw [List.length_cons, List.foldl_cons]
      omega
  simpa using grows digits 0

private theorem run_codeUnit {digits : List Char} {n : Nat} (unit : CodeUnit digits n) (rest : List Char) :
    codeUnit.run (digits ++ rest) = .ok (n, rest) := by
  obtain ⟨four, value⟩ := unit
  obtain ⟨values, read, rfl⟩ := Option.map_eq_some_iff.mp value
  have taken : (digits ++ rest).take 4 = digits := four ▸ List.take_left
  have left : (digits ++ rest).drop 4 = rest := four ▸ List.drop_left
  have enough : ¬ digits.foldl (fun size c => size + c.utf8Size) 0 < 4 :=
    Nat.not_lt.mpr (four ▸ length_le_size digits)
  unfold codeUnit
  rw [run_then (run_get _)]
  simp only [taken, if_neg enough, read]
  exact congrArg (fun rest => Except.ok (_, rest)) left

private theorem run_pairedCode {digits : List Char} {n : Nat} (unit : CodeUnit digits n)
    (whole : n < 0xD800 ∨ 0xDFFF < n) (rest : List Char) :
    pairedCode.run (digits ++ rest) = .ok (Char.ofNat n, rest) := by
  unfold pairedCode
  rw [run_then (run_codeUnit unit rest), if_neg (by omega), if_neg (by omega)]
  rfl

private theorem run_pairedCode_pair {high low : List Char} {m n : Nat} (first : CodeUnit high m)
    (second : CodeUnit low n) (leads : 0xD800 ≤ m ∧ m ≤ 0xDBFF) (follows : 0xDC00 ≤ n ∧ n ≤ 0xDFFF)
    (rest : List Char) : pairedCode.run (high ++ '\\' :: 'u' :: low ++ rest) =
      .ok (Char.ofNat ((m - 0xD800) * 0x400 + (n - 0xDC00) + 0x10000), rest) := by
  have marked : (word ['\\', 'u']).run ('\\' :: 'u' :: (low ++ rest)) = .ok ((), low ++ rest) :=
    run_word ['\\', 'u'] (low ++ rest)
  unfold pairedCode
  rw [List.append_assoc, run_then (run_codeUnit first _), if_neg (by omega), if_pos leads]
  rw [List.cons_append, List.cons_append, run_then marked, run_then (run_codeUnit second rest),
    if_pos follows]
  rfl

private theorem run_simple {unit : List Char} {c : Char} (simple : Simple unit c) (code : Reader Char)
    (rest : List Char) : (stringUnit code).run (unit ++ rest) = .ok (some c, rest) := by
  cases simple with
  | plain noQuote noBackslash visible =>
    unfold stringUnit
    rw [List.singleton_append, run_then (run_take c rest)]
    split
    · exact absurd rfl noQuote
    · exact absurd rfl noBackslash
    · rw [if_neg (Nat.not_lt.mpr visible)]
      rfl
  | @short mark c stands =>
    simp only [shortEscapes, List.mem_cons, Prod.mk.injEq, List.not_mem_nil, or_false] at stands
    rcases stands with ⟨rfl, rfl⟩ | ⟨rfl, rfl⟩ | ⟨rfl, rfl⟩ | ⟨rfl, rfl⟩ | ⟨rfl, rfl⟩ | ⟨rfl, rfl⟩ |
      ⟨rfl, rfl⟩ | ⟨rfl, rfl⟩ <;> rfl

theorem Simple.solid {unit : List Char} {c : Char} (simple : Simple unit c) : unit ≠ [] := by
  cases simple <;> exact List.cons_ne_nil _ _

/-- The mark of a code unit is read with what the code unit stands for. -/
theorem run_code {code : Reader Char} {digits rest : List Char} {c : Char}
    (read : code.run (digits ++ rest) = .ok (c, rest)) :
    (stringUnit code).run ('\\' :: 'u' :: digits ++ rest) = .ok (some c, rest) :=
  run_return read some

/-- One unit after the other, each at least one character long. -/
theorem run_stringUnits_cons {code : Reader Char} {unit written rest text left : List Char} {c : Char}
    {bound : Nat} (here : ∀ rest, (stringUnit code).run (unit ++ rest) = .ok (some c, rest))
    (solid : unit ≠ []) (enough : (unit ++ written).length < bound)
    (later : ∀ {bound}, written.length < bound →
      (stringUnits code bound).run (written ++ rest) = .ok (text, left)) :
    (stringUnits code bound).run (unit ++ written ++ rest) = .ok (c :: text, left) := by
  have positive := List.length_pos_iff.mpr solid
  rw [List.length_append] at enough
  obtain ⟨bound, rfl⟩ := Nat.exists_eq_add_one.mpr (Nat.zero_lt_of_lt enough)
  have shorter : written.length < bound := by omega
  rw [List.append_assoc, stringUnits, run_then (here _)]
  exact run_return (later shorter) (c :: ·)

private theorem run_stringUnits_nil (code : Reader Char) {bound : Nat} (enough : 0 < bound)
    (rest : List Char) :
    (stringUnits code bound).run ('"' :: rest) = .ok ([], rest) := by
  obtain ⟨bound, rfl⟩ := Nat.exists_eq_add_one.mpr enough
  rfl

private theorem run_spelled {written text : List Char} (spells : Spells written text) (rest : List Char) :
    ∀ {bound}, written.length < bound →
      (stringUnits pairedCode bound).run (written ++ '"' :: rest) = .ok (text, rest) := by
  induction spells with
  | nil => exact fun enough => run_stringUnits_nil pairedCode enough rest
  | simple here _ ih =>
    exact fun enough => run_stringUnits_cons (run_simple here pairedCode) here.solid enough ih
  | code unit whole _ ih =>
    intro bound enough
    refine run_stringUnits_cons (fun rest => run_code ?_) (List.cons_ne_nil _ _) enough ih
    exact run_pairedCode unit whole rest
  | pair first second leads follows _ ih =>
    intro bound enough
    refine run_stringUnits_cons (fun rest => run_code ?_) (List.cons_ne_nil _ _) enough ih
    exact run_pairedCode_pair first second leads follows rest

/-- What stands between the quotes is passed over, whatever its code units are. -/
theorem run_quotable {written : List Char} (quotable : Quotable written) (rest : List Char) :
    ∃ text, ∀ {bound}, written.length < bound →
      (stringUnits unpairedCode bound).run (written ++ '"' :: rest) = .ok (text, rest) := by
  induction quotable with
  | nil => exact ⟨[], fun enough => run_stringUnits_nil unpairedCode enough rest⟩
  | simple here _ ih =>
    obtain ⟨text, later⟩ := ih
    exact ⟨_, fun enough => run_stringUnits_cons (run_simple here unpairedCode) here.solid enough later⟩
  | @code digits written n unit _ ih =>
    obtain ⟨text, later⟩ := ih
    refine ⟨Char.ofNat n :: text, fun enough => ?_⟩
    refine run_stringUnits_cons (fun rest => run_code ?_) (List.cons_ne_nil _ _) enough later
    exact run_return (run_codeUnit unit rest) Char.ofNat

theorem run_stringOf {code : Reader Char} {written text rest : List Char}
    (read : ∀ {bound}, written.length < bound →
      (stringUnits code bound).run (written ++ '"' :: rest) = .ok (text, rest)) :
    (stringOf code).run (quote written ++ rest) = .ok (String.ofList text, rest) := by
  have enough : written.length < (written ++ '"' :: rest).length := by
    rw [List.length_append, List.length_cons]
    omega
  have parts : quote written ++ rest = '"' :: (written ++ '"' :: rest) := by simp [quote]
  unfold stringOf
  rw [parts, run_then (run_one _ _), run_then (run_get _), run_then (read enough)]
  rfl

/-- A string is read as the text that it spells. -/
theorem run_string {written : List Char} {text : String} (spells : Spells written text.toList)
    (rest : List Char) : string.run (quote written ++ rest) = .ok (text, rest) := by
  have read := run_stringOf (run_spelled spells rest)
  rwa [String.ofList_toList] at read

/-- What is printed of a text spells it, whatever its characters are. -/
theorem spells_escaped (text : List Char) : Spells (text.flatMap escapeChar) text := by
  have control : ∀ n < 32, CodeUnit ['0', '0', hexDigit (n / 16), hexDigit n] n := by
    unfold CodeUnit
    decide
  induction text with
  | nil => exact .nil
  | cons c text ih =>
    rw [List.flatMap_cons]
    unfold escapeChar
    split
    case h_8 quote backslash _ _ _ _ _ =>
      split
      · rename_i small
        have spelled := Spells.code (control c.toNat small) (.inl (by omega)) ih
        rwa [Char.ofNat_toNat c] at spelled
      · rename_i large
        exact .simple (.plain quote backslash (Nat.not_lt.mp large)) ih
    all_goals exact .simple (.short (by decide)) ih

theorem stringChars_eq_quote (text : String) : stringChars text = quote (text.toList.flatMap escapeChar) :=
  rfl

end Multimethod.Json.Reader
