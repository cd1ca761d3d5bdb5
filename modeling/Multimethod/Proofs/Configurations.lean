import Mathlib.Data.List.Forall2
import Multimethod.Config
import Multimethod.Proofs.Records

/-!
Configurations in texts. A configuration may be written as an object or as an array, in any layout, and what
it shares with the default may be left out (`Written`). Every such text is read as that very configuration,
and so are the two texts that are printed of it.
-/
namespace Multimethod

open Json Json.Reader

namespace Config

/-! ### What a text says -/

/-- One thing that a text can say of a configuration. -/
inductive Setting where
  | name (name : String)
  | traceRejections (traceRejections : Bool)

def Setting.key : Setting → String
  | .name _ => "name"
  | .traceRejections _ => "trace_rejections"

/-- All that can be said of a configuration, in the order of the array form. -/
def settings (config : Config) : List Setting :=
  [.name config.name, .traceRejections config.traceRejections]

/-- How the value of a setting may be written. -/
inductive Tells : List Char → Setting → Prop where
  | name {written : List Char} {name : String} (spells : Spells written name.toList) :
      Tells (quote written) (.name name)
  | traceRejections (b : Bool) : Tells (boolChars b) (.traceRejections b)

/-- What a member of an object says: a setting under its key, or nothing under any other key. -/
inductive Says (member : Member) : Option Setting → Prop where
  | setting {setting : Setting} (key : Spells member.key setting.key.toList)
      (value : Tells member.value setting) : Says member (some setting)
  | other {key : String} (spells : Spells member.key key.toList)
      (unknown : ∀ setting : Setting, setting.key ≠ key) (value : Grammatical member.value) :
      Says member none

/-- What is said of a configuration describes it: nothing is said twice, all of it is true, and what is left
out is as it is by default. -/
structure Told (config : Config) (said : List Setting) : Prop where
  once : said.Nodup
  own : said ⊆ config.settings
  rest : ∀ setting ∈ config.settings, setting ∉ said → setting ∈ ({} : Config).settings

/-- The texts of a configuration. In an object settings stand in any order among members of other names; in an
array they stand in their own order. -/
inductive Written (config : Config) : List Char → Prop where
  | object {before lead after : List Char} {entries : List (Member × Option Setting)}
      (blankBefore : Blank before) (blankLead : Blank lead) (blankAfter : Blank after)
      (spaced : ∀ entry ∈ entries, entry.1.Spaced) (saying : ∀ entry ∈ entries, Says entry.1 entry.2)
      (told : config.Told (entries.filterMap Prod.snd)) :
      Written config (before ++
        bracketed '\x7b' '\x7d' lead (entries.map fun entry => entry.1.layout) ++ after)
  | array {before lead after : List Char} {entries : List (Padded × Setting)}
      (blankBefore : Blank before) (blankLead : Blank lead) (blankAfter : Blank after)
      (spaced : ∀ entry ∈ entries, entry.1.Spaced) (tells : ∀ entry ∈ entries, Tells entry.1.text entry.2)
      (front : entries.map Prod.snd <+: config.settings) (told : config.Told (entries.map Prod.snd)) :
      Written config (before ++ bracketed '[' ']' lead (entries.map Prod.fst) ++ after)

/-! ### What has been found -/

/-- Whether the field of a setting has been found. -/
def Draft.has (draft : Draft) : Setting → Bool
  | .name _ => draft.name.isSome
  | .traceRejections _ => draft.traceRejections.isSome

/-- The fields found, and a setting besides. -/
def Draft.plus (draft : Draft) : Setting → Draft
  | .name name => { draft with name := some name }
  | .traceRejections b => { draft with traceRejections := some b }

/-- What a setting comes to in an object, after the fields found so far. -/
def Draft.set (draft : Draft) (setting : Setting) : Except Fault Draft :=
  if draft.has setting then .error (.mismatch (.duplicateField setting.key)) else .ok (draft.plus setting)

/-- The fields found are those that have been said. -/
structure Draft.Holds (draft : Draft) (said : List Setting) : Prop where
  name : ∀ name, draft.name = some name ↔ .name name ∈ said
  traceRejections : ∀ b, draft.traceRejections = some b ↔ .traceRejections b ∈ said

variable {config : Config} {draft : Draft} {said : List Setting}

private theorem mem_settings_iff {setting : Setting} : setting ∈ config.settings ↔
    setting = .name config.name ∨ setting = .traceRejections config.traceRejections := by
  simp [settings]

private theorem name_mem_settings {name : String} : .name name ∈ config.settings ↔ name = config.name := by
  simp [settings]

private theorem traceRejections_mem_settings {b : Bool} :
    .traceRejections b ∈ config.settings ↔ b = config.traceRejections := by
  simp [settings]

private theorem Draft.holds_nothing : Draft.Holds {} [] :=
  ⟨by simp, by simp⟩

/-- Of one configuration, a field has been found exactly if its setting has been said. -/
theorem Draft.Holds.has_iff (holds : draft.Holds said) (own : said ⊆ config.settings) {setting : Setting}
    (mine : setting ∈ config.settings) : draft.has setting = true ↔ setting ∈ said := by
  rcases mem_settings_iff.mp mine with rfl | rfl
  · rw [← holds.name]
    refine Option.isSome_iff_exists.trans ⟨fun ⟨name, found⟩ => ?_, fun found => ⟨_, found⟩⟩
    rw [found, name_mem_settings.mp (own ((holds.name name).mp found))]
  · rw [← holds.traceRejections]
    refine Option.isSome_iff_exists.trans ⟨fun ⟨b, found⟩ => ?_, fun found => ⟨_, found⟩⟩
    rw [found, traceRejections_mem_settings.mp (own ((holds.traceRejections b).mp found))]

/-- One setting more. -/
theorem Draft.Holds.plus (holds : draft.Holds said) (own : said ⊆ config.settings) {setting : Setting}
    (mine : setting ∈ config.settings) : (draft.plus setting).Holds (said ++ [setting]) := by
  rcases mem_settings_iff.mp mine with rfl | rfl
  · refine ⟨fun name => ?_, fun b => ?_⟩
    · have already : .name name ∈ said → name = config.name := fun among =>
        name_mem_settings.mp (own among)
      simpa [Draft.plus, eq_comm] using already
    · simpa [Draft.plus] using holds.traceRejections b
  · refine ⟨fun name => ?_, fun b => ?_⟩
    · simpa [Draft.plus] using holds.name name
    · have already : .traceRejections b ∈ said → b = config.traceRejections := fun among =>
        traceRejections_mem_settings.mp (own among)
      simpa [Draft.plus, eq_comm] using already

/-- Settings that have not been said yet are found one after the other. -/
theorem Draft.Holds.run (holds : draft.Holds said) {rest : List Setting} (once : (said ++ rest).Nodup)
    (own : said ++ rest ⊆ config.settings) :
    rest.foldlM Draft.set draft = .ok (rest.foldl Draft.plus draft) ∧
      (rest.foldl Draft.plus draft).Holds (said ++ rest) := by
  induction rest generalizing draft said with
  | nil => exact ⟨rfl, (List.append_nil said).symm ▸ holds⟩
  | cons setting rest ih =>
    have ownSaid : said ⊆ config.settings := fun _ among => own (List.mem_append_left _ among)
    have mine : setting ∈ config.settings := own (by simp)
    have fresh : setting ∉ said := fun among =>
      (List.nodup_append.mp once).2.2 setting among setting List.mem_cons_self rfl
    have found : draft.set setting = .ok (draft.plus setting) :=
      if_neg fun has => fresh ((holds.has_iff ownSaid mine).mp has)
    rw [List.append_cons] at once own ⊢
    rw [List.foldlM_cons, found]
    exact ih (holds.plus ownSaid mine) once own

/-- What has been found of a configuration makes it up again, with what it shares with the default. -/
theorem finish_of_told (told : config.Told said) (holds : draft.Holds said) :
    record.finish draft = some config := by
  have name : draft.name.getD ({} : Config).name = config.name := by
    cases found : draft.name with
    | some name => exact name_mem_settings.mp (told.own ((holds.name name).mp found))
    | none =>
      have missing : .name config.name ∉ said := fun among =>
        Option.some_ne_none _ (((holds.name _).mpr among).symm.trans found)
      have mine := name_mem_settings.mpr (Eq.refl config.name)
      exact (name_mem_settings.mp (told.rest _ mine missing)).symm
  have traceRejections : draft.traceRejections.getD ({} : Config).traceRejections =
      config.traceRejections := by
    cases found : draft.traceRejections with
    | some b => exact traceRejections_mem_settings.mp (told.own ((holds.traceRejections b).mp found))
    | none =>
      have missing : .traceRejections config.traceRejections ∉ said := fun among =>
        Option.some_ne_none _ (((holds.traceRejections _).mpr among).symm.trans found)
      have mine := traceRejections_mem_settings.mpr (Eq.refl config.traceRejections)
      exact (traceRejections_mem_settings.mp (told.rest _ mine missing)).symm
  change some (Config.mk _ _) = some config
  rw [name, traceRejections]

/-! ### Reading -/

/-- A field of the record is the one of a setting. -/
structure FieldOf (field : Json.Field Draft) (setting : Setting) : Prop where
  name : field.name = setting.key
  found : ∀ draft, field.found draft = draft.has setting
  lenient : ∀ draft, Lenient (field.read draft)
  takes : ∀ draft text, Tells text setting → Takes (field.read draft) text (.ok (draft.plus setting))

private theorem fields_of_settings (name : String) (b : Bool) :
    List.Forall₂ FieldOf record.fields [.name name, .traceRejections b] := by
  have nameField : FieldOf record.fields[0] (.name name) := by
    refine ⟨rfl, fun _ => rfl, fun _ => lenient_stringValue.bind _, fun draft text tells => ?_⟩
    cases tells with
    | name spells => exact (takes_stringValue spells).wrap fun name => { draft with name := some name }
  have traceField : FieldOf record.fields[1] (.traceRejections b) := by
    refine ⟨rfl, fun _ => rfl, fun _ => lenient_boolValue.bind _, fun draft text tells => ?_⟩
    cases tells with
    | traceRejections => exact (takes_boolValue b).wrap fun b => { draft with traceRejections := some b }
  exact .cons nameField (.cons traceField .nil)

private theorem field_of_setting (setting : Setting) : ∃ field : Json.Field Draft,
    record.fields.find? (fun field => field.name == setting.key) = some field ∧ FieldOf field setting := by
  cases setting with
  | name name =>
    obtain ⟨⟩ | ⟨here, -⟩ := fields_of_settings name false
    exact ⟨_, rfl, here⟩
  | traceRejections b =>
    obtain ⟨⟩ | ⟨-, ⟨⟩ | ⟨here, -⟩⟩ := fields_of_settings "" b
    exact ⟨_, rfl, here⟩

private theorem no_field_of_other {fields : List (Json.Field Draft)} {settings : List Setting}
    (each : List.Forall₂ FieldOf fields settings) {key : String}
    (unknown : ∀ setting ∈ settings, setting.key ≠ key) :
    fields.find? (fun field => field.name == key) = none := by
  induction each with
  | nil => rfl
  | cons here _ ih =>
    obtain ⟨other, others⟩ := List.forall_mem_cons.mp unknown
    rw [List.find?_cons_of_neg (by simpa [here.name] using other)]
    exact ih others

/-- What an entry of an object comes to. -/
theorem takes_entry {member : Member} {said : Option Setting} (spaced : member.Spaced)
    (saying : Says member said) (draft : Draft) :
    Takes (do recordMember record.fields (← string) draft) member.layout.text
      (said.elim (.ok draft) draft.set) := by
  cases saying with
  | @setting setting key value =>
    obtain ⟨field, known, mine⟩ := field_of_setting setting
    have taken := takes_field spaced key known (mine.lenient draft) (mine.takes draft _ value)
    rw [mine.found] at taken
    exact taken
  | other spells unknown value =>
    have none := no_field_of_other (fields_of_settings "" false) fun setting _ => unknown setting
    exact takes_other spaced spells none value draft

/-- Members that say nothing leave what has been found. -/
theorem foldlM_said (entries : List (Member × Option Setting)) (draft : Draft) :
    entries.foldlM (fun draft entry => entry.2.elim (.ok draft) draft.set) draft =
      (entries.filterMap Prod.snd).foldlM Draft.set draft := by
  induction entries generalizing draft with
  | nil => rfl
  | cons entry entries ih =>
    obtain ⟨member, said⟩ := entry
    cases said with
    | none => exact ih draft
    | some setting =>
      rw [List.foldlM_cons]
      exact congrArg (draft.set setting >>= ·) (funext ih)

private theorem starts_of_tells {text : List Char} {setting : Setting} (tells : Tells text setting) :
    Starts ']' (· != ']') text := by
  cases tells with
  | name => exact ⟨_, _, rfl, by decide⟩
  | traceRejections b => cases b <;> exact ⟨_, _, rfl, by decide⟩

/-- Items that tell the first settings fill the fields of these. -/
theorem fills_of_fields {fields : List (Json.Field Draft)} {settings : List Setting}
    (each : List.Forall₂ FieldOf fields settings) {entries : List (Padded × Setting)}
    (spaced : ∀ entry ∈ entries, entry.1.Spaced) (tells : ∀ entry ∈ entries, Tells entry.1.text entry.2)
    (front : entries.map Prod.snd <+: settings) (draft : Draft) :
    Fills fields (entries.map Prod.fst) draft ((entries.map Prod.snd).foldl Draft.plus draft) := by
  induction each generalizing entries draft with
  | nil =>
    have none : entries = [] := List.map_eq_nil_iff.mp (List.prefix_nil.mp front)
    subst none
    exact .done
  | cons here _ ih =>
    cases entries with
    | nil => exact .done
    | cons entry entries =>
      obtain ⟨same, later⟩ := List.cons_prefix_cons.mp front
      obtain ⟨spacedHere, spacedLater⟩ := List.forall_mem_cons.mp spaced
      obtain ⟨tellsHere, tellsLater⟩ := List.forall_mem_cons.mp tells
      have takes := here.takes draft _ (same ▸ tellsHere)
      rw [← same] at takes
      exact .next spacedHere (starts_of_tells tellsHere) takes (ih spacedLater tellsLater later _)

/-- A text of a configuration is read as that configuration. -/
theorem parse_of_written {text : List Char} (written : config.Written text) :
    parse (String.ofList text) = .ok config := by
  cases written with
  | object blankBefore blankLead blankAfter spaced saying told =>
    obtain ⟨found, holds⟩ := Draft.holds_nothing.run told.once told.own
    have members : Takes (objectMembers (recordMember record.fields) {}) _ _ :=
      takes_items (.inr rfl) blankLead (fun entry among => (spaced entry among).layout)
        (fun entry _ => starts_member entry.1)
        (fun entry among => takes_entry (spaced entry among) (saying entry among)) {}
    rw [foldlM_said, found] at members
    exact whole_of_takes (lenient_record record)
      (takes_record_object members (finish_of_told told holds)) blankBefore blankAfter
  | array blankBefore blankLead blankAfter spaced tells front told =>
    obtain ⟨-, holds⟩ := Draft.holds_nothing.run told.once told.own
    have fills := fills_of_fields (fields_of_settings _ _) spaced tells front record.start
    exact whole_of_takes (lenient_record record)
      (takes_record_array blankLead fills (finish_of_told told holds)) blankBefore blankAfter

/-! ### Printed texts -/

private theorem told_settings (config : Config) : config.Told config.settings :=
  ⟨by simp [settings], List.Subset.refl _, fun _ among missing => absurd among missing⟩

/-- The members of a configuration as they are printed: with blanks before each, behind each colon, and behind
the last. -/
def entries (config : Config) (before beyond after : List Char) : List (Member × Option Setting) :=
  [(⟨before, "name".toList.flatMap escapeChar, [], beyond, stringChars config.name, []⟩,
      some (.name config.name)),
    (⟨before, "trace_rejections".toList.flatMap escapeChar, [], beyond, boolChars config.traceRejections,
      after⟩, some (.traceRejections config.traceRejections))]

private theorem written_entries (config : Config) {before beyond after : List Char}
    (blankBefore : Blank before)
    (blankBeyond : Blank beyond) (blankAfter : Blank after) :
    config.Written (bracketed '\x7b' '\x7d' []
      ((config.entries before beyond after).map fun entry => entry.1.layout)) := by
  have written : config.Written ([] ++ bracketed '\x7b' '\x7d' []
      ((config.entries before beyond after).map fun entry => entry.1.layout) ++ []) := by
    refine .object blank_nil blank_nil blank_nil ?_ ?_ config.told_settings
    · refine List.forall_mem_cons.mpr ⟨?_, List.forall_mem_singleton.mpr ?_⟩
      · exact ⟨blankBefore, blank_nil, blankBeyond, blank_nil⟩
      · exact ⟨blankBefore, blank_nil, blankBeyond, blankAfter⟩
    · refine List.forall_mem_cons.mpr ⟨?_, List.forall_mem_singleton.mpr ?_⟩
      · exact .setting (spells_escaped _) (.name (spells_escaped _))
      · exact .setting (spells_escaped _) (.traceRejections _)
  rwa [List.nil_append, List.append_nil] at written

private theorem chars_written (config : Config) : config.Written config.toJson.chars := by
  have printed : config.toJson.chars =
      bracketed '\x7b' '\x7d' [] ((config.entries [] [] []).map fun entry => entry.1.layout) := by
    simp [toJson, chars, memberChars_eq_map, bracketed, entries, Member.layout, Padded.chars, joinComma,
      stringChars_eq_quote]
  rw [printed]
  exact config.written_entries blank_nil blank_nil blank_nil

private theorem indentedChars_written (config : Config) : config.Written (config.toJson.indentedChars 0) := by
  have white : Blank (lineBreak 0) ∧ Blank (lineBreak 1) ∧ Blank [' '] := by decide
  have printed : config.toJson.indentedChars 0 = bracketed '\x7b' '\x7d' []
      ((config.entries (lineBreak 1) [' '] (lineBreak 0)).map fun entry => entry.1.layout) := by
    simp [toJson, indentedChars, indentedMembers, onLines, chars, bracketed, entries, Member.layout,
      Padded.chars, joinComma, stringChars_eq_quote]
  rw [printed]
  exact config.written_entries white.2.1 white.2.2 white.1

/-- The array form of a configuration. -/
def toArray (config : Config) : Json :=
  .array [.string config.name, .bool config.traceRejections]

private theorem toArray_written (config : Config) : config.Written config.toArray.chars := by
  let items : List (Padded × Setting) :=
    [(.bare (stringChars config.name), .name config.name),
      (.bare (boolChars config.traceRejections), .traceRejections config.traceRejections)]
  have printed : config.toArray.chars = [] ++ bracketed '[' ']' [] (items.map Prod.fst) ++ [] := by
    simp [toArray, chars, itemChars_eq_map, bracketed, items, Padded.bare_chars, joinComma]
  rw [printed]
  refine .array blank_nil blank_nil blank_nil ?_ ?_ (List.prefix_refl _) config.told_settings
  all_goals refine List.forall_mem_cons.mpr ⟨?_, List.forall_mem_singleton.mpr ?_⟩
  · exact Padded.bare_spaced _
  · exact Padded.bare_spaced _
  · exact .name (spells_escaped _)
  · exact .traceRejections _

/-- Two configurations have two texts where each is read as the one that it was printed of. -/
theorem texts_apart {print : Config → String} (survives : ∀ config, parse (print config) = .ok config)
    {config other : Config} (different : other ≠ config) : print other ≠ print config := by
  intro sameText
  apply different
  have read := survives other
  rw [sameText, survives config] at read
  exact (Except.ok.inj read).symm

end Config

/-- A configuration is read back from whatever is printed of it, and from every other way of writing it
down, where what is left out is as it is by default. Two configurations never have the same text. -/
theorem configurations_survive_text (config : Config) :
    Config.parse config.toJson.compact = .ok config ∧
    Config.parse config.toJson.indented = .ok config ∧
    Config.parse config.toArray.compact = .ok config ∧
    (∀ text, config.Written text → Config.parse (String.ofList text) = .ok config) ∧
    ∀ other : Config, other ≠ config → other.toJson.compact ≠ config.toJson.compact ∧
      other.toJson.indented ≠ config.toJson.indented := by
  have compact : ∀ config : Config, Config.parse config.toJson.compact = .ok config :=
    fun config => Config.parse_of_written config.chars_written
  have indented : ∀ config : Config, Config.parse config.toJson.indented = .ok config :=
    fun config => Config.parse_of_written config.indentedChars_written
  refine ⟨compact config, indented config, Config.parse_of_written config.toArray_written,
    fun text => Config.parse_of_written, fun other different => ⟨?_, ?_⟩⟩
  · exact Config.texts_apart compact different
  · exact Config.texts_apart indented different

/-- The name is found under an escaped key, after a member of another name that holds a number beyond all
doubles and half of a pair; the rest is as it is by default. -/
theorem escaped_name_survives :
    Config.parse "\x7b\"x\": [1E+999, \x7b\"\\ud800\":null\x7d],\"n\\u0061me\":\"\\ud83d\\udE00\"\x7d" =
      .ok ⟨"😀", false⟩ := by
  obtain ⟨-, -, -, survive, -⟩ := configurations_survive_text ⟨"😀", false⟩
  have unit : CodeUnit ['d', '8', '0', '0'] 0xD800 ∧ CodeUnit ['0', '0', '6', '1'] 0x61 ∧
      CodeUnit ['d', '8', '3', 'd'] 0xD83D ∧ CodeUnit ['d', 'E', '0', '0'] 0xDE00 := by
    unfold CodeUnit
    decide
  have blank : Blank [' '] := by decide
  let key : List Char := ['n'] ++ ('\\' :: 'u' :: ['0', '0', '6', '1'] ++ ['m', 'e'])
  let name : List Char := '\\' :: 'u' :: ['d', '8', '3', 'd'] ++ '\\' :: 'u' :: ['d', 'E', '0', '0'] ++ []
  let large : Numeral := ⟨false, .ofNat 1, by decide, none, some ⟨true, some false, .ofNat 999⟩⟩
  let half : Member := ⟨[], '\\' :: 'u' :: ['d', '8', '0', '0'] ++ [], [], [], ['n', 'u', 'l', 'l'], []⟩
  let foreign : List Padded :=
    [.bare large.chars, ⟨[' '], bracketed '\x7b' '\x7d' [] [half.layout], []⟩]
  let entries : List (Member × Option Config.Setting) :=
    [(⟨[], ['x'], [], [' '], bracketed '[' ']' [] foreign, []⟩, none),
      (⟨[], key, [], [], quote name, []⟩, some (.name "😀"))]
  have spellsKey : Spells key "name".toList :=
    .simple (.plain (by decide) (by decide) (by decide))
      (.code unit.2.1 (by decide) (spells_escaped ['m', 'e']))
  have spellsName : Spells name "😀".toList := by
    have paired := Spells.pair unit.2.2.1 unit.2.2.2 (by decide) (by decide) .nil
    have spelled : [Char.ofNat ((0xD83D - 0xD800) * 0x400 + (0xDE00 - 0xDC00) + 0x10000)] = "😀".toList := by
      decide
    rwa [spelled] at paired
  have skipped : Grammatical (bracketed '[' ']' [] foreign) := by
    refine .array blank_nil ?_ ?_
    all_goals refine List.forall_mem_cons.mpr ⟨?_, List.forall_mem_singleton.mpr ?_⟩
    · exact ⟨blank_nil, blank_nil⟩
    · exact ⟨blank, blank_nil⟩
    · exact .number large
    · refine @Grammatical.object [] [half] blank_nil ?_ ?_ ?_
      all_goals refine List.forall_mem_singleton.mpr ?_
      · exact ⟨blank_nil, blank_nil, blank_nil, blank_nil⟩
      · exact .code unit.1 .nil
      · exact .null
  have written : Config.Written ⟨"😀", false⟩
      ([] ++ bracketed '\x7b' '\x7d' [] (entries.map fun entry => entry.1.layout) ++ []) := by
    refine .object blank_nil blank_nil blank_nil ?_ ?_ ⟨?_, ?_, ?_⟩
    · refine List.forall_mem_cons.mpr ⟨?_, List.forall_mem_singleton.mpr ?_⟩
      · exact ⟨blank_nil, blank_nil, blank, blank_nil⟩
      · exact ⟨blank_nil, blank_nil, blank_nil, blank_nil⟩
    · refine List.forall_mem_cons.mpr ⟨?_, List.forall_mem_singleton.mpr ?_⟩
      · have spellsX : Spells ['x'] "x".toList := spells_escaped "x".toList
        exact .other spellsX (fun setting => by cases setting <;> simp [Config.Setting.key]) skipped
      · exact .setting spellsKey (.name spellsName)
    · simp [entries]
    · simp [entries, Config.settings]
    · simp [entries, Config.settings]
  exact survive _ written

end Multimethod
