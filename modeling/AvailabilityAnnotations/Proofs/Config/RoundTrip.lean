/-
# Configurations and their texts

A configuration is written as an object that gives all of its fields, in both layouts, so it is
read back as it was. `ofJson_exact` puts this together with what is read from any other text of
a configuration.
-/

import AvailabilityAnnotations.Proofs.Config.Reading
import AvailabilityAnnotations.Proofs.Json.Written

namespace AvailabilityAnnotations

namespace Config

open Json (Padded Member IsBlankRun collection isBlankRun_nil writtenMember)

variable {before gap blank : Text} {setting : Setting}

namespace Setting

def toJson : Setting → Json
  | root path => .string path.text
  | sourceDirectories paths => .array (paths.map fun path => .string path.text)
  | extension string => .string string
  | keyword string => .string string
  | placeholder string => .string string
  | mode choice => .string choice.word.toList
  | dryRun isDry => .bool isDry

end Setting

theorem toJson_eq (config : Config) :
    config.toJson =
      .object (Field.all.map fun field => (field.key, (config.setting field).toJson)) :=
  rfl

theorem isString_quote (string : Text) : IsString string (Json.quote string) :=
  ⟨_, Json.spells_escape string, Json.quote_eq string⟩

theorem isPaths_written (before_blank : IsBlankRun before) (blank_blank : IsBlankRun blank)
    (paths : List Path) :
    IsPaths paths
      (collection '[' (paths.map fun path => before ++ Json.quote path.text) blank ']') := by
  refine ⟨paths.map fun path =>
    (⟨before, Json.quote path.text, [], before_blank, isBlankRun_nil⟩, path), blank, blank_blank,
    ?_, ?_, ?_⟩
  · simp [isString_quote]
  · simp [Function.comp_def]
  · simp [Function.comp_def, Padded.text, Padded.front]

/-- The value of a setting on one line is a text for it. -/
theorem isWritten_compact (setting : Setting) : setting.IsWritten setting.toJson.compact := by
  cases setting with
  | root | extension | keyword | placeholder | mode => exact isString_quote _
  | sourceDirectories paths =>
      rw [Setting.toJson, Json.compact_array, List.map_map]
      exact isPaths_written isBlankRun_nil isBlankRun_nil paths
  | dryRun isDry => cases isDry <;> rfl

/-- The value of a setting over several lines is a text for it. -/
theorem isWritten_prettyAt (depth : Nat) (setting : Setting) :
    setting.IsWritten (setting.toJson.prettyAt depth) := by
  cases setting with
  | root | extension | keyword | placeholder | mode => exact isString_quote _
  | sourceDirectories paths =>
      obtain ⟨blank, blank_blank, written⟩ := Json.exists_prettyAt_array depth
        (paths.map fun path => .string path.text)
      rw [Setting.toJson, written, List.map_map]
      exact isPaths_written (Json.isBlankRun_lineBreak _) blank_blank paths
  | dryRun isDry => cases isDry <;> rfl

/-- The member for a field as it is written. -/
def fieldMember (before_blank : IsBlankRun before) (gap_blank : IsBlankRun gap) (field : Field)
    (value : Text) : Member where
  before := before
  key := field.key.toList.flatMap Json.escapeChar
  between := []
  value := ⟨gap, value, [], gap_blank, isBlankRun_nil⟩
  before_blank := before_blank
  between_blank := isBlankRun_nil

theorem text_fieldMember (before_blank : IsBlankRun before) (gap_blank : IsBlankRun gap)
    (field : Field) (value : Text) :
    (fieldMember before_blank gap_blank field value).text =
      writtenMember before gap field.key value := by
  simp [fieldMember, Member.text, Member.inner, Padded.front, writtenMember, Json.quote]

theorem names_fieldMember (before_blank : IsBlankRun before) (gap_blank : IsBlankRun gap)
    (field : Field) (value : Text) :
    Names (fieldMember before_blank gap_blank field value) field :=
  Json.spells_escape _

namespace Given

/-- All that a configuration has. -/
def ofConfig (config : Config) : Given where
  root? := config.root
  sourceDirectories? := config.sourceDirectories
  extension? := config.extension
  keyword? := config.keyword
  placeholder? := config.placeholder
  mode? := config.mode
  dryRun? := config.dryRun

theorem get?_ofConfig (config : Config) (field : Field) :
    (ofConfig config).get? field = some (config.setting field) := by
  cases field <;> rfl

theorem listedBy_ofConfig (config : Config) :
    (ofConfig config).ListedBy (Field.all.map config.setting) := by
  constructor
  · have fields : (Field.all.map config.setting).map Setting.field = Field.all := by
      simp [Function.comp_def]
    rw [fields]
    decide
  · intro setting
    rw [get?_ofConfig, Option.some.injEq, List.mem_map]
    constructor
    · rintro ⟨field, -, rfl⟩
      rw [field_setting]
    · exact fun same => ⟨setting.field, mem_all setting.field, same⟩

/-- An object with a member for each field, whatever the blanks are, gives all that the
configuration has. -/
theorem isObject_ofConfig {write : Setting → Text}
    (isWritten : ∀ setting : Setting, setting.IsWritten (write setting))
    (before_blank : IsBlankRun before) (gap_blank : IsBlankRun gap)
    (blank_blank : IsBlankRun blank) (config : Config) :
    (ofConfig config).IsObject
      (collection '\x7b' (Field.all.map fun field =>
        writtenMember before gap field.key (write (config.setting field))) blank '\x7d') := by
  refine ⟨Field.all.map fun field => (fieldMember before_blank gap_blank field
    (write (config.setting field)), some (config.setting field)), [], blank, [], isBlankRun_nil,
    blank_blank, isBlankRun_nil, ?_, ?_, ?_⟩
  · intro part inside
    obtain ⟨field, -, rfl⟩ := List.mem_map.1 inside
    exact .setting (by simpa using names_fieldMember before_blank gap_blank field _) (isWritten _)
  · simpa [List.filterMap_map, Function.comp_def] using listedBy_ofConfig config
  · simp [Function.comp_def, text_fieldMember]

end Given

theorem ofJson_compact (config : Config) : ofJson config.toJson.compact = .ok config := by
  have isObject := Given.isObject_ofConfig isWritten_compact isBlankRun_nil isBlankRun_nil
    isBlankRun_nil config
  rw [toJson_eq, Json.compact_object, List.map_map]
  exact ofJson_isObject isObject

theorem ofJson_pretty (config : Config) : ofJson config.toJson.pretty = .ok config := by
  have gap_blank : IsBlankRun [' '] := by simp [IsBlankRun, Json.blanks]
  obtain ⟨blank, blank_blank, written⟩ := Json.exists_prettyAt_object 0
    (Field.all.map fun field => (field.key, (config.setting field).toJson))
  have isObject := Given.isObject_ofConfig (isWritten_prettyAt 1) (Json.isBlankRun_lineBreak 1)
    gap_blank blank_blank config
  rw [toJson_eq, Json.pretty, written, List.map_map]
  exact ofJson_isObject isObject

/-- A configuration is read from any text that gives some of its fields: it has the values that
are given, and the defaults for everything else. It does not matter which fields these are, in
what order, spelling and layout an object gives them and what else stands in it, or whether the
first fields are given by an array. No object may name a field twice. Every configuration is
read back from its own texts. -/
theorem ofJson_exact :
    (∀ (given : Given) (field : Field), given.complete.setting field =
      (given.get? field).getD (({} : Config).setting field)) ∧
    (∀ (given : Given) (text : Text), given.IsObject text ∨ given.IsArray text →
      ofJson text = .ok given.complete) ∧
    (∀ text, RepeatsField text → ∃ problem, ofJson text = .error problem) ∧
    ∀ config : Config, ofJson config.toJson.compact = .ok config ∧
      ofJson config.toJson.pretty = .ok config := by
  refine ⟨Given.setting_complete, ?_, fun text repeats => exists_ofJson_error repeats,
    fun config => ⟨ofJson_compact config, ofJson_pretty config⟩⟩
  rintro given text (isObject | isArray)
  · exact ofJson_isObject isObject
  · exact ofJson_isArray isArray

/-- An object with an escape in the key of a field, and with another member in front of it. -/
theorem ofJson_exact_escaped_key :
    ofJson "\x7b\"x\":[null],\"m\\u006Fde\" : \"attributes\"\x7d".toList =
      .ok { mode := .attributes } := by
  have space : IsBlankRun [' '] := by simp [IsBlankRun, Json.blanks]
  have plain (char : Char) (isPlain : 0x20 ≤ char.toNat ∧ char ≠ '"' ∧ char ≠ '\\') :
      Json.SpellsChar char [char] := .plain isPlain
  let null : Padded := ⟨[], "null".toList, [], isBlankRun_nil, isBlankRun_nil⟩
  let first : Member := ⟨[], ['x'], [], ⟨[], collection '[' [null.text] [] ']', [],
    isBlankRun_nil, isBlankRun_nil⟩, isBlankRun_nil, isBlankRun_nil⟩
  let second : Member := ⟨[], "m\\u006Fde".toList, [' '], ⟨[' '],
    Json.quote "attributes".toList, [], space, isBlankRun_nil⟩, isBlankRun_nil, space⟩
  have other : Gives first none := by
    have isNull : ∀ item ∈ [null], Json.IsValue item.body := by
      simpa [null] using Json.IsValue.word (by decide)
    exact .nothing (.cons (plain 'x' (by decide)) .nil) (fun field => by cases field <;> decide)
      (.array isBlankRun_nil isNull)
  have mode : Gives second (some (.mode .attributes)) := by
    have o : Json.SpellsChar 'o' ['\\', 'u', '0', '0', '6', 'F'] := .unit (by decide) (.digits
      ⟨by decide, .inl rfl⟩ ⟨by decide, .inl rfl⟩ ⟨by decide, .inl rfl⟩ ⟨by decide, .inr rfl⟩)
    have names : Names second .mode := .cons (plain 'm' (by decide)) (.cons o (.cons
      (plain 'd' (by decide)) (.cons (plain 'e' (by decide)) .nil)))
    exact .setting names (isString_quote _)
  have isObject : ({ mode? := some .attributes } : Given).IsObject
      "\x7b\"x\":[null],\"m\\u006Fde\" : \"attributes\"\x7d".toList := by
    refine ⟨[(first, none), (second, some (.mode .attributes))], [], [], [], isBlankRun_nil,
      isBlankRun_nil, isBlankRun_nil, ?_, ?_, rfl⟩
    · simp [other, mode]
    · refine ⟨by simp, fun setting => ?_⟩
      cases setting <;> simp [Setting.field, Given.get?, eq_comm]
  exact ofJson_exact.2.1 _ _ (.inl isObject)

end Config

end AvailabilityAnnotations
