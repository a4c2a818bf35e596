/-
# Settings

A setting is a field of a configuration together with a value for it. What was given is seen
as a map from fields to settings: `get?` looks a field up, `put` gives it a value, and
`ListedBy` says that a list of settings, in any order, is all that was given. Putting such a
list together gives back what it lists (`foldl_put`).

`IsWritten` says which texts stand for the value of a setting.
-/

import AvailabilityAnnotations.Config.Json
import AvailabilityAnnotations.Proofs.Json.Grammar

namespace AvailabilityAnnotations

namespace Config

open Json (IsBlankRun Padded Spells collection quoted)

/-- A field with a value for it. -/
inductive Setting where
  | root (path : Path)
  | sourceDirectories (paths : List Path)
  | extension (text : Text)
  | keyword (text : Text)
  | placeholder (text : Text)
  | mode (choice : Mode)
  | dryRun (isDry : Bool)

/-- A string in quotes, in any of its spellings. -/
def IsString (string text : Text) : Prop :=
  ∃ body, Spells string body ∧ text = quoted body

/-- An array of the strings of paths. -/
def IsPaths (paths : List Path) (text : Text) : Prop :=
  ∃ (items : List (Padded × Path)) (blank : Text), IsBlankRun blank ∧
    (∀ item ∈ items, IsString item.2.text item.1.body) ∧ items.map Prod.snd = paths ∧
    text = collection '[' (items.map fun item => item.1.text) blank ']'

namespace Setting

def field : Setting → Field
  | root _ => .root
  | sourceDirectories _ => .sourceDirectories
  | extension _ => .extension
  | keyword _ => .keyword
  | placeholder _ => .placeholder
  | mode _ => .mode
  | dryRun _ => .dryRun

/-- The texts that stand for the value of a setting. -/
def IsWritten : Setting → Text → Prop
  | root path, text => IsString path.text text
  | sourceDirectories paths, text => IsPaths paths text
  | extension string, text => IsString string text
  | keyword string, text => IsString string text
  | placeholder string, text => IsString string text
  | mode choice, text => IsString choice.word.toList text
  | dryRun isDry, text => text = if isDry then "true".toList else "false".toList

end Setting

/-- The value that a configuration has for a field. -/
def setting (config : Config) : Field → Setting
  | .root => .root config.root
  | .sourceDirectories => .sourceDirectories config.sourceDirectories
  | .extension => .extension config.extension
  | .keyword => .keyword config.keyword
  | .placeholder => .placeholder config.placeholder
  | .mode => .mode config.mode
  | .dryRun => .dryRun config.dryRun

@[simp] theorem field_setting (config : Config) (field : Field) :
    (config.setting field).field = field := by
  cases field <;> rfl

theorem mem_all (field : Field) : field ∈ Field.all := by
  cases field <;> decide

namespace Given

variable {given other : Given} {setting : Setting} {settings : List Setting} {field : Field}

/-- What was given for a field. -/
def get? (given : Given) : Field → Option Setting
  | .root => given.root?.map .root
  | .sourceDirectories => given.sourceDirectories?.map .sourceDirectories
  | .extension => given.extension?.map .extension
  | .keyword => given.keyword?.map .keyword
  | .placeholder => given.placeholder?.map .placeholder
  | .mode => given.mode?.map .mode
  | .dryRun => given.dryRun?.map .dryRun

/-- Give a field a value. -/
def put (given : Given) : Setting → Given
  | .root path => { given with root? := path }
  | .sourceDirectories paths => { given with sourceDirectories? := paths }
  | .extension string => { given with extension? := string }
  | .keyword string => { given with keyword? := string }
  | .placeholder string => { given with placeholder? := string }
  | .mode choice => { given with mode? := choice }
  | .dryRun isDry => { given with dryRun? := isDry }

/-- The list has every setting that was given, and no field twice. -/
def ListedBy (given : Given) (settings : List Setting) : Prop :=
  (settings.map Setting.field).Nodup ∧
    ∀ setting, setting ∈ settings ↔ given.get? setting.field = some setting

theorem has_eq (given : Given) (field : Field) : given.has field = (given.get? field).isSome := by
  cases field <;> simp [has, get?]

@[simp] theorem get?_empty (field : Field) : ({} : Given).get? field = none := by
  cases field <;> rfl

theorem get?_put (given : Given) (setting : Setting) (field : Field) :
    (given.put setting).get? field =
      if field = setting.field then some setting else given.get? field := by
  cases setting <;> cases field <;> rfl

theorem field_of_get? (found : given.get? field = some setting) : setting.field = field := by
  cases field <;> simp only [get?, Option.map_eq_some_iff] at found <;>
    (obtain ⟨_, -, rfl⟩ := found; rfl)

/-- What was given is known from what was given for every field. -/
theorem ext_get? (same : ∀ field, given.get? field = other.get? field) : given = other := by
  have cancel {Value : Type} {make : Value → Setting} {first second : Option Value}
      (injective : ∀ first second, make first = make second → first = second)
      (equal : first.map make = second.map make) : first = second :=
    (Option.map_inj_right injective).1 equal
  obtain ⟨_, _, _, _, _, _, _⟩ := given
  obtain ⟨_, _, _, _, _, _, _⟩ := other
  rw [Given.mk.injEq]
  exact ⟨cancel (fun _ _ => Setting.root.inj) (same .root),
    cancel (fun _ _ => Setting.sourceDirectories.inj) (same .sourceDirectories),
    cancel (fun _ _ => Setting.extension.inj) (same .extension),
    cancel (fun _ _ => Setting.keyword.inj) (same .keyword),
    cancel (fun _ _ => Setting.placeholder.inj) (same .placeholder),
    cancel (fun _ _ => Setting.mode.inj) (same .mode),
    cancel (fun _ _ => Setting.dryRun.inj) (same .dryRun)⟩

/-- What is not in a list is not changed by putting it together. -/
theorem get?_foldl_put_of_ne (absent : ∀ setting ∈ settings, setting.field ≠ field) :
    (settings.foldl put given).get? field = given.get? field := by
  induction settings generalizing given with
  | nil => rfl
  | cons first settings ih =>
      rw [List.foldl_cons, ih fun setting member => absent setting (List.mem_cons_of_mem _ member),
        get?_put, if_neg (absent first List.mem_cons_self).symm]

/-- Each setting of a list is there when the list is put together. -/
theorem get?_foldl_put_of_mem (once : (settings.map Setting.field).Nodup)
    (member : setting ∈ settings) :
    (settings.foldl put given).get? setting.field = some setting := by
  induction settings generalizing given with
  | nil => cases member
  | cons first settings ih =>
      rw [List.map_cons, List.nodup_cons] at once
      rw [List.foldl_cons]
      rcases List.mem_cons.1 member with rfl | later
      · have absent : ∀ later ∈ settings, later.field ≠ setting.field := fun later member same =>
          once.1 (same ▸ List.mem_map_of_mem member)
        rw [get?_foldl_put_of_ne absent, get?_put, if_pos rfl]
      · exact ih once.2 later

/-- A list of what was given, put together in its order, is what was given. -/
theorem foldl_put (listed : given.ListedBy settings) : settings.foldl put {} = given := by
  refine ext_get? fun field => ?_
  by_cases inside : ∃ setting ∈ settings, setting.field = field
  · obtain ⟨setting, member, rfl⟩ := inside
    rw [get?_foldl_put_of_mem listed.1 member, (listed.2 setting).1 member]
  · have absent : ∀ setting ∈ settings, setting.field ≠ field := fun setting member same =>
      inside ⟨setting, member, same⟩
    rw [get?_foldl_put_of_ne absent, get?_empty]
    cases found : given.get? field with
    | none => rfl
    | some setting =>
        have same := field_of_get? found
        exact absurd same (absent setting ((listed.2 setting).2 (same ▸ found)))

/-- A configuration has what was given, and the defaults for everything else. -/
theorem setting_complete (given : Given) (field : Field) :
    given.complete.setting field = (given.get? field).getD (({} : Config).setting field) := by
  cases field <;> simp only [Config.setting, complete, get?] <;> exact (Option.getD_map ..).symm

end Given

end Config

end AvailabilityAnnotations
