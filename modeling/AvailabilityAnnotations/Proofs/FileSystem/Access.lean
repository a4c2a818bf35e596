/-
# Reading and writing where the shape stays

Which file a path leads to depends on the names, the directories and the links of a file
system, and not on the bytes of its files. So as long as files are only written anew,
every path leads where it led before (`SameShape.resolve_eq`), and reading and writing
come down to the one location that a path leads to. Whether they are refused is a matter of
that location too, so a file that was read can be written unless the system refuses just this
(`Refuses`).
-/

import AvailabilityAnnotations.FileSystem.Access
import AvailabilityAnnotations.Proofs.FileSystem.Tree

namespace AvailabilityAnnotations

/-- The bytes of a text. -/
def Text.bytes (text : Text) : ByteArray :=
  (String.ofList text).toUTF8

/-- Bytes are read as a text exactly if they are the bytes of this text. -/
theorem map_toList_fromUTF8?_iff {content : ByteArray} {text : Text} :
    (String.fromUTF8? content).map String.toList = some text ↔ content = text.bytes := by
  constructor
  · intro read
    obtain ⟨string, decoded, rfl⟩ := Option.map_eq_some_iff.1 read
    unfold String.fromUTF8? at decoded
    split at decoded
    · cases decoded
      rw [Text.bytes, String.ofList_toList]
      rfl
    · cases decoded
  · rintro rfl
    have decoded : String.fromUTF8? text.bytes = some (String.ofList text) :=
      dif_pos (String.ofList text).isValidUTF8
    rw [decoded, Option.map_some, String.toList_ofList]

/-- Different texts have different bytes. -/
theorem Text.bytes_injective {first second : Text} (same : first.bytes = second.bytes) :
    first = second := by
  have read := map_toList_fromUTF8?_iff.2 (rfl : first.bytes = first.bytes)
  rw [map_toList_fromUTF8?_iff.2 same] at read
  exact (Option.some.inj read).symm

namespace FileSystem

variable {files first second third : FileSystem} {path : Path} {location : Location}
  {text : Text} {old : ByteArray}

/-- The two file systems have the same entries of the same kinds, with the same targets of
links, and refuse the same accesses. They differ in the bytes of files at most. -/
structure SameShape (first second : FileSystem) : Prop where
  kind_eq : ∀ location,
    (first.root.at? location).map Node.kind = (second.root.at? location).map Node.kind
  workingDirectory_eq : first.workingDirectory = second.workingDirectory
  refusal?_eq : first.refusal? = second.refusal?

namespace SameShape

theorem refl (files : FileSystem) : files.SameShape files :=
  ⟨fun _ => rfl, rfl, rfl⟩

theorem trans (one : first.SameShape second) (two : second.SameShape third) :
    first.SameShape third :=
  ⟨fun location => (one.kind_eq location).trans (two.kind_eq location),
    one.workingDirectory_eq.trans two.workingDirectory_eq,
    one.refusal?_eq.trans two.refusal?_eq⟩

/-- Steps are taken alike in both. -/
theorem walk_eq (same : first.SameShape second)
    (jump : Location → List Step → Except Cause Resolved) (location : Location)
    (steps : List Step) : first.walk jump location steps = second.walk jump location steps := by
  induction steps generalizing location with
  | nil => rfl
  | cons step steps ih =>
      rw [walk, walk, same.refusal?_eq]
      have kinds := same.kind_eq location
      rcases here : first.root.at? location with _ | (_ | _ | entries) <;>
        rcases there : second.root.at? location with _ | (_ | _ | entries') <;>
        simp only [here, there, Option.map_some, Option.map_none, Node.kind, reduceCtorEq,
          Option.some.injEq] at kinds ⊢
      cases step with
      | here => exact ih location
      | up =>
          cases second.refusal? .search location with
          | some cause => rfl
          | none => exact ih location.dropLast
      | enter text =>
          cases second.refusal? .search location with
          | some cause => rfl
          | none =>
              cases named : Name.ofText? text with
              | none => simp only [named]
              | some name =>
                  simp only [named]
                  have inside := same.kind_eq (location ++ [name])
                  rw [Listing.at?_concat here, Listing.at?_concat there] at inside
                  rcases found : entries.find? name with _ | (_ | _ | _) <;>
                    rcases found' : entries'.find? name with _ | (_ | _ | _) <;>
                    simp only [found, found', Option.map_some, Option.map_none, Node.kind,
                      reduceCtorEq, Option.some.injEq, Kind.link.injEq] at inside ⊢
                  · exact ih _
                  · rw [inside]
                  · exact ih _

/-- Links are followed alike in both. -/
theorem follow_eq (same : first.SameShape second) (links : Nat) :
    first.follow links = second.follow links := by
  induction links with
  | zero =>
      funext location steps
      exact same.walk_eq _ location steps
  | succ links ih =>
      funext location steps
      rw [follow, follow, ih]
      exact same.walk_eq _ location steps

/-- A path leads to the same place in both. -/
theorem resolve_eq (same : first.SameShape second) (path : Path) :
    first.resolve path = second.resolve path := by
  unfold resolve
  rw [same.follow_eq, startOf, startOf, same.workingDirectory_eq]

/-- Where one of them has a file, the other one has a file. -/
theorem exists_file (same : first.SameShape second)
    (here : first.root.at? location = some (.file old)) :
    ∃ content, second.root.at? location = some (.file content) := by
  have kinds := same.kind_eq location
  rcases there : second.root.at? location with _ | (content | _ | _) <;>
    simp [here, there, Node.kind] at kinds
  exact ⟨content, rfl⟩

end SameShape

/-- The path leads to an entry at this location. -/
def leadsTo (files : FileSystem) (location : Location) (path : Path) : Bool :=
  match files.resolve path with
  | .ok (.existing found) => found = location
  | _ => false

@[simp] theorem leadsTo_iff :
    files.leadsTo location path = true ↔ files.resolve path = .ok (.existing location) := by
  unfold leadsTo
  split
  · next found resolved => simp [resolved]
  · next other => simpa using other location

/-- A path is looked up where it leads. -/
theorem lookUp_eq_ok_iff {node : Node} : files.lookUp path = .ok (location, node) ↔
    files.resolve path = .ok (.existing location) ∧ files.root.at? location = some node := by
  unfold lookUp
  rcases files.resolve path with cause | (found | ⟨directory, name⟩)
  · simp
  · simp only [Except.ok.injEq, Resolved.existing.injEq]
    constructor
    · intro looked
      split at looked
      · next here =>
          cases looked
          exact ⟨rfl, here⟩
      · cases looked
    · rintro ⟨rfl, here⟩
      simp only [here]
  · simp

/-- The system refuses an access to what the path leads to. -/
def Refuses (files : FileSystem) (access : Access) (path : Path) (cause : Cause) : Prop :=
  ∃ location, files.resolve path = .ok (.existing location) ∧
    files.refusal? access location = some cause

/-- Bytes are read exactly where a path leads to a file that holds them and can be read. -/
theorem read_eq_ok_iff {content : ByteArray} : files.read path = .ok content ↔
    ∃ location, files.resolve path = .ok (.existing location) ∧
      files.root.at? location = some (.file content) ∧ files.refusal? .read location = none := by
  unfold read
  constructor
  · intro answered
    cases looked : files.lookUp path with
    | error cause => simp [looked] at answered
    | ok found =>
        obtain ⟨location, node⟩ := found
        obtain ⟨resolved, here⟩ := lookUp_eq_ok_iff.1 looked
        simp only [looked] at answered
        split at answered
        · cases answered
        · next readable =>
            cases answered
            exact ⟨location, resolved, here, readable⟩
        · cases answered
  · rintro ⟨location, resolved, here, readable⟩
    simp only [lookUp_eq_ok_iff.2 ⟨resolved, here⟩, readable]

/-- A text is read exactly where a path leads to a file with the bytes of the text, which
can be read. -/
theorem readText_eq_ok_iff : files.readText path = .ok text ↔
    ∃ location, files.resolve path = .ok (.existing location) ∧
      files.root.at? location = some (.file text.bytes) ∧
      files.refusal? .read location = none := by
  rw [← read_eq_ok_iff]
  unfold readText
  cases files.read path with
  | error cause => simp
  | ok content =>
      rw [Except.ok.injEq, ← map_toList_fromUTF8?_iff]
      cases decoded : String.fromUTF8? content <;> simp [decoded]

/-- Writing to a file replaces its bytes, if it can be written. -/
theorem writeText_of_file (resolved : files.resolve path = .ok (.existing location))
    (here : files.root.at? location = some (.file old))
    (writable : files.refusal? .write location = none) (text : Text) :
    files.writeText path text = .ok (files.putAt location (.file text.bytes) trivial) := by
  simp [writeText, write, resolved, here, writable, Text.bytes]

/-- Writing to a file fails if it is refused. -/
theorem writeText_of_refused (resolved : files.resolve path = .ok (.existing location))
    (here : files.root.at? location = some (.file old)) {cause : Cause}
    (refused : files.refusal? .write location = some cause) (text : Text) :
    files.writeText path text = .error cause := by
  simp [writeText, write, resolved, here, refused]

/-- Writing to a file changes no shape. -/
theorem sameShape_putAt (here : files.root.at? location = some (.file old))
    (content : ByteArray) : (files.putAt location (.file content) trivial).SameShape files :=
  ⟨Listing.kind_at?_putAt content here, rfl, rfl⟩

/-- What was written to a file is read there, if it can be read. -/
theorem readText_putAt (resolved : files.resolve path = .ok (.existing location))
    (here : files.root.at? location = some (.file old))
    (readable : files.refusal? .read location = none) (text : Text) :
    (files.putAt location (.file text.bytes) trivial).readText path = .ok text :=
  readText_eq_ok_iff.2 ⟨location, ((sameShape_putAt here _).resolve_eq path).trans resolved,
    Listing.at?_putAt_self _ here, readable⟩

end FileSystem

end AvailabilityAnnotations
