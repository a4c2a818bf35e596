/-
# Going down through directories

A path that leads to a directory can be continued by names. Each name that enters an entry
which is no link leads one location further down, whatever links the path has followed
before, so the path behind a path leads to the location behind its location
(`resolve_descend`). Two things can prevent this: a directory on the way that cannot be
searched (`Grants`), and a text that is too long to be used.

Different names give different paths (`descend_injective`).
-/

import AvailabilityAnnotations.FileSystem.Access
import AvailabilityAnnotations.Proofs.FileSystem.Path
import AvailabilityAnnotations.Proofs.FileSystem.Tree
import AvailabilityAnnotations.Proofs.Text.Literal

namespace AvailabilityAnnotations

namespace Path

variable {directory : Path} {name : Name} {names : List Name}

/-- The path behind a path that enters the given names one after the other. -/
def descend (directory : Path) (names : List Name) : Path :=
  names.foldl child directory

@[simp] theorem descend_nil (directory : Path) : directory.descend [] = directory := rfl

@[simp] theorem descend_cons (directory : Path) (name : Name) (names : List Name) :
    directory.descend (name :: names) = (directory.child name).descend names := rfl

theorem descend_append (directory : Path) (front back : List Name) :
    directory.descend (front ++ back) = (directory.descend front).descend back :=
  List.foldl_append

theorem text_child_ne_nil (directory : Path) (name : Name) : (directory.child name).text ≠ [] := by
  simp [text_child, name.isName.1]

/-- Entering a name makes the text of a path longer, without null characters. -/
theorem exists_text_child (directory : Path) (name : Name) :
    ∃ back, (directory.child name).text = directory.text ++ back ∧ '\x00' ∉ back := by
  obtain ⟨-, -, -, -, nullFree, -⟩ := name.isName
  rw [text_child]
  unfold slashed
  split
  · exact ⟨name.text, rfl, nullFree⟩
  · exact ⟨'/' :: name.text, by simp, by simp [nullFree]⟩

theorem text_descend_ne_nil (nonempty : directory.text ≠ []) (names : List Name) :
    (directory.descend names).text ≠ [] := by
  induction names generalizing directory with
  | nil => exact nonempty
  | cons name names ih => exact ih (text_child_ne_nil directory name)

theorem null_notMem_descend (nullFree : '\x00' ∉ directory.text) (names : List Name) :
    '\x00' ∉ (directory.descend names).text := by
  induction names generalizing directory with
  | nil => exact nullFree
  | cons name names ih =>
      obtain ⟨back, longer, backFree⟩ := exists_text_child directory name
      exact ih (by simp [longer, nullFree, backFree])

theorem slashed_child (directory : Path) (name : Name) :
    (directory.child name).slashed = directory.slashed ++ name.text ++ ['/'] := by
  obtain ⟨nonempty, -, -, slashFree, -⟩ := name.isName
  have unended : (directory.child name).text.getLast? ≠ some '/' := by
    obtain ⟨front, last, shape⟩ := (List.eq_nil_or_concat name.text).resolve_left nonempty
    rw [text_child, shape, List.concat_eq_append, ← List.append_assoc, List.getLast?_concat]
    rintro ⟨⟩
    exact slashFree (by simp [shape])
  rw [slashed, if_neg (by simp [text_child_ne_nil, unended]), text_child]

/-- Names with a slash in front of each. -/
def joined (names : List Name) : Text :=
  names.flatMap fun name => '/' :: name.text

theorem text_descend_cons (directory : Path) (name : Name) (names : List Name) :
    (directory.descend (name :: names)).text = directory.slashed ++ name.text ++ joined names := by
  induction names generalizing directory name with
  | nil => simp [text_child, joined]
  | cons next names ih =>
      rw [descend_cons, ih, slashed_child]
      simp [joined]

private theorem joined_injective {first second : Name} {firsts seconds : List Name}
    (same : first.text ++ joined firsts = second.text ++ joined seconds) :
    first = second ∧ firsts = seconds := by
  have slashFree (name : Name) : '/' ∉ name.text := name.isName.2.2.2.1
  induction firsts generalizing first second seconds with
  | nil =>
      cases seconds with
      | nil => exact ⟨Name.ext_text (by simpa [joined] using same), rfl⟩
      | cons other others =>
          have whole : first.text = second.text ++ '/' :: (other.text ++ joined others) := by
            simpa [joined] using same
          exact absurd (by simp [whole]) (slashFree first)
  | cons next firsts ih =>
      cases seconds with
      | nil =>
          have whole : second.text = first.text ++ '/' :: (next.text ++ joined firsts) := by
            simpa [joined] using same.symm
          exact absurd (by simp [whole]) (slashFree second)
      | cons other others =>
          have cut : first.text ++ '/' :: (next.text ++ joined firsts) =
              second.text ++ '/' :: (other.text ++ joined others) := by
            simpa [joined] using same
          obtain ⟨heads, tails⟩ := Text.cut_unique (slashFree first) (slashFree second) cut
          obtain ⟨rfl, rfl⟩ := ih tails
          exact ⟨Name.ext_text heads, rfl⟩

/-- Different names give different paths. -/
theorem descend_injective {first second : List Name} (firstNonempty : first ≠ [])
    (secondNonempty : second ≠ []) (same : directory.descend first = directory.descend second) :
    first = second := by
  obtain ⟨name, names, rfl⟩ := List.exists_cons_of_ne_nil firstNonempty
  obtain ⟨name', names', rfl⟩ := List.exists_cons_of_ne_nil secondNonempty
  have texts := congrArg text same
  rw [text_descend_cons, text_descend_cons, List.append_assoc, List.append_assoc] at texts
  obtain ⟨rfl, rfl⟩ := joined_injective (List.append_cancel_left texts)
  rfl

end Path

namespace Listing

variable {entries : Listing} {location : Location} {node : Node}

/-- What stands below an entry stands in a directory. -/
theorem at?_append_cons_eq_some_iff {next : Name} {rest : Location} :
    entries.at? (location ++ next :: rest) = some node ↔
      ∃ inner, entries.at? location = some (.directory inner) ∧
        inner.at? (next :: rest) = some node := by
  induction location generalizing entries with
  | nil => simp [at?]
  | cons first location ih =>
      cases location with
      | nil => exact at?_cons_cons_eq_some_iff
      | cons second location =>
          rw [List.cons_append, List.cons_append, at?_cons_cons_eq_some_iff]
          simp only [at?_cons_cons_eq_some_iff, ← List.cons_append, ih]
          constructor
          · rintro ⟨inner, found, inside, there, rest⟩
            exact ⟨inside, ⟨inner, found, there⟩, rest⟩
          · rintro ⟨inside, ⟨inner, found, there⟩, rest⟩
            exact ⟨inner, found, inside, there, rest⟩

/-- On the way to an entry stand directories. -/
theorem exists_directory_of_at? {rest : Location} (more : rest ≠ [])
    (there : entries.at? (location ++ rest) = some node) :
    ∃ inner, entries.at? location = some (.directory inner) := by
  obtain ⟨next, rest, rfl⟩ := List.exists_cons_of_ne_nil more
  obtain ⟨inner, here, -⟩ := at?_append_cons_eq_some_iff.1 there
  exact ⟨inner, here⟩

end Listing

namespace FileSystem

variable {files : FileSystem} {directory path : Path} {location start place : Location}
  {node : Node} {name : Name} {names : List Name} {entries : Listing}

section Follow

variable {front tail : List Step} {jump : Location → List Step → Except Cause Resolved}

/-- Where steps have led to a place, further steps go on from that place: at once, or behind
a link. `tail` stands for nothing or for a step that stays in the place. -/
private theorem walk_append
    (stays : ∀ here, files.walk jump here tail = .ok (.existing place) → here = place)
    (jumps : ∀ here steps, jump here (steps ++ tail) = .ok (.existing place) →
      ∃ left, ∀ back, jump here (steps ++ back) = files.follow left place back)
    (arrived : files.walk jump start (front ++ tail) = .ok (.existing place)) :
    (∀ back, files.walk jump start (front ++ back) = files.walk jump place back) ∨
      ∃ left, ∀ back, files.walk jump start (front ++ back) = files.follow left place back := by
  induction front generalizing start with
  | nil =>
      obtain rfl := stays start arrived
      exact .inl fun _ => rfl
  | cons step front ih =>
      have unfolded (back : List Step) := walk.eq_2 files jump start step (front ++ back)
      simp only [List.cons_append, unfolded] at arrived ⊢
      rcases here : files.root.at? start with _ | (_ | _ | entries) <;>
        simp only [here, reduceCtorEq] at arrived ⊢
      cases step with
      | here => exact ih arrived
      | up =>
          cases access : files.refusal? .search start with
          | some cause => simp [access] at arrived
          | none =>
              simp only [access] at arrived ⊢
              exact ih arrived
      | enter text =>
          cases access : files.refusal? .search start with
          | some cause => simp [access] at arrived
          | none =>
              cases named : Name.ofText? text with
              | none => simp [access, named] at arrived
              | some name =>
                  simp only [access, named] at arrived ⊢
                  rcases found : entries.find? name with _ | (_ | target | _) <;>
                    simp only [found] at arrived ⊢
                  · split at arrived <;> cases arrived
                  · exact ih arrived
                  · by_cases empty : target.text = []
                    · simp [empty] at arrived
                    · simp only [if_neg empty, ← List.append_assoc] at arrived ⊢
                      exact .inr (jumps _ _ arrived)
                  · exact ih arrived

/-- Where a path has led to a place, further steps go on from that place, with some number
of links left to follow. -/
theorem exists_follow_append {links : Nat}
    (stays : ∀ links here, files.follow links here tail = .ok (.existing place) → here = place)
    (arrived : files.follow links start (front ++ tail) = .ok (.existing place)) :
    ∃ left, ∀ back, files.follow links start (front ++ back) = files.follow left place back := by
  induction links generalizing start front with
  | zero =>
      rcases walk_append (stays 0) (by simp) arrived with same | behind
      · exact ⟨0, same⟩
      · exact behind
  | succ links ih =>
      rcases walk_append (stays (links + 1)) (fun _ _ => ih) arrived with same | behind
      · exact ⟨links + 1, same⟩
      · exact behind

/-- Whatever number of links is left, steps are taken one by one. -/
theorem exists_follow_eq_walk (files : FileSystem) (links : Nat) :
    ∃ jump, files.follow links = files.walk jump := by
  cases links with
  | zero => exact ⟨_, rfl⟩
  | succ links => exact ⟨_, rfl⟩

/-- Staying in a place leads to the place. -/
theorem eq_of_follow_here {links : Nat}
    (arrived : files.follow links start [.here] = .ok (.existing place)) : start = place := by
  obtain ⟨jump, unfolded⟩ := files.exists_follow_eq_walk links
  rw [unfolded, walk] at arrived
  split at arrived
  · simpa [walk] using arrived
  · cases arrived

/-- An entry that is no link is entered from a directory that can be searched. -/
theorem follow_enter {links : Nat}
    (here : files.root.at? start = some (.directory entries))
    (found : entries.find? name = some node)
    (notLink : ∀ target, node ≠ .link target) (granted : files.refusal? .search start = none) :
    files.follow links start [.enter name.text] = .ok (.existing (start ++ [name])) := by
  have named : Name.ofText? name.text = some name := dif_pos name.isName
  obtain ⟨jump, unfolded⟩ := files.exists_follow_eq_walk links
  rw [unfolded, walk]
  simp only [here, granted, named, found]
  cases node with
  | link target => exact absurd rfl (notLink target)
  | file content => rfl
  | directory inner => rfl

/-- Nothing is entered from a directory that cannot be searched. -/
theorem granted_of_follow_enter {links : Nat} {text : Text} {resolved : Resolved}
    (here : files.root.at? start = some (.directory entries))
    (entered : files.follow links start [.enter text] = .ok resolved) :
    files.refusal? .search start = none := by
  obtain ⟨jump, unfolded⟩ := files.exists_follow_eq_walk links
  rw [unfolded, walk] at entered
  simp only [here] at entered
  cases access : files.refusal? .search start with
  | none => rfl
  | some cause => simp [access] at entered

end Follow

/-- A path can be used if it is a text without null characters that is neither empty nor too
long. -/
theorem flaw?_eq_none_iff : flaw? path = none ↔
    '\x00' ∉ path.text ∧ path.text ≠ [] ∧ path.text.width < pathLimit := by
  unfold flaw?
  split
  · simp_all
  · split
    · simp_all
    · split <;> simp_all

/-- If a path can be used, then so can every path on the way. -/
theorem flaw?_of_descend (names : List Name) (usable : flaw? (directory.descend names) = none)
    (nonempty : directory.text ≠ []) : flaw? directory = none := by
  induction names generalizing directory with
  | nil => exact usable
  | cons name names ih =>
      obtain ⟨nullFree, -, short⟩ :=
        flaw?_eq_none_iff.1 (ih usable (Path.text_child_ne_nil directory name))
      obtain ⟨back, longer, -⟩ := Path.exists_text_child directory name
      rw [longer] at nullFree short
      refine flaw?_eq_none_iff.2 ⟨by simp_all, nonempty, ?_⟩
      simp only [Text.width_append] at short
      omega

/-- Only its length can keep a path from being used that goes on from a path in use. -/
theorem flaw?_descend_eq_none_iff (sound : flaw? directory = none) :
    flaw? (directory.descend names) = none ↔
      (directory.descend names).text.width < pathLimit := by
  obtain ⟨nullFree, nonempty, -⟩ := flaw?_eq_none_iff.1 sound
  rw [flaw?_eq_none_iff]
  exact ⟨fun usable => usable.2.2, fun short => ⟨Path.null_notMem_descend nullFree names,
    Path.text_descend_ne_nil nonempty names, short⟩⟩

/-- A path that leads somewhere can be used. -/
theorem flaw?_of_resolve {resolved : Resolved} (arrived : files.resolve path = .ok resolved) :
    flaw? path = none := by
  unfold resolve at arrived
  split at arrived
  · cases arrived
  · assumption

/-- The path of an entry goes on from where the directory's path leads. -/
theorem exists_resolve_child_eq (arrived : files.resolve directory = .ok (.existing location))
    (usable : flaw? (directory.child name) = none) :
    ∃ left, files.resolve (directory.child name) =
      files.follow left location [.enter name.text] := by
  have sound := flaw?_of_resolve arrived
  obtain ⟨-, nonempty, -⟩ := flaw?_eq_none_iff.1 sound
  have start : files.startOf (directory.child name) = files.startOf directory := by
    obtain ⟨char, text, shape⟩ := List.exists_cons_of_ne_nil nonempty
    unfold startOf Path.isAbsolute
    rw [Path.text_child, Path.slashed, shape]
    split <;> rfl
  obtain ⟨front, steps, childSteps⟩ := Path.exists_steps_child nonempty
  rw [resolve, sound] at arrived
  rw [resolve, usable]
  simp only [start, childSteps] at arrived ⊢
  have goesOn : ∃ left, ∀ back, files.follow linkLimit (files.startOf directory)
      (front ++ back) = files.follow left location back := by
    rcases steps with plain | slash
    · have arrives : files.follow linkLimit (files.startOf directory) (front ++ []) =
          .ok (.existing location) := by simpa [plain] using arrived
      refine exists_follow_append ?_ arrives
      rintro (_ | links) here same <;> simpa [follow, walk] using same
    · exact exists_follow_append (fun _ _ => eq_of_follow_here) (by simpa [slash] using arrived)
  obtain ⟨left, goesOn⟩ := goesOn
  exact ⟨left, goesOn _⟩

/-- An entry of a directory that is no link is reached through the directory's path, if the
directory can be searched. -/
theorem resolve_child (arrived : files.resolve directory = .ok (.existing location))
    (here : files.root.at? location = some (.directory entries))
    (found : entries.find? name = some node) (notLink : ∀ target, node ≠ .link target)
    (granted : files.refusal? .search location = none)
    (usable : flaw? (directory.child name) = none) :
    files.resolve (directory.child name) = .ok (.existing (location ++ [name])) := by
  obtain ⟨left, goesOn⟩ := exists_resolve_child_eq arrived usable
  rw [goesOn, follow_enter here found notLink granted]

/-- Every directory that the names lead through grants an access, from the directory at the
location to that which the last name stands in. -/
def Grants (files : FileSystem) (access : Access) (location : Location) (names : List Name) :
    Prop :=
  ∀ front, front <+: names → front ≠ names → files.refusal? access (location ++ front) = none

theorem grants_nil (files : FileSystem) (access : Access) (location : Location) :
    files.Grants access location [] :=
  fun _ part proper => absurd (List.prefix_nil.1 part) proper

theorem grants_cons_iff {access : Access} : files.Grants access location (name :: names) ↔
    files.refusal? access location = none ∧ files.Grants access (location ++ [name]) names := by
  constructor
  · intro granted
    refine ⟨by simpa using granted [] List.nil_prefix (by simp), fun front part proper => ?_⟩
    simpa using
      granted (name :: front) (List.cons_prefix_cons.2 ⟨rfl, part⟩) (by simpa using proper)
  · rintro ⟨first, others⟩ front part proper
    rcases List.prefix_cons_iff.1 part with rfl | ⟨rest, rfl, behind⟩
    · simpa using first
    · simpa using others rest behind (by simpa using proper)

/-- What is granted on the whole way is granted on the first part of it. -/
theorem Grants.of_prefix {access : Access} {front : List Name}
    (granted : files.Grants access location names) (part : front <+: names) :
    files.Grants access location front := by
  intro before inside proper
  refine granted before (inside.trans part) ?_
  rintro rfl
  exact proper (inside.eq_of_length_le part.length_le)

/-- What stands below a directory and is no link is reached through the directory's path, if
the directories on the way can be searched. -/
theorem resolve_descend (arrived : files.resolve directory = .ok (.existing location))
    (there : files.root.at? (location ++ names) = some node)
    (notLink : ∀ target, node ≠ .link target) (granted : files.Grants .search location names)
    (usable : flaw? (directory.descend names) = none) :
    files.resolve (directory.descend names) = .ok (.existing (location ++ names)) := by
  induction names generalizing directory location with
  | nil => simpa using arrived
  | cons name names ih =>
      obtain ⟨entries, here, below⟩ := Listing.at?_append_cons_eq_some_iff.1 there
      obtain ⟨first, others⟩ := grants_cons_iff.1 granted
      have behind : files.root.at? (location ++ [name] ++ names) = some node := by simpa using there
      have childUsable : flaw? (directory.child name) = none :=
        flaw?_of_descend names usable (Path.text_child_ne_nil directory name)
      have childArrived :
          files.resolve (directory.child name) = .ok (.existing (location ++ [name])) := by
        cases names with
        | nil => exact resolve_child arrived here below notLink first childUsable
        | cons next names =>
            obtain ⟨inner, found, -⟩ := Listing.at?_cons_cons_eq_some_iff.1 below
            exact resolve_child arrived here found (by simp) first childUsable
      simpa using ih childArrived behind others usable

/-- Where all paths on the way lead somewhere, the directories on the way can be searched. -/
theorem grants_of_resolve (arrived : files.resolve directory = .ok (.existing location))
    (there : files.root.at? (location ++ names) = some node)
    (led : ∀ front, front ≠ [] → front <+: names →
      ∃ resolved, files.resolve (directory.descend front) = .ok resolved) :
    files.Grants .search location names := by
  induction names generalizing directory location with
  | nil => exact grants_nil files .search location
  | cons name names ih =>
      obtain ⟨entries, here, below⟩ := Listing.at?_append_cons_eq_some_iff.1 there
      obtain ⟨resolved, childLed⟩ := led [name] (by simp) (List.prefix_append [name] names)
      have childUsable := flaw?_of_resolve childLed
      obtain ⟨left, goesOn⟩ := exists_resolve_child_eq arrived childUsable
      have first : files.refusal? .search location = none :=
        granted_of_follow_enter here (goesOn.symm.trans childLed)
      refine grants_cons_iff.2 ⟨first, ?_⟩
      cases names with
      | nil => exact grants_nil files .search _
      | cons next names =>
          obtain ⟨inner, found, -⟩ := Listing.at?_cons_cons_eq_some_iff.1 below
          have childArrived := resolve_child arrived here found (by simp) first childUsable
          refine ih childArrived (by simpa using there) fun front nonempty part => ?_
          exact led (name :: front) (by simp) (List.cons_prefix_cons.2 ⟨rfl, part⟩)

end FileSystem

end AvailabilityAnnotations
