/-
# The sources that are found

The search for sources goes over paths, and what it has to find is a matter of the file tree.
`IsSource` says it by the names that lead from the directory to a file: no link among them
may stand for a directory, and the last name is that of a file, or of a link over which the
path leads to one.

Not every source is found (`not_findsAll`). A directory that cannot be listed is passed by, a
directory that cannot be searched hides its files, and a path that is too long leads nowhere.
The other sources are visible (`IsVisible`), and `sources_exact` says that the search finds
these and nothing else, each of them once and in the order of their names. So nothing else
keeps a source from being found.
-/

import Mathlib.Data.List.Forall2
import AvailabilityAnnotations.Proofs.FileSystem.Access
import AvailabilityAnnotations.Proofs.FileSystem.Leaves
import AvailabilityAnnotations.Sources

namespace AvailabilityAnnotations

namespace FileSystem

variable {files : FileSystem} {path : Path} {location : Location}

/-- The path leads to a file, all links followed. -/
def LeadsToFile (files : FileSystem) (path : Path) : Prop :=
  ∃ location content, files.resolve path = .ok (.existing location) ∧
    files.root.at? location = some (.file content)

/-- The path leads to the directory at this location, all links followed. -/
def LeadsToDirectory (files : FileSystem) (path : Path) (location : Location) : Prop :=
  files.resolve path = .ok (.existing location) ∧
    ∃ entries, files.root.at? location = some (.directory entries)

theorem isFile_iff : files.isFile path = true ↔ files.LeadsToFile path := by
  unfold isFile content?
  constructor
  · intro isFile
    split at isFile
    · next found content looked =>
        obtain ⟨resolved, here⟩ := lookUp_eq_ok_iff.1 looked
        exact ⟨found, content, resolved, here⟩
    · cases isFile
  · rintro ⟨found, content, resolved, here⟩
    simp [lookUp_eq_ok_iff.2 ⟨resolved, here⟩]

/-- A directory that can be listed has the entries at the location that its path leads to. -/
theorem list_eq_ok_iff {entries : Listing} : files.list path = .ok entries ↔
    ∃ location, files.resolve path = .ok (.existing location) ∧
      files.root.at? location = some (.directory entries) ∧
      files.refusal? .read location = none := by
  unfold list
  constructor
  · intro listed
    split at listed
    · cases listed
    · next found inner looked =>
        obtain ⟨resolved, here⟩ := lookUp_eq_ok_iff.1 looked
        split at listed
        · cases listed
        · next readable =>
            cases listed
            exact ⟨found, resolved, here, readable⟩
    · cases listed
  · rintro ⟨found, resolved, here, readable⟩
    simp only [lookUp_eq_ok_iff.2 ⟨resolved, here⟩, readable]

theorem canList_iff : files.canList path = true ↔ ∃ entries, files.list path = .ok entries := by
  unfold canList
  cases files.list path <;> simp

/-- A path that can be listed leads somewhere. -/
theorem exists_resolve_of_canList (listed : files.canList path = true) :
    ∃ resolved, files.resolve path = .ok resolved := by
  obtain ⟨entries, listed⟩ := canList_iff.1 listed
  obtain ⟨location, resolved, -⟩ := list_eq_ok_iff.1 listed
  exact ⟨_, resolved⟩

/-- Where the way to a directory can be searched, it is a matter of its location and of the
length of its path whether it can be listed. -/
theorem canList_descend_iff {base : Location} {root : Path} {names : List Name} {inner : Listing}
    (arrived : files.resolve root = .ok (.existing base))
    (there : files.root.at? (base ++ names) = some (.directory inner))
    (searched : files.Grants .search base names) :
    files.canList (root.descend names) = true ↔
      flaw? (root.descend names) = none ∧ files.refusal? .read (base ++ names) = none := by
  rw [canList_iff]
  constructor
  · rintro ⟨entries, listed⟩
    obtain ⟨location, resolved, -, readable⟩ := list_eq_ok_iff.1 listed
    have usable := flaw?_of_resolve resolved
    rw [resolve_descend arrived there (by simp) searched usable] at resolved
    cases resolved
    exact ⟨usable, readable⟩
  · rintro ⟨usable, readable⟩
    exact ⟨inner, list_eq_ok_iff.2
      ⟨_, resolve_descend arrived there (by simp) searched usable, there, readable⟩⟩

end FileSystem

namespace Sources

variable {files : FileSystem} {root : Path} {base : Location} {extension : Text}
  {entries : Listing} {names : List Name}

/-- The names lead from the directory at `base`, which `root` is a path of, to a source. -/
structure IsSource (files : FileSystem) (root : Path) (base : Location) (extension : Text)
    (names : List Name) : Prop where
  /-- On the way there are directories only, and no links to directories. -/
  directories : ∀ front, front <+: names → front ≠ names →
    ∃ entries, files.root.at? (base ++ front) = some (.directory entries)
  /-- The last name is that of a file, or of a link over which the path leads to one. -/
  file : (∃ content, files.root.at? (base ++ names) = some (.file content)) ∨
    ∃ target, files.root.at? (base ++ names) = some (.link target) ∧
      files.LeadsToFile (root.descend names)
  extension : ∃ name, names.getLast? = some name ∧ name.HasExtension extension

/-- No directory is a source. -/
theorem IsSource.names_ne_nil (source : IsSource files root base extension names) :
    names ≠ [] := by
  obtain ⟨name, last, -⟩ := source.extension
  rintro rfl
  cases last

/-- The names lead to a source that a search can come to. -/
structure IsVisible (files : FileSystem) (root : Path) (base : Location) (extension : Text)
    (names : List Name) : Prop extends IsSource files root base extension names where
  /-- The directories on the way can be listed. -/
  listed : files.Grants .read base names
  /-- The directories on the way can be searched. -/
  searched : files.Grants .search base names
  /-- The path is short enough to be used. -/
  short : (root.descend names).text.width < FileSystem.pathLimit

/-- What stands below a directory, seen from the root of the tree. -/
theorem at?_below (here : files.root.at? base = some (.directory entries))
    (nonempty : names ≠ []) {node : Node} :
    files.root.at? (base ++ names) = some node ↔ entries.at? names = some node := by
  obtain ⟨next, rest, rfl⟩ := List.exists_cons_of_ne_nil nonempty
  rw [Listing.at?_append_cons_eq_some_iff]
  simp [here]

/-- The shorter beginnings of some names are those of the names in front of the last one. -/
theorem proper_prefix_concat_iff {front directories : List Name} {name : Name} :
    front <+: directories ++ [name] ∧ front ≠ directories ++ [name] ↔ front <+: directories := by
  constructor
  · rintro ⟨part, proper⟩
    exact (List.prefix_concat_iff.1 part).resolve_left proper
  · intro part
    refine ⟨part.trans (List.prefix_append ..), ?_⟩
    rintro rfl
    have shorter := part.length_le
    rw [List.length_append, List.length_singleton] at shorter
    omega

/-- On the way to what stands below a directory there are directories. -/
theorem exists_directory_on_the_way {directories front : List Name} {name : Name} {node : Node}
    (there : files.root.at? (base ++ (directories ++ [name])) = some node)
    (part : front <+: directories) :
    ∃ inner, files.root.at? (base ++ front) = some (.directory inner) := by
  obtain ⟨rest, cut⟩ := part
  rw [← cut, List.append_assoc, ← List.append_assoc] at there
  exact Listing.exists_directory_of_at? (by simp) there

/-- A leaf of the walk stands below the directory, and the walk enters the directories on the
way to it. -/
theorem at?_of_mem_collect {enters : List Name → Bool} {leaf : Listing.Leaf}
    (here : files.root.at? base = some (.directory entries))
    (member : leaf ∈ entries.collect enters) :
    files.root.at? (base ++ leaf.names) = some leaf.node ∧ entries.HasLeaf enters leaf := by
  have ordered : entries.Ordered := Listing.ordered_of_at? files.ordered here
  have hasLeaf := (Listing.mem_collect_iff enters leaf ordered).1 member
  exact ⟨(at?_below here leaf.names_ne_nil).2 hasLeaf.there, hasLeaf⟩

section Below

variable (arrived : files.resolve root = .ok (.existing base))
  (here : files.root.at? base = some (.directory entries))
  (readable : files.refusal? .read base = none)

include arrived

/-- The path of a visible source can be used. -/
theorem IsVisible.flaw?_eq_none (visible : IsVisible files root base extension names) :
    FileSystem.flaw? (root.descend names) = none :=
  (FileSystem.flaw?_descend_eq_none_iff (FileSystem.flaw?_of_resolve arrived)).2 visible.short

/-- The path of a visible source leads to a file. -/
theorem IsVisible.leadsToFile (visible : IsVisible files root base extension names) :
    files.LeadsToFile (root.descend names) := by
  rcases visible.file with ⟨content, there⟩ | ⟨target, -, led⟩
  · have resolved := FileSystem.resolve_descend arrived there (by simp) visible.searched
      (visible.flaw?_eq_none arrived)
    exact ⟨_, content, resolved, there⟩
  · exact led

/-- The directories on the way to a visible source are entered. -/
theorem IsVisible.canList {directories front : List Name} {name : Name}
    (visible : IsVisible files root base extension (directories ++ [name]))
    (part : front <+: directories) : files.canList (root.descend front) = true := by
  obtain ⟨behind, proper⟩ := proper_prefix_concat_iff.2 part
  obtain ⟨inner, there⟩ := visible.directories front behind proper
  obtain ⟨-, nonempty, -⟩ := FileSystem.flaw?_eq_none_iff.1 (FileSystem.flaw?_of_resolve arrived)
  have usable := visible.flaw?_eq_none arrived
  have searched := visible.searched.of_prefix behind
  obtain ⟨rest, cut⟩ := behind
  rw [← cut, Path.descend_append] at usable
  exact (FileSystem.canList_descend_iff arrived there searched).2
    ⟨FileSystem.flaw?_of_descend rest usable (Path.text_descend_ne_nil nonempty front),
      visible.listed front ⟨rest, cut⟩ proper⟩

include here

/-- A visible source is a leaf that the search lets through. -/
theorem IsVisible.exists_leaf (visible : IsVisible files root base extension names) :
    ∃ leaf ∈ entries.collect fun names => files.canList (root.descend names),
      leaf.names = names ∧ leaf.name.extension? = some extension ∧
        files.isFile (root.descend names) = true := by
  have ordered : entries.Ordered := Listing.ordered_of_at? files.ordered here
  obtain ⟨name, last, hasExtension⟩ := visible.extension
  obtain ⟨directories, rfl⟩ := List.getLast?_eq_some_iff.1 last
  have isLeaf {node : Node} (there : files.root.at? (base ++ (directories ++ [name])) = some node)
      (kind : ∀ inner, node ≠ .directory inner) : ⟨directories, name, node⟩ ∈
        entries.collect fun names => files.canList (root.descend names) :=
    (Listing.mem_collect_iff _ _ ordered).2
      ⟨(at?_below here (by simp)).1 there, kind, fun _ _ part => visible.canList arrived part⟩
  have found := Name.extension?_eq_some_iff.2 hasExtension
  have isFile := FileSystem.isFile_iff.2 (visible.leadsToFile arrived)
  rcases visible.file with ⟨content, there⟩ | ⟨target, there, -⟩
  · exact ⟨_, isLeaf there (by simp), rfl, found, isFile⟩
  · exact ⟨_, isLeaf there (by simp), rfl, found, isFile⟩

omit arrived in
/-- A leaf that the search lets through is a source. -/
theorem isSource_of_leaf {leaf : Listing.Leaf}
    (member : leaf ∈ entries.collect fun names => files.canList (root.descend names))
    (found : leaf.name.extension? = some extension)
    (led : files.LeadsToFile (root.descend leaf.names)) :
    IsSource files root base extension leaf.names := by
  obtain ⟨there, -, kind, -⟩ := at?_of_mem_collect here member
  refine ⟨?_, ?_, leaf.name, by simp [Listing.Leaf.names], Name.extension?_eq_some_iff.1 found⟩
  · intro front behind proper
    exact exists_directory_on_the_way there (proper_prefix_concat_iff.1 ⟨behind, proper⟩)
  · cases shape : leaf.node with
    | file content => exact .inl ⟨content, shape ▸ there⟩
    | link target => exact .inr ⟨target, shape ▸ there, led⟩
    | directory inner => exact absurd shape (kind inner)

/-- The directories on the way to a leaf that the search lets through can be searched. -/
theorem searched_of_leaf {leaf : Listing.Leaf}
    (member : leaf ∈ entries.collect fun names => files.canList (root.descend names))
    (led : files.LeadsToFile (root.descend leaf.names)) :
    files.Grants .search base leaf.names := by
  obtain ⟨there, -, -, entered⟩ := at?_of_mem_collect here member
  refine FileSystem.grants_of_resolve arrived there fun front nonempty part => ?_
  rcases List.prefix_concat_iff.1 part with rfl | part
  · obtain ⟨place, _, resolved, -⟩ := led
    exact ⟨_, resolved⟩
  · exact FileSystem.exists_resolve_of_canList (entered front nonempty part)

include readable

/-- The directories on the way to a leaf that the search lets through can be listed. -/
theorem listed_of_leaf {leaf : Listing.Leaf}
    (member : leaf ∈ entries.collect fun names => files.canList (root.descend names))
    (searched : files.Grants .search base leaf.names) :
    files.Grants .read base leaf.names := by
  obtain ⟨there, -, -, entered⟩ := at?_of_mem_collect here member
  intro front behind proper
  have part := proper_prefix_concat_iff.1 ⟨behind, proper⟩
  by_cases start : front = []
  · simpa [start] using readable
  · obtain ⟨inner, onTheWay⟩ := exists_directory_on_the_way there part
    exact ((FileSystem.canList_descend_iff arrived onTheWay (searched.of_prefix behind)).1
      (entered front start part)).2

/-- A leaf that the search lets through is a visible source. -/
theorem isVisible_of_leaf {leaf : Listing.Leaf}
    (member : leaf ∈ entries.collect fun names => files.canList (root.descend names))
    (found : leaf.name.extension? = some extension)
    (isFile : files.isFile (root.descend leaf.names) = true) :
    IsVisible files root base extension leaf.names := by
  have led := FileSystem.isFile_iff.1 isFile
  have searched := searched_of_leaf arrived here member led
  have listed := listed_of_leaf arrived here readable member searched
  have ⟨_, _, resolved, _⟩ := led
  have usable := FileSystem.flaw?_of_resolve resolved
  exact ⟨isSource_of_leaf here member found led, listed, searched,
    (FileSystem.flaw?_eq_none_iff.1 usable).2.2⟩

end Below

/-- The names of the sources that are found, in the order of the search. -/
def foundBelow (files : FileSystem) (root : Path) (extension : Text) (entries : Listing) :
    List (List Name) :=
  ((entries.collect fun names => files.canList (root.descend names)).filter fun leaf =>
    leaf.name.extension? = some extension && files.isFile (root.descend leaf.names)).map
      Listing.Leaf.names

theorem below_eq (found : files.list root = .ok entries) :
    below files root extension = (foundBelow files root extension entries).map root.descend := by
  unfold below foundBelow
  rw [found]
  simp only [Listing.leaves_eq, List.filter_map, List.map_map]
  rfl

section Found

variable (arrived : files.resolve root = .ok (.existing base))
  (here : files.root.at? base = some (.directory entries))
  (readable : files.refusal? .read base = none)

include arrived here readable

/-- What is found are the visible sources. -/
theorem mem_foundBelow_iff : names ∈ foundBelow files root extension entries ↔
    IsVisible files root base extension names := by
  rw [foundBelow, List.mem_map]
  simp only [List.mem_filter, Bool.and_eq_true, decide_eq_true_eq]
  constructor
  · rintro ⟨leaf, ⟨member, found, isFile⟩, rfl⟩
    exact isVisible_of_leaf arrived here readable member found isFile
  · intro visible
    obtain ⟨leaf, member, rfl, found, isFile⟩ := visible.exists_leaf arrived here
    exact ⟨leaf, ⟨member, found, isFile⟩, rfl⟩

omit arrived readable in
/-- The search goes from smaller to larger names. -/
theorem foundBelow_rising : (foundBelow files root extension entries).Pairwise
    fun first second => first.map Name.bytes < second.map Name.bytes :=
  List.pairwise_map.2
    ((Listing.collect_rising (Listing.ordered_of_at? files.ordered here)).filter _)

/-- No path is found twice. -/
theorem nodup_map_foundBelow :
    ((foundBelow files root extension entries).map root.descend).Nodup := by
  have nonempty {names : List Name} (member : names ∈ foundBelow files root extension entries) :
      names ≠ [] :=
    ((mem_foundBelow_iff arrived here readable).1 member).names_ne_nil
  rw [List.Nodup, List.pairwise_map]
  refine (foundBelow_rising here).imp_of_mem fun {first second} inFirst inSecond smaller same => ?_
  obtain rfl := Path.descend_injective (nonempty inFirst) (nonempty inSecond) same
  exact List.lt_irrefl _ smaller

end Found

/-- The paths enter the names of the visible sources below the directory at `base`, each of
them once, and in the order of the bytes of their names, component by component. -/
def ListsSources (files : FileSystem) (root : Path) (base : Location) (extension : Text)
    (paths : List Path) : Prop :=
  paths.Nodup ∧ ∃ found : List (List Name), paths = found.map root.descend ∧
    (∀ names, names ∈ found ↔ IsVisible files root base extension names) ∧
    found.Pairwise fun first second => first.map Name.bytes < second.map Name.bytes

/-- What a search below a path has to answer: nothing where the path leads to no directory, and
the visible sources of the directory otherwise. -/
def IsAnswer (files : FileSystem) (root : Path) (extension : Text) (paths : List Path) : Prop :=
  ((∀ base, ¬ files.LeadsToDirectory root base) → paths = []) ∧
    ∀ base, files.LeadsToDirectory root base → ListsSources files root base extension paths

/-- Below a directory that cannot be listed nothing is visible. -/
theorem not_isVisible_of_unlisted (led : files.LeadsToDirectory root base)
    (unlisted : ∀ entries, files.list root ≠ .ok entries) :
    ¬ IsVisible files root base extension names := by
  intro visible
  obtain ⟨arrived, entries, here⟩ := led
  have readable := visible.listed [] List.nil_prefix visible.names_ne_nil.symm
  rw [List.append_nil] at readable
  exact unlisted entries (FileSystem.list_eq_ok_iff.2 ⟨base, arrived, here, readable⟩)

/-- A search below a directory answers what it has to. -/
theorem isAnswer_below (files : FileSystem) (root : Path) (extension : Text) :
    IsAnswer files root extension (below files root extension) := by
  cases listed : files.list root with
  | error cause =>
      have empty : below files root extension = [] := by rw [below, listed]
      refine ⟨fun _ => empty, fun base led => ?_⟩
      rw [empty]
      exact ⟨.nil, [], rfl, fun names => iff_of_false (by simp)
        (not_isVisible_of_unlisted led (by simp [listed])), .nil⟩
  | ok entries =>
      obtain ⟨base, arrived, here, readable⟩ := FileSystem.list_eq_ok_iff.1 listed
      refine ⟨fun nowhere => absurd ⟨arrived, entries, here⟩ (nowhere base), ?_⟩
      rintro place ⟨led, -⟩
      rw [arrived] at led
      cases led
      rw [below_eq listed]
      exact ⟨nodup_map_foundBelow arrived here readable, _, rfl,
        fun names => mem_foundBelow_iff arrived here readable, foundBelow_rising here⟩

/-- The path of names is found exactly if they lead to a visible source. -/
theorem mem_below_iff (led : files.LeadsToDirectory root base) (nonempty : names ≠ []) :
    root.descend names ∈ below files root extension ↔
      IsVisible files root base extension names := by
  obtain ⟨-, found, paths, visible, -⟩ := (isAnswer_below files root extension).2 base led
  rw [paths, List.mem_map, ← visible]
  constructor
  · rintro ⟨others, member, same⟩
    obtain rfl :=
      Path.descend_injective ((visible others).1 member).names_ne_nil nonempty same
    exact member
  · intro member
    exact ⟨names, member, rfl⟩

/-- **Exactly the visible sources are found.** A search below a path answers nothing where the
path leads to no directory. In a directory it lists the paths that enter the names of a visible
source, and all of them: each once, and in the order of the bytes of their names, component by
component. A configuration joins each of its source directories to its root, and answers with
what is found below these, one after the other. -/
theorem sources_exact (files : FileSystem) :
    (∀ root extension, IsAnswer files root extension (below files root extension)) ∧
    ∀ config : Config, ∃ answers : List (List Path),
      List.Forall₂ (fun directory => IsAnswer files (config.root.join directory) config.extension)
        config.sourceDirectories answers ∧
      config.sources files = answers.flatten := by
  refine ⟨isAnswer_below files, fun config => ?_⟩
  refine ⟨config.sourceDirectories.map fun directory =>
    below files (config.root.join directory) config.extension, ?_, ?_⟩
  · rw [List.forall₂_map_right_iff, List.forall₂_same]
    exact fun directory _ => isAnswer_below files _ config.extension
  · rw [Config.sources, Config.searchRoots, List.flatMap_map, List.flatMap_def]

/-- A directory and a file whose names differ behind the name of the directory, a link to the
file, a link to the directory, and a link to nothing. -/
private def neighbours : FileSystem where
  root := .directory ⟨"S".toList, by decide⟩
    (.directory ⟨"a".toList, by decide⟩
      (.file ⟨"x.swift".toList, by decide⟩ (Text.bytes []) .nil)
      (.file ⟨"a.swift".toList, by decide⟩ (Text.bytes [])
        (.link ⟨"b.swift".toList, by decide⟩ (.ofString "a.swift")
          (.link ⟨"c.swift".toList, by decide⟩ (.ofString "a")
            (.link ⟨"d.swift".toList, by decide⟩ (.ofString "e") .nil))))) .nil
  ordered := by simp [Listing.Ordered, Listing.names]; decide
  workingDirectory := []

/-- As a text, the path of the first source is larger than that of the second one. -/
example : below neighbours (.ofString "S") "swift".toList =
    [.ofString "S/a/x.swift", .ofString "S/a.swift", .ofString "S/b.swift"] := by
  decide +kernel

/-- Where the directory in it cannot be listed, the search passes by it and logs this. -/
example :
    let files := neighbours.refuse .read [⟨"S".toList, by decide⟩, ⟨"a".toList, by decide⟩]
      .permissionDenied
    below files (.ofString "S") "swift".toList =
        [.ofString "S/a.swift", .ofString "S/b.swift"] ∧
      events files (.ofString "S") =
        [.directorySkipped (.ofString "S/a") .permissionDenied] := by
  decide +kernel

/-- The directory of the neighbours, by a path that stays in place 2044 times. -/
private def longWay : Path :=
  ⟨(List.replicate 2044 "./".toList).flatten ++ "S".toList⟩

/-- Every source is found that fulfils a condition. -/
def FindsAll (condition : FileSystem → Path → Location → List Name → Prop) : Prop :=
  ∀ (files : FileSystem) (root : Path) (base : Location) (extension : Text) (names : List Name),
    condition files root base names → files.LeadsToDirectory root base →
      IsSource files root base extension names → root.descend names ∈ below files root extension

/-- Where every source is found that fulfils a condition, the first source among the neighbours
is visible if it does. -/
private theorem FindsAll.isVisible_neighbour
    {condition : FileSystem → Path → Location → List Name → Prop} (all : FindsAll condition)
    (files : FileSystem) (same : files.root = neighbours.root) {root : Path}
    (led : files.LeadsToDirectory root [⟨"S".toList, by decide⟩])
    (fulfilled : condition files root [⟨"S".toList, by decide⟩]
      [⟨"a".toList, by decide⟩, ⟨"x.swift".toList, by decide⟩]) :
    IsVisible files root [⟨"S".toList, by decide⟩] "swift".toList
      [⟨"a".toList, by decide⟩, ⟨"x.swift".toList, by decide⟩] := by
  refine (mem_below_iff led (by simp)).1 (all _ _ _ _ _ fulfilled led ?_)
  refine ⟨?_, .inl ⟨_, by rw [same]; rfl⟩, _, rfl, Name.extension?_eq_some_iff.1 (by decide)⟩
  intro front part proper
  rw [same]
  rcases List.prefix_cons_iff.1 part with rfl | ⟨rest, rfl, behind⟩
  · exact ⟨_, rfl⟩
  · rcases List.prefix_cons_iff.1 behind with rfl | ⟨others, rfl, nothing⟩
    · exact ⟨_, rfl⟩
    · rw [List.prefix_nil.1 nothing] at proper
      exact absurd rfl proper

/-- Not all sources are found. The path of 4089 bytes leads to the directory of the neighbours,
but the path of its first source has 4099 bytes, so it cannot be used, though nothing is
refused. And however short its path is, the source is not found where the directory on the way
cannot be listed, or cannot be searched. -/
theorem not_findsAll :
    (¬ FindsAll fun files _ _ _ => ∀ access location, files.refusal? access location = none) ∧
    (¬ FindsAll fun files root base names =>
      files.Grants .search base names ∧ (root.descend names).text.width < FileSystem.pathLimit) ∧
    ¬ FindsAll fun files root base names =>
      files.Grants .read base names ∧
        (root.descend names).text.width < FileSystem.pathLimit := by
  let directory : Name := ⟨"S".toList, by decide⟩
  let deeper : Name := ⟨"a".toList, by decide⟩
  refine ⟨fun all => ?_, fun all => ?_, fun all => ?_⟩
  · have led : neighbours.LeadsToDirectory longWay [directory] := ⟨by decide +kernel, _, rfl⟩
    have visible := all.isVisible_neighbour neighbours rfl led fun _ _ => rfl
    exact absurd visible.short (by decide +kernel)
  · let files := neighbours.refuse .read [directory, deeper] .permissionDenied
    have led : files.LeadsToDirectory (.ofString "S") [directory] := ⟨by decide +kernel, _, rfl⟩
    have visible := all.isVisible_neighbour files rfl led ⟨fun _ _ _ => rfl, by decide +kernel⟩
    have listed := visible.listed [deeper] (List.prefix_append [deeper] _) (by simp)
    cases listed
  · let files := neighbours.refuse .search [directory, deeper] .permissionDenied
    have led : files.LeadsToDirectory (.ofString "S") [directory] := ⟨by decide +kernel, _, rfl⟩
    have visible := all.isVisible_neighbour files rfl led ⟨fun _ _ _ => rfl, by decide +kernel⟩
    have searched := visible.searched [deeper] (List.prefix_append [deeper] _) (by simp)
    cases searched

end Sources

end AvailabilityAnnotations
