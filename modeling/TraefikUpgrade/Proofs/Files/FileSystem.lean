import Mathlib.Data.List.Induction
import Mathlib.Data.List.Nodup
import TraefikUpgrade.Proofs.Files.Path

/-!
Contract: file systems that are trees of directories and regular files.

Owns: the invariant of such a file system, what an operation that succeeds says
about the locations on the way of its path, and which locations it changes. A
path that leads somewhere in a tree leads to the place that its names spell.

Does not own: sequences of operations (`TraefikUpgrade.Proofs.Files.Host`).
-/

set_option autoImplicit false

namespace TraefikUpgrade.Files.FileSystem

open Files.Path (IsSegment IsEntryName Passes along enter)

/-- The bytes of the regular file at a location. -/
def bytes? (files : FileSystem) (location : Location) : Option (List UInt8) :=
  match files.object? location with
  | some (.file bytes) => some bytes
  | _ => none

theorem bytes?_eq_some_iff {files : FileSystem} {location : Location} {bytes : List UInt8} :
    files.bytes? location = some bytes ↔ files.object? location = some (.file bytes) := by
  rw [bytes?]
  split
  · rename_i found
    simp [found]
  · rename_i other
    simpa using other bytes

/-! ### Putting an object at a location -/

theorem lookup_cons_eq_ite (key wanted : Location) (value : FileObject)
    (rest : List (Location × FileObject)) :
    ((key, value) :: rest).lookup wanted =
      if wanted = key then some value else rest.lookup wanted := by
  by_cases same : wanted = key
  · rw [if_pos same, same, List.lookup_cons_self]
  · have unequal : (wanted == key) = false := beq_false_of_ne same
    rw [if_neg same, List.lookup_cons, unequal]

theorem lookup_replace (objects : List (Location × FileObject)) (location wanted : Location)
    (object : FileObject) :
    (objects.map fun entry => if entry.1 = location then (location, object) else entry).lookup
        wanted =
      if wanted = location then (objects.lookup location).map fun _ => object
      else objects.lookup wanted := by
  induction objects with
  | nil => simp
  | cons entry rest inductionHypothesis =>
      obtain ⟨key, value⟩ := entry
      rw [List.map_cons, lookup_cons_eq_ite, lookup_cons_eq_ite]
      by_cases atKey : key = location
      · rw [if_pos atKey, lookup_cons_eq_ite, inductionHypothesis, atKey]
        by_cases isWanted : wanted = location
        · simp [isWanted]
        · simp [isWanted]
      · rw [if_neg atKey, lookup_cons_eq_ite, inductionHypothesis]
        by_cases isWanted : wanted = location
        · simp [isWanted, Ne.symm atKey]
        · simp [isWanted]

theorem object?_put (files : FileSystem) {location : Location} (below : location ≠ [])
    (object : FileObject) (wanted : Location) :
    (files.put location object).object? wanted =
      if wanted = location then some object else files.object? wanted := by
  by_cases root : wanted = []
  · simp [object?, root, Ne.symm below]
  · have notRoot : wanted.isEmpty = false := by simpa using root
    rw [object?, object?, notRoot, if_neg Bool.false_ne_true, if_neg Bool.false_ne_true, put]
    dsimp only
    cases stands : files.objects.lookup location with
    | some before => simp [lookup_replace, stands]
    | none =>
        rw [if_neg (by simp), List.lookup_append, lookup_cons_eq_ite]
        by_cases isWanted : wanted = location
        · simp [isWanted, stands]
        · simp [isWanted]

theorem object?_put_of_ne (files : FileSystem) {location wanted : Location} (below : location ≠ [])
    (object : FileObject) (differs : wanted ≠ location) :
    (files.put location object).object? wanted = files.object? wanted := by
  rw [object?_put files below, if_neg differs]

theorem mem_objects_put {files : FileSystem} {location : Location} {object : FileObject}
    {entry : Location × FileObject} (member : entry ∈ (files.put location object).objects) :
    entry = (location, object) ∨ entry ∈ files.objects := by
  rw [put] at member
  dsimp only at member
  split at member
  · obtain ⟨before, isBefore, replaced⟩ := List.mem_map.1 member
    split at replaced
    · exact .inl replaced.symm
    · exact .inr (replaced ▸ isBefore)
  · rcases List.mem_append.1 member with kept | added
    · exact .inr kept
    · exact .inl (List.mem_singleton.1 added)

theorem locations_put (files : FileSystem) (location : Location) (object : FileObject) :
    (files.put location object).objects.map Prod.fst =
      if (files.objects.lookup location).isSome then files.objects.map Prod.fst
      else files.objects.map Prod.fst ++ [location] := by
  rw [put]
  dsimp only
  split
  · rw [List.map_map]
    refine List.map_congr_left fun entry _ => ?_
    dsimp only [Function.comp]
    split
    · rename_i atLocation
      exact atLocation.symm
    · rfl
  · simp

/-! ### Trees -/

/-- Every location stands once and in a directory, and there are no links. -/
structure IsTree (files : FileSystem) : Prop where
  unique : (files.objects.map Prod.fst).Nodup
  placed : ∀ entry ∈ files.objects, ∃ directory name, entry.1 = directory ++ [name] ∧
    IsEntryName name ∧ files.object? directory = some .directory
  noLink : ∀ entry ∈ files.objects, ∀ target, entry.2 ≠ .link target
  workingDirectory : files.object? files.workingDirectory = some .directory

/-- An object that may stand where it does in a tree: under a name, in a directory, and no link. -/
def IsPlaced (files : FileSystem) : Location × FileObject → Prop
  | (_, .link _) => False
  | (location, _) => ∃ name ∈ location.getLast?, IsEntryName name ∧
      files.object? location.dropLast = some .directory

instance (files : FileSystem) (entry : Location × FileObject) :
    Decidable (files.IsPlaced entry) := by
  unfold IsPlaced
  split <;> infer_instance

theorem isPlaced_iff {files : FileSystem} {entry : Location × FileObject} :
    files.IsPlaced entry ↔
      (∃ directory name, entry.1 = directory ++ [name] ∧ IsEntryName name ∧
        files.object? directory = some .directory) ∧
      ∀ target, entry.2 ≠ .link target := by
  obtain ⟨location, object⟩ := entry
  have placed : (∃ name ∈ location.getLast?, IsEntryName name ∧
      files.object? location.dropLast = some .directory) ↔
      ∃ directory name, location = directory ++ [name] ∧ IsEntryName name ∧
        files.object? directory = some .directory := by
    constructor
    · rintro ⟨name, isLast, entryName, isDirectory⟩
      exact ⟨_, name, (List.dropLast_append_getLast? name isLast).symm, entryName, isDirectory⟩
    · rintro ⟨directory, name, rfl, entryName, isDirectory⟩
      refine ⟨name, List.getLast?_concat, entryName, ?_⟩
      rwa [List.dropLast_concat]
  cases object with
  | link target => exact iff_of_false id fun ⟨_, noLink⟩ => noLink target rfl
  | file bytes => exact placed.trans (and_iff_left nofun).symm
  | directory => exact placed.trans (and_iff_left nofun).symm

theorem isTree_iff {files : FileSystem} :
    files.IsTree ↔ (files.objects.map Prod.fst).Nodup ∧
      (∀ entry ∈ files.objects, files.IsPlaced entry) ∧
      files.object? files.workingDirectory = some .directory := by
  simp only [isPlaced_iff]
  constructor
  · intro tree
    exact ⟨tree.unique, fun entry member => ⟨tree.placed entry member, tree.noLink entry member⟩,
      tree.workingDirectory⟩
  · rintro ⟨unique, entries, workingDirectory⟩
    exact ⟨unique, fun entry member => (entries entry member).1,
      fun entry member => (entries entry member).2, workingDirectory⟩

instance (files : FileSystem) : Decidable files.IsTree :=
  decidable_of_iff _ isTree_iff.symm

namespace IsTree

variable {files : FileSystem}

theorem location_ne_nil (tree : files.IsTree) {entry : Location × FileObject}
    (member : entry ∈ files.objects) : entry.1 ≠ [] := by
  obtain ⟨directory, name, equal, -⟩ := tree.placed entry member
  simp [equal]

theorem object?_eq_some_iff (tree : files.IsTree) {location : Location} {object : FileObject}
    (below : location ≠ []) :
    files.object? location = some object ↔ (location, object) ∈ files.objects := by
  rw [object?, if_neg (by simpa using below)]
  refine ⟨fun stands => ?_, fun member => List.lookup_eq_some_iff.2 ?_⟩
  · obtain ⟨before, after, objects, -⟩ := List.lookup_eq_some_iff.1 stands
    simp [objects]
  · obtain ⟨before, after, objects⟩ := List.append_of_mem member
    refine ⟨before, after, objects, fun entry isBefore => ?_⟩
    have unique := tree.unique
    rw [objects, List.map_append, List.nodup_append] at unique
    have differs := unique.2.2 entry.1 (List.mem_map_of_mem isBefore) location (by simp)
    simpa using Ne.symm differs

theorem exists_name (tree : files.IsTree) {location : Location} {object : FileObject}
    (stands : files.object? location = some object) (below : location ≠ []) :
    ∃ directory name, location = directory ++ [name] ∧ IsEntryName name ∧
      files.object? directory = some .directory :=
  tree.placed _ ((tree.object?_eq_some_iff below).1 stands)

theorem object?_ne_link (tree : files.IsTree) (location : Location) (target : String) :
    files.object? location ≠ some (.link target) := by
  intro stands
  by_cases root : location = []
  · rw [root] at stands
    cases stands
  · exact tree.noLink _ ((tree.object?_eq_some_iff root).1 stands) target rfl

/-- In a tree there is nothing but files and directories. -/
theorem object?_eq_file_or_directory (tree : files.IsTree) {location : Location}
    {object : FileObject} (stands : files.object? location = some object) :
    (∃ bytes, files.bytes? location = some bytes ∧ object = .file bytes) ∨ object = .directory := by
  cases object with
  | file bytes => exact .inl ⟨bytes, bytes?_eq_some_iff.2 stands, rfl⟩
  | link target => exact absurd stands (tree.object?_ne_link location target)
  | directory => exact .inr rfl

/-- What stands in a tree is known from the bytes of its files and from its directories. -/
theorem object?_congr {other : FileSystem} (tree : files.IsTree) (otherTree : other.IsTree)
    {location : Location} (sameBytes : files.bytes? location = other.bytes? location)
    (sameDirectory : files.object? location = some .directory ↔
      other.object? location = some .directory) :
    files.object? location = other.object? location := by
  refine Option.ext fun object => ⟨fun stands => ?_, fun stands => ?_⟩
  · rcases tree.object?_eq_file_or_directory stands with ⟨bytes, read, rfl⟩ | rfl
    · rw [sameBytes] at read
      exact bytes?_eq_some_iff.1 read
    · exact sameDirectory.1 stands
  · rcases otherTree.object?_eq_file_or_directory stands with ⟨bytes, read, rfl⟩ | rfl
    · rw [← sameBytes] at read
      exact bytes?_eq_some_iff.1 read
    · exact sameDirectory.2 stands

theorem object?_dropLast (tree : files.IsTree) {location : Location} {object : FileObject}
    (stands : files.object? location = some object) :
    files.object? location.dropLast = some .directory := by
  by_cases root : location = []
  · rw [root]
    rfl
  · obtain ⟨directory, name, equal, -, isDirectory⟩ := tree.exists_name stands root
    rw [equal, List.dropLast_concat]
    exact isDirectory

/-- What has something below it is a directory. -/
theorem object?_of_below (tree : files.IsTree) {location rest : Location} {object : FileObject}
    (stands : files.object? (location ++ rest) = some object) (below : rest ≠ []) :
    files.object? location = some .directory := by
  induction rest using List.reverseRecOn generalizing object with
  | nil => exact absurd rfl below
  | append_singleton before last inductionHypothesis =>
      have isDirectory := tree.object?_dropLast stands
      rw [← List.append_assoc, List.dropLast_concat] at isDirectory
      by_cases direct : before = []
      · rwa [direct, List.append_nil] at isDirectory
      · exact inductionHypothesis isDirectory direct

theorem exists_object?_of_below (tree : files.IsTree) {location rest : Location}
    {object : FileObject} (stands : files.object? (location ++ rest) = some object) :
    ∃ above, files.object? location = some above := by
  by_cases here : rest = []
  · rw [here, List.append_nil] at stands
    exact ⟨object, stands⟩
  · exact ⟨.directory, tree.object?_of_below stands here⟩

theorem isEntryName_of_mem (tree : files.IsTree) {location : Location} {object : FileObject}
    (stands : files.object? location = some object) : ∀ name ∈ location, IsEntryName name := by
  induction location using List.reverseRecOn generalizing object with
  | nil => exact fun _ member => nomatch member
  | append_singleton directory last inductionHypothesis =>
      obtain ⟨above, name, equal, entryName, isDirectory⟩ := tree.exists_name stands (by simp)
      obtain ⟨rfl, rfl⟩ := List.append_singleton_inj.1 equal
      intro name member
      rcases List.mem_append.1 member with isAbove | isLast
      · exact inductionHypothesis isDirectory name isAbove
      · rwa [List.mem_singleton.1 isLast]

private theorem eq_concat_of_nameIn {place location : Location} {name : String}
    (found : (if place.dropLast = location then place.getLast? else none) = some name) :
    place = location ++ [name] := by
  split at found
  · rename_i inLocation
    rw [← inLocation]
    exact (List.dropLast_append_getLast? name found).symm
  · cases found

theorem mem_namesIn_iff (tree : files.IsTree) {location : Location} {name : String} :
    name ∈ files.namesIn location ↔ ∃ object, files.object? (location ++ [name]) = some object := by
  rw [namesIn, List.mem_filterMap]
  refine ⟨?_, ?_⟩
  · rintro ⟨entry, member, found⟩
    refine ⟨entry.2, (tree.object?_eq_some_iff (by simp)).2 ?_⟩
    rw [← eq_concat_of_nameIn found]
    exact member
  · rintro ⟨object, stands⟩
    exact ⟨(location ++ [name], object), (tree.object?_eq_some_iff (by simp)).1 stands, by simp⟩

theorem isEntryName_of_mem_namesIn (tree : files.IsTree) {location : Location} {name : String}
    (member : name ∈ files.namesIn location) : IsEntryName name := by
  obtain ⟨object, stands⟩ := tree.mem_namesIn_iff.1 member
  exact tree.isEntryName_of_mem stands name (by simp)

theorem nodup_namesIn (tree : files.IsTree) (location : Location) :
    (files.namesIn location).Nodup := by
  refine List.pairwise_filterMap.2 ((List.pairwise_map.1 tree.unique).imp ?_)
  rintro first second differ name ofFirst _ ofSecond rfl
  exact differ ((eq_concat_of_nameIn ofFirst).trans (eq_concat_of_nameIn ofSecond).symm)

/-- A tree stays one when a file or a directory is put into a directory, not in place of a
directory. -/
theorem put (tree : files.IsTree) {directory : Location} {name : String} {object : FileObject}
    (isDirectory : files.object? directory = some .directory) (entryName : IsEntryName name)
    (noLink : ∀ target, object ≠ .link target)
    (free : files.object? (directory ++ [name]) ≠ some .directory) :
    (files.put (directory ++ [name]) object).IsTree := by
  have below : directory ++ [name] ≠ [] := by simp
  have keepsDirectories (location : Location)
      (before : files.object? location = some .directory) :
      (files.put (directory ++ [name]) object).object? location = some .directory := by
    rw [object?_put_of_ne files below, before]
    exact fun same => free (same ▸ before)
  constructor
  · rw [locations_put]
    split
    · exact tree.unique
    · rename_i absent
      have fresh : directory ++ [name] ∉ files.objects.map Prod.fst := by
        intro member
        obtain ⟨entry, isEntry, same⟩ := List.mem_map.1 member
        have noEntry := List.lookup_eq_none_iff.1 (Option.not_isSome_iff_eq_none.1 absent)
        simpa [same] using noEntry entry isEntry
      exact List.nodup_append.2 ⟨tree.unique, by simp, by
        rintro location member _ (_ | ⟨_, ⟨⟩⟩) rfl
        exact fresh member⟩
  · intro entry member
    rcases mem_objects_put member with rfl | before
    · exact ⟨directory, name, rfl, entryName, keepsDirectories _ isDirectory⟩
    · obtain ⟨above, last, equal, isEntryName, isAbove⟩ := tree.placed entry before
      exact ⟨above, last, equal, isEntryName, keepsDirectories _ isAbove⟩
  · intro entry member
    rcases mem_objects_put member with rfl | before
    · exact noLink
    · exact tree.noLink entry before
  · exact keepsDirectories _ tree.workingDirectory

end IsTree

end TraefikUpgrade.Files.FileSystem
