import Mathlib.Data.List.Lex
import Mathlib.Data.List.Perm.Basic
import TraefikUpgrade.Proofs.Files.FileSystem
import TraefikUpgrade.Proofs.Text.Utf8

/-!
Contract: the files below a location of a tree, in depth-first order.

Owns: the order itself, which is the one of the first names in which two
locations differ, by the bytes of these names; the list of the files below a
location, its dependence on the bytes in the tree alone, and its composition
from the lists of the entries of a directory.

Does not own: how a walk comes to these files (`TraefikUpgrade.Proofs.Files.Walk`).
-/

set_option autoImplicit false

namespace TraefikUpgrade.Files

/-! ### Depth-first order -/

/-- A location comes before another one in a depth-first walk that takes the entries of each
directory in ascending order of the bytes of their names. -/
def Location.Before (first second : Location) : Prop :=
  List.Lex Text.BytesBefore first second

namespace Location

instance (first second : Location) : Decidable (first.Before second) :=
  inferInstanceAs (Decidable (List.Lex Text.BytesBefore first second))

instance : Std.Asymm Before :=
  inferInstanceAs (Std.Asymm (List.Lex Text.BytesBefore))

instance : Std.Trichotomous Before :=
  inferInstanceAs (Std.Trichotomous (List.Lex Text.BytesBefore))

instance : IsOrderConnected Location Before :=
  inferInstanceAs (IsOrderConnected (List String) (List.Lex Text.BytesBefore))

theorem Before.ne {first second : Location} (before : first.Before second) : first ≠ second := by
  rintro rfl
  exact asymm before before

theorem before_of_not_before {first second : Location} (differ : first ≠ second)
    (notAfter : ¬ second.Before first) : first.Before second :=
  Classical.byContradiction fun notBefore =>
    differ (Std.Trichotomous.trichotomous first second notBefore notAfter)

/-- A list in depth-first order is determined by its members. -/
theorem eq_of_pairwise_before {Entry : Type} {location : Entry → Location}
    {first second : List Entry}
    (firstOrdered : first.Pairwise fun a b => (location a).Before (location b))
    (secondOrdered : second.Pairwise fun a b => (location a).Before (location b))
    (same : ∀ entry, entry ∈ first ↔ entry ∈ second) : first = second := by
  have nodup {entries : List Entry}
      (ordered : entries.Pairwise fun a b => (location a).Before (location b)) : entries.Nodup :=
    ordered.imp fun before equal => before.ne (congrArg location equal)
  have perm := (List.perm_ext_iff_of_nodup (nodup firstOrdered) (nodup secondOrdered)).2 same
  exact perm.eq_of_pairwise (fun _ _ _ _ before after => absurd after (asymm before))
    firstOrdered secondOrdered

end Location

/-! ### The files below a location -/

/-- A regular file: where it stands below some location, and its bytes. -/
structure FileBelow where
  location : Location
  bytes : List UInt8
deriving DecidableEq, Repr

namespace FileSystem

def fileBelow? (base : Location) (entry : Location × FileObject) : Option FileBelow :=
  match entry.2 with
  | .file bytes => if base <+: entry.1 then some ⟨entry.1.drop base.length, bytes⟩ else none
  | _ => none

/-- The regular files at a location and below it, in depth-first order. -/
def filesBelow (files : FileSystem) (base : Location) : List FileBelow :=
  (files.objects.filterMap (fileBelow? base)).mergeSort fun first second =>
    decide (¬ second.location.Before first.location)

variable {files : FileSystem} {base : Location}

theorem fileBelow?_eq_some_iff {entry : Location × FileObject} {file : FileBelow} :
    fileBelow? base entry = some file ↔ entry = (base ++ file.location, .file file.bytes) := by
  obtain ⟨place, object⟩ := entry
  cases object with
  | link target => simp [fileBelow?]
  | directory => simp [fileBelow?]
  | file bytes =>
      rw [fileBelow?]
      dsimp only
      constructor
      · intro found
        split at found
        · rename_i below
          obtain ⟨rest, rfl⟩ := below
          rw [← Option.some.inj found, List.drop_left]
        · cases found
      · intro equal
        obtain ⟨rfl, same⟩ := Prod.mk.inj equal
        rw [if_pos (List.prefix_append _ _), List.drop_left, FileObject.file.inj same]

namespace IsTree

theorem mem_filesBelow_iff (tree : files.IsTree) {file : FileBelow} :
    file ∈ files.filesBelow base ↔ files.bytes? (base ++ file.location) = some file.bytes := by
  rw [filesBelow, (List.mergeSort_perm _ _).mem_iff, List.mem_filterMap, bytes?_eq_some_iff]
  constructor
  · rintro ⟨entry, member, found⟩
    rw [fileBelow?_eq_some_iff.1 found] at member
    exact (tree.object?_eq_some_iff (tree.location_ne_nil member)).2 member
  · intro stands
    have below : base ++ file.location ≠ [] := by
      intro root
      rw [root] at stands
      cases stands
    exact ⟨_, (tree.object?_eq_some_iff below).1 stands, fileBelow?_eq_some_iff.2 rfl⟩

theorem pairwise_filesBelow (tree : files.IsTree) (base : Location) :
    (files.filesBelow base).Pairwise fun first second =>
      first.location.Before second.location := by
  have distinct : (files.objects.filterMap (fileBelow? base)).Pairwise fun first second =>
      first.location ≠ second.location := by
    refine List.pairwise_filterMap.2 ((List.pairwise_map.1 tree.unique).imp ?_)
    intro first second differ file ofFirst other ofSecond same
    rw [fileBelow?_eq_some_iff.1 ofFirst, fileBelow?_eq_some_iff.1 ofSecond, same] at differ
    exact differ rfl
  have distinctBelow : (files.filesBelow base).Pairwise fun first second =>
      first.location ≠ second.location :=
    ((List.mergeSort_perm _ _).pairwise_iff fun differ => differ.symm).2 distinct
  have ordered : (files.filesBelow base).Pairwise fun first second =>
      decide (¬ second.location.Before first.location) = true := by
    refine List.pairwise_mergeSort (fun first second third one other => ?_)
      (fun first second => ?_) _
    · rw [decide_eq_true_iff] at one other ⊢
      exact IsOrderConnected.neg_trans other one
    · rw [Bool.or_eq_true, decide_eq_true_iff, decide_eq_true_iff, ← not_and_or]
      exact fun ⟨after, before⟩ => asymm after before
  exact (distinctBelow.and ordered).imp fun ⟨differ, notAfter⟩ =>
    Location.before_of_not_before differ (of_decide_eq_true notAfter)

theorem isEntryName_of_mem_filesBelow (tree : files.IsTree) {file : FileBelow}
    (member : file ∈ files.filesBelow base) : ∀ name ∈ file.location, Path.IsEntryName name := by
  have stands := bytes?_eq_some_iff.1 (tree.mem_filesBelow_iff.1 member)
  exact fun name isName => tree.isEntryName_of_mem stands name (List.mem_append_right _ isName)

/-- The files below a location depend on the bytes there alone. -/
theorem filesBelow_congr {other : FileSystem} {otherBase : Location} (tree : files.IsTree)
    (otherTree : other.IsTree)
    (same : ∀ location, files.bytes? (base ++ location) = other.bytes? (otherBase ++ location)) :
    files.filesBelow base = other.filesBelow otherBase :=
  Location.eq_of_pairwise_before (tree.pairwise_filesBelow base)
    (otherTree.pairwise_filesBelow otherBase) fun file => by
      rw [tree.mem_filesBelow_iff, otherTree.mem_filesBelow_iff, same]

theorem filesBelow_file (tree : files.IsTree) {bytes : List UInt8}
    (isFile : files.bytes? base = some bytes) : files.filesBelow base = [⟨[], bytes⟩] := by
  refine Location.eq_of_pairwise_before (tree.pairwise_filesBelow base)
    (List.pairwise_singleton _ _) fun file => ?_
  rw [tree.mem_filesBelow_iff, List.mem_singleton]
  constructor
  · intro stands
    cases file with
    | mk location bytesBelow =>
        cases location with
        | nil =>
            rw [List.append_nil, isFile] at stands
            rw [Option.some.inj stands]
        | cons name rest =>
            have isDirectory := tree.object?_of_below (bytes?_eq_some_iff.1 stands) (by simp)
            rw [bytes?_eq_some_iff, isDirectory] at isFile
            cases isFile
  · rintro rfl
    rwa [List.append_nil]

/-- The files below a directory are those below its entries, one entry after the other. -/
theorem filesBelow_directory (tree : files.IsTree) {names : List String}
    (isDirectory : files.object? base = some .directory)
    (ordered : names.Pairwise Text.BytesBefore)
    (listed : ∀ name, name ∈ names ↔ name ∈ files.namesIn base) :
    files.filesBelow base = names.flatMap fun name =>
      (files.filesBelow (base ++ [name])).map fun file => ⟨name :: file.location, file.bytes⟩ := by
  refine Location.eq_of_pairwise_before (tree.pairwise_filesBelow base) ?_ fun file => ?_
  · refine List.pairwise_flatMap.2 ⟨fun name _ => ?_, ordered.imp ?_⟩
    · exact List.pairwise_map.2 ((tree.pairwise_filesBelow _).imp .cons)
    · intro first second before file ofFirst other ofSecond
      obtain ⟨_, _, rfl⟩ := List.mem_map.1 ofFirst
      obtain ⟨_, _, rfl⟩ := List.mem_map.1 ofSecond
      exact .rel before
  · rw [tree.mem_filesBelow_iff, List.mem_flatMap]
    constructor
    · intro stands
      cases file with
      | mk location bytes =>
          cases location with
          | nil =>
              rw [List.append_nil, bytes?_eq_some_iff, isDirectory] at stands
              cases stands
          | cons name rest =>
              have split : base ++ name :: rest = base ++ [name] ++ rest := by simp
              dsimp only at stands
              rw [split] at stands
              refine ⟨name, (listed name).2 (tree.mem_namesIn_iff.2 ?_),
                List.mem_map.2 ⟨⟨rest, bytes⟩, tree.mem_filesBelow_iff.2 stands, rfl⟩⟩
              exact tree.exists_object?_of_below (bytes?_eq_some_iff.1 stands)
    · rintro ⟨name, _, member⟩
      obtain ⟨below, isBelow, rfl⟩ := List.mem_map.1 member
      have stands := tree.mem_filesBelow_iff.1 isBelow
      rwa [List.append_assoc] at stands

end IsTree

end FileSystem

end TraefikUpgrade.Files
