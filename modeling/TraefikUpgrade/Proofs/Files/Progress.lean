import Mathlib.Logic.Function.Basic
import TraefikUpgrade.Proofs.Files.Resolution

/-!
Contract: what a part of a run has done to a tree.

Owns: files written one after the other, the relation between the tree before
and the tree after them, and the composition of such parts. Nothing is ever
removed, and directories appear only in a given set of locations.

Does not own: which files a run writes (`TraefikUpgrade.Proofs.Files.Walk`).
-/

set_option autoImplicit false

namespace TraefikUpgrade.Files

open Files.Path (Passes along)
open FileSystem (HasDirectories)

/-- A file to write: the names of its path and its bytes. -/
structure Writing where
  names : List String
  bytes : List UInt8
deriving DecidableEq, Repr

namespace Writing

def location (start : Location) (writing : Writing) : Location :=
  along start writing.names

/-- The bytes at each location after writings from the same directory, one after the other. -/
def applyAll (start : Location) (writings : List Writing)
    (view : Location → Option (List UInt8)) : Location → Option (List UInt8) :=
  writings.foldl
    (fun view writing => Function.update view (writing.location start) (some writing.bytes)) view

variable {start : Location} {view : Location → Option (List UInt8)}

theorem applyAll_append (first second : List Writing) :
    applyAll start (first ++ second) view = applyAll start second (applyAll start first view) :=
  List.foldl_append

theorem applyAll_of_forall_ne {writings : List Writing} {location : Location}
    (elsewhere : ∀ writing ∈ writings, location ≠ writing.location start) :
    applyAll start writings view location = view location := by
  induction writings generalizing view with
  | nil => rfl
  | cons writing rest inductionHypothesis =>
      obtain ⟨notHere, notLater⟩ := List.forall_mem_cons.1 elsewhere
      exact (inductionHypothesis notLater).trans (Function.update_of_ne notHere _ _)

theorem applyAll_of_mem {writings : List Writing} {writing : Writing}
    (distinct : (writings.map (Writing.location start)).Nodup) (member : writing ∈ writings) :
    applyAll start writings view (writing.location start) = some writing.bytes := by
  obtain ⟨before, after, rfl⟩ := List.append_of_mem member
  rw [List.map_append, List.map_cons, List.nodup_append, List.nodup_cons] at distinct
  have notLater : ∀ later ∈ after, writing.location start ≠ later.location start :=
    fun later isLater same => distinct.2.1.1 (same ▸ List.mem_map_of_mem isLater)
  rw [applyAll_append]
  exact (applyAll_of_forall_ne notLater).trans (Function.update_self _ _ _)

/-- Writing what stands there already changes nothing. -/
theorem applyAll_eq_self {writings : List Writing}
    (settled : ∀ writing ∈ writings, view (writing.location start) = some writing.bytes) :
    applyAll start writings view = view := by
  induction writings with
  | nil => rfl
  | cons writing rest inductionHypothesis =>
      obtain ⟨here, later⟩ := List.forall_mem_cons.1 settled
      have same : Function.update view (writing.location start) (some writing.bytes) = view := by
        rw [← here, Function.update_eq_self]
      exact (congrArg (applyAll start rest) same).trans (inductionHypothesis later)

end Writing

/-- A tree after writings from one directory: their bytes are there, one after the other, the
directories on the way of each are there, and there are new directories only in some locations. -/
structure Progress (before : FileSystem) (start : Location) (written : List Writing)
    (mayAppear : Location → Prop) (after : FileSystem) : Prop where
  isTree : after.IsTree
  workingDirectory : after.workingDirectory = before.workingDirectory
  bytes? : after.bytes? = Writing.applyAll start written before.bytes?
  keepsDirectories : ∀ location, before.object? location = some .directory →
    after.object? location = some .directory
  newDirectories : ∀ location, after.object? location = some .directory →
    before.object? location = some .directory ∨ mayAppear location
  reached : ∀ writing ∈ written, after.HasDirectories start writing.names.dropLast

namespace Progress

variable {before between after : FileSystem} {start : Location}
  {written first second : List Writing} {mayAppear : Location → Prop}

theorem refl (tree : before.IsTree) (start : Location) (mayAppear : Location → Prop) :
    Progress before start [] mayAppear before where
  isTree := tree
  workingDirectory := rfl
  bytes? := rfl
  keepsDirectories _ isDirectory := isDirectory
  newDirectories _ isDirectory := .inl isDirectory
  reached _ none := nomatch none

theorem hasDirectories (progress : Progress before start written mayAppear after)
    {from' : Location} {names : List String} (through : before.HasDirectories from' names) :
    after.HasDirectories from' names :=
  fun location passes => progress.keepsDirectories location (through location passes)

theorem trans (earlier : Progress before start first mayAppear between)
    (later : Progress between start second mayAppear after) :
    Progress before start (first ++ second) mayAppear after where
  isTree := later.isTree
  workingDirectory := later.workingDirectory.trans earlier.workingDirectory
  bytes? := by rw [later.bytes?, earlier.bytes?, Writing.applyAll_append]
  keepsDirectories location isDirectory :=
    later.keepsDirectories location (earlier.keepsDirectories location isDirectory)
  newDirectories location isDirectory := by
    rcases later.newDirectories location isDirectory with old | appeared
    · exact earlier.newDirectories location old
    · exact .inr appeared
  reached writing member := by
    rcases List.mem_append.1 member with isFirst | isSecond
    · exact later.hasDirectories (earlier.reached writing isFirst)
    · exact later.reached writing isSecond

theorem mono {mayAppear' : Location → Prop}
    (progress : Progress before start written mayAppear after)
    (wider : ∀ location, mayAppear location → mayAppear' location) :
    Progress before start written mayAppear' after where
  isTree := progress.isTree
  workingDirectory := progress.workingDirectory
  bytes? := progress.bytes?
  keepsDirectories := progress.keepsDirectories
  newDirectories location isDirectory :=
    (progress.newDirectories location isDirectory).imp_right (wider location)
  reached := progress.reached

theorem start_eq (progress : Progress before start written mayAppear after) (path : String) :
    after.start path = before.start path :=
  FileSystem.start_congr progress.workingDirectory path

theorem place_eq (progress : Progress before start written mayAppear after) (path : String) :
    after.place path = before.place path :=
  FileSystem.place_congr progress.workingDirectory path

theorem of_isPut_directory {location : Location}
    (put : before.IsPut location .directory after) (nothing : before.object? location = none)
    (appears : mayAppear location) :
    Progress before start [] mayAppear after where
  isTree := put.isTree
  workingDirectory := put.workingDirectory
  bytes? := by
    funext wanted
    rw [FileSystem.bytes?, put.object?_eq]
    by_cases here : wanted = location
    · simp [Writing.applyAll, FileSystem.bytes?, here, nothing]
    · simp [Writing.applyAll, FileSystem.bytes?, here]
  keepsDirectories wanted isDirectory := by
    rw [put.object?_eq]
    split
    · rfl
    · exact isDirectory
  newDirectories wanted isDirectory := by
    rw [put.object?_eq] at isDirectory
    split at isDirectory
    · rename_i same
      exact .inr (same ▸ appears)
    · exact .inl isDirectory
  reached _ none := nomatch none

theorem of_isPut_file {names : List String} {bytes : List UInt8}
    (put : before.IsPut (along start names) (.file bytes) after)
    (through : before.HasDirectories start names.dropLast) :
    Progress before start [⟨names, bytes⟩] mayAppear after := by
  have keepsDirectories (location : Location)
      (isDirectory : before.object? location = some .directory) :
      after.object? location = some .directory := by
    rw [put.object?_eq, if_neg]
    · exact isDirectory
    · rintro rfl
      exact put.free isDirectory
  refine ⟨put.isTree, put.workingDirectory, ?_, keepsDirectories,
    fun location isDirectory => ?_, ?_⟩
  · funext location
    rw [FileSystem.bytes?, put.object?_eq]
    by_cases here : location = along start names
    · simp [Writing.applyAll, Writing.location, here]
    · simp [Writing.applyAll, Writing.location, here, FileSystem.bytes?]
  · rw [put.object?_eq] at isDirectory
    split at isDirectory
    · cases isDirectory
    · exact .inl isDirectory
  · intro writing member
    rw [List.mem_singleton.1 member]
    exact fun location passes => keepsDirectories location (through location passes)

end Progress

end TraefikUpgrade.Files
