import TraefikUpgrade.Proofs.Files.FileSystem

/-!
Contract: what an operation on a tree does when it succeeds.

Owns: where paths lead in a tree, what reading says about the place that a path
spells, and what making a directory and writing a file put there.

Does not own: which faults stop an operation that fails; such an operation
changes nothing.
-/

set_option autoImplicit false

namespace TraefikUpgrade.Files.FileSystem

open Files.Path (IsSegment IsEntryName Passes along enter)

/-- A sequence of steps succeeds only if its first step does. -/
theorem exists_ok_of_bind_eq_ok {α β : Type} {first : Except Fault α} {next : α → Except Fault β}
    {result : β} (succeeded : first >>= next = .ok result) :
    ∃ value, first = .ok value ∧ next value = .ok result := by
  cases first with
  | error fault => cases succeeded
  | ok value => exact ⟨value, rfl, succeeded⟩

/-- The location that a path spells. -/
def place (files : FileSystem) (path : String) : Location :=
  along (files.start path) (Path.names path)

/-- Where a path leads from depends on the working directory alone. -/
theorem start_congr {files other : FileSystem}
    (same : other.workingDirectory = files.workingDirectory) (path : String) :
    other.start path = files.start path := by
  rw [start, start, same]

theorem place_congr {files other : FileSystem}
    (same : other.workingDirectory = files.workingDirectory) (path : String) :
    other.place path = files.place path := by
  rw [place, place, start_congr same]

theorem start_join (files : FileSystem) (directory : String) {name : String}
    (segment : IsSegment name) :
    files.start (Path.join directory name) = files.start directory := by
  rw [start, start, Path.isAbsolute_join directory segment]

theorem place_join (files : FileSystem) (directory : String) {name : String}
    (entryName : IsEntryName name) :
    files.place (Path.join directory name) = files.place directory ++ [name] := by
  rw [place, place, files.start_join directory entryName.toIsSegment,
    Path.names_join directory entryName.toIsSegment, Path.along_append]
  exact entryName.enter_eq _

/-- There are directories everywhere where names lead through. -/
def HasDirectories (files : FileSystem) (start : Location) (names : List String) : Prop :=
  ∀ location, Passes start names location → files.object? location = some .directory

/-- Names lead through directories to what stands where they spell. Where nothing stands, the last
of them can be the name of a new entry. -/
inductive Reaches (files : FileSystem) (start : Location) (names : List String) :
    Destination → Prop where
  | present {location : Location} {object : FileObject}
      (spelled : location = along start names)
      (through : files.HasDirectories start names.dropLast)
      (stands : files.object? location = some object) :
      Reaches files start names (.present location)
  | absent {location : Location} {before : List String} {name : String}
      (spelled : location = along start names)
      (through : files.HasDirectories start names.dropLast)
      (last : names = before ++ [name]) (entryName : IsEntryName name)
      (nothing : files.object? location = none) : Reaches files start names (.absent location)

/-- A change that puts an object at a location where no directory stands. -/
structure IsPut (files : FileSystem) (location : Location) (object : FileObject)
    (after : FileSystem) : Prop where
  isTree : after.IsTree
  free : files.object? location ≠ some .directory
  workingDirectory : after.workingDirectory = files.workingDirectory
  object?_eq : ∀ wanted, after.object? wanted =
    if wanted = location then some object else files.object? wanted

variable {files : FileSystem} {start : Location}

theorem hasDirectories_nil (isDirectory : files.object? start = some .directory) :
    files.HasDirectories start [] := by
  rintro location ⟨passed, initial, rfl⟩
  rw [List.prefix_nil.1 initial]
  exact isDirectory

theorem HasDirectories.cons {name : String} {rest : List String}
    (isDirectory : files.object? start = some .directory)
    (through : files.HasDirectories (enter start name) rest.dropLast) :
    files.HasDirectories start (name :: rest).dropLast := by
  rintro location ⟨passed, initial, rfl⟩
  cases rest with
  | nil =>
      obtain rfl := List.prefix_nil.1 initial
      exact isDirectory
  | cons next others =>
      cases passed with
      | nil => exact isDirectory
      | cons first later =>
          obtain ⟨rfl, initialLater⟩ := List.cons_prefix_cons.1 initial
          exact through _ ⟨later, initialLater, rfl⟩

theorem HasDirectories.of_dropLast {names : List String}
    (through : files.HasDirectories start names.dropLast)
    (isDirectory : files.object? (along start names) = some .directory) :
    files.HasDirectories start names := by
  rintro location ⟨passed, initial, rfl⟩
  rcases List.eq_nil_or_concat names with rfl | ⟨before, last, rfl⟩
  · rw [List.prefix_nil.1 initial]
    exact isDirectory
  · rw [List.concat_eq_append] at through initial isDirectory
    rw [List.dropLast_concat] at through
    rcases List.prefix_concat_iff.1 initial with rfl | begins
    · exact isDirectory
    · exact through _ ⟨passed, begins, rfl⟩

theorem HasDirectories.of_prefix {first second : List String}
    (through : files.HasDirectories start second) (begins : first <+: second) :
    files.HasDirectories start first :=
  fun location passes => through location (passes.of_prefix begins)

theorem Reaches.cons {name : String} {rest : List String} {destination : Destination}
    (isDirectory : files.object? start = some .directory)
    (reaches : files.Reaches (enter start name) rest destination) :
    files.Reaches start (name :: rest) destination := by
  cases reaches with
  | present spelled through stands => exact .present spelled (through.cons isDirectory) stands
  | @absent _ before _ spelled through last entryName nothing =>
      have lastOfAll : name :: rest = (name :: before) ++ [_] := congrArg (name :: ·) last
      exact .absent spelled (through.cons isDirectory) lastOfAll entryName nothing

/-- A name for the directory itself is no name of an entry. -/
theorem Reaches.of_concat_current {names : List String} {destination : Destination}
    (reaches : files.Reaches start (names ++ [Path.current]) destination) :
    files.Reaches start names destination := by
  cases reaches with
  | present spelled through stands =>
      rw [List.dropLast_concat] at through
      refine .present ?_ (through.of_prefix (List.dropLast_prefix _)) stands
      rw [spelled, Path.along_append]
      rfl
  | absent _ _ last entryName _ =>
      exact absurd (List.append_singleton_inj.1 last).2.symm entryName.notCurrent

namespace IsTree

theorem reaches_of_advance (tree : files.IsTree) {followsLast : Bool} {names : List String}
    {advance : Advance} (isDirectory : files.object? start = some .directory)
    (segments : ∀ name ∈ names, IsSegment name)
    (advanced : files.advance followsLast start names = .ok advance) :
    ∃ destination, advance = .arrived destination ∧ files.Reaches start names destination := by
  induction names generalizing start with
  | nil =>
      exact ⟨_, (Except.ok.inj advanced).symm,
        .present rfl (hasDirectories_nil isDirectory) isDirectory⟩
  | cons name rest inductionHypothesis =>
      obtain ⟨segment, segmentsOfRest⟩ := List.forall_mem_cons.1 segments
      have later {directory : Location} (entered : enter start name = directory)
          (isEntered : files.object? directory = some .directory)
          (goesOn : files.advance followsLast directory rest = .ok advance) :
          ∃ destination, advance = .arrived destination ∧
            files.Reaches start (name :: rest) destination := by
        obtain ⟨destination, arrived, reaches⟩ :=
          inductionHypothesis isEntered segmentsOfRest goesOn
        exact ⟨destination, arrived, (entered ▸ reaches).cons isDirectory⟩
      rw [FileSystem.advance] at advanced
      split at advanced
      · rename_i isCurrent
        exact later (if_pos isCurrent) isDirectory advanced
      split at advanced
      · rename_i notCurrent isParent
        exact later (by rw [enter, if_neg notCurrent, if_pos isParent])
          (tree.object?_dropLast isDirectory) advanced
      split at advanced
      · cases advanced
      rename_i notCurrent notParent _
      have entryName : IsEntryName name := ⟨segment, notCurrent, notParent⟩
      have entered := entryName.enter_eq start
      dsimp only at advanced
      cases stands : files.object? (start ++ [name]) with
      | none =>
          rw [stands] at advanced
          dsimp only at advanced
          split at advanced
          · rename_i isLast
            obtain rfl := List.isEmpty_iff.1 isLast
            exact ⟨_, (Except.ok.inj advanced).symm, .absent entered.symm
              (hasDirectories_nil isDirectory) (List.nil_append _).symm entryName stands⟩
          · cases advanced
      | some object =>
          rw [stands] at advanced
          cases object with
          | directory => exact later entered stands advanced
          | file bytes =>
              dsimp only at advanced
              split at advanced
              · rename_i isLast
                obtain rfl := List.isEmpty_iff.1 isLast
                exact ⟨_, (Except.ok.inj advanced).symm, .present entered.symm
                  (hasDirectories_nil isDirectory) stands⟩
              · cases advanced
          | link target => exact absurd stands (tree.object?_ne_link _ target)

theorem reaches_of_follow (tree : files.IsTree) {followsLast : Bool} {links : Nat}
    {names : List String} {destination : Destination}
    (isDirectory : files.object? start = some .directory)
    (segments : ∀ name ∈ names, IsSegment name)
    (followed : files.follow followsLast links start names = .ok destination) :
    files.Reaches start names destination := by
  cases links with
  | zero => cases followed
  | succ links =>
      rw [FileSystem.follow] at followed
      cases advanced : files.advance followsLast start names with
      | error fault =>
          rw [advanced] at followed
          cases followed
      | ok advance =>
          obtain ⟨reached, rfl, reaches⟩ := tree.reaches_of_advance isDirectory segments advanced
          rw [advanced] at followed
          rw [← Except.ok.inj followed]
          exact reaches

theorem object?_start (tree : files.IsTree) (path : String) :
    files.object? (files.start path) = some .directory := by
  rw [FileSystem.start]
  split
  · rfl
  · exact tree.workingDirectory

theorem reaches_of_resolve (tree : files.IsTree) {followsLast : Bool} {path : String}
    {destination : Destination} (resolved : files.resolve followsLast path = .ok destination) :
    files.Reaches (files.start path) (Path.names path) destination := by
  have segments : ∀ name ∈ Path.names path, IsSegment name := fun _ =>
    Path.isSegment_of_mem_names
  obtain ⟨_, -, followed⟩ := exists_ok_of_bind_eq_ok resolved
  rw [pathNames] at followed
  split at followed
  · have withCurrent : ∀ name ∈ Path.names path ++ [Path.current], IsSegment name := by
      simpa [or_imp, forall_and] using ⟨segments, ⟨by decide, by decide⟩⟩
    exact (tree.reaches_of_follow (tree.object?_start path) withCurrent followed).of_concat_current
  · rw [List.append_nil] at followed
    exact tree.reaches_of_follow (tree.object?_start path) segments followed

/-! ### Reading -/

theorem find_ok (tree : files.IsTree) {path : String} {location : Location} {object : FileObject}
    (found : files.find path = .ok (location, object)) :
    files.object? (files.place path) = some object ∧ location = files.place path ∧
      files.HasDirectories (files.start path) (Path.names path).dropLast := by
  obtain ⟨destination, resolved, there⟩ := exists_ok_of_bind_eq_ok found
  cases tree.reaches_of_resolve resolved with
  | absent _ _ _ _ _ => cases there
  | @present reached _ spelled through stands =>
      dsimp only at there
      rw [stands] at there
      obtain ⟨rfl, rfl⟩ := Prod.mk.inj (Except.ok.inj there)
      rw [spelled] at stands
      exact ⟨stands, spelled, through⟩

theorem isDirectory_ok_true (tree : files.IsTree) {path : String}
    (answered : files.isDirectory path = .ok true) :
    files.HasDirectories (files.start path) (Path.names path) := by
  obtain ⟨⟨location, object⟩, found, answer⟩ := exists_ok_of_bind_eq_ok answered
  obtain ⟨stands, -, through⟩ := tree.find_ok found
  have isDirectory : object = .directory := by simpa using Except.ok.inj answer
  rw [isDirectory] at stands
  exact through.of_dropLast stands

theorem readFile_ok (tree : files.IsTree) {path : String} {bytes : List UInt8}
    (read : files.readFile path = .ok bytes) : files.bytes? (files.place path) = some bytes := by
  obtain ⟨⟨location, object⟩, found, answer⟩ := exists_ok_of_bind_eq_ok read
  obtain ⟨stands, -, -⟩ := tree.find_ok found
  cases object with
  | file bytes' =>
      obtain rfl := Except.ok.inj answer
      exact bytes?_eq_some_iff.2 stands
  | link target => cases answer
  | directory => cases answer

theorem readDirectory_ok (tree : files.IsTree) {path : String} {listed : List String}
    (read : files.readDirectory path = .ok listed) :
    files.object? (files.place path) = some .directory ∧
      listed = files.namesIn (files.place path) := by
  obtain ⟨⟨location, object⟩, found, answer⟩ := exists_ok_of_bind_eq_ok read
  obtain ⟨stands, rfl, -⟩ := tree.find_ok found
  cases object with
  | file bytes => cases answer
  | link target => cases answer
  | directory => exact ⟨stands, (Except.ok.inj answer).symm⟩

/-! ### Changing -/

theorem isPut (tree : files.IsTree) {directory : Location} {name : String} {object : FileObject}
    (isDirectory : files.object? directory = some .directory) (entryName : IsEntryName name)
    (noLink : ∀ target, object ≠ .link target)
    (free : files.object? (directory ++ [name]) ≠ some .directory) :
    files.IsPut (directory ++ [name]) object (files.put (directory ++ [name]) object) where
  isTree := tree.put isDirectory entryName noLink free
  free := free
  workingDirectory := rfl
  object?_eq := object?_put files (by simp) object

theorem isPut_of_absent (tree : files.IsTree) {names : List String} {location : Location}
    {object : FileObject} (noLink : ∀ target, object ≠ .link target)
    (reaches : files.Reaches start names (.absent location)) :
    files.IsPut location object (files.put location object) := by
  cases reaches with
  | @absent _ before name spelled through last entryName nothing =>
      have isEntry : location = along start before ++ [name] := by
        rw [spelled, last, Path.along_append]
        exact entryName.enter_eq _
      rw [last, List.dropLast_concat] at through
      rw [isEntry] at nothing ⊢
      exact tree.isPut (through _ ⟨before, List.prefix_rfl, rfl⟩) entryName noLink
        (by simp [nothing])

theorem createDirectory_ok (tree : files.IsTree) {path : String} {after : FileSystem}
    (created : files.createDirectory path = .ok after) :
    files.IsPut (files.place path) .directory after ∧
      files.object? (files.place path) = none ∧
      files.HasDirectories (files.start path) (Path.names path).dropLast := by
  obtain ⟨_, -, made⟩ := exists_ok_of_bind_eq_ok created
  obtain ⟨destination, followed, put⟩ := exists_ok_of_bind_eq_ok made
  have reaches := tree.reaches_of_follow (tree.object?_start path)
    (fun _ => Path.isSegment_of_mem_names) followed
  cases destination with
  | present location => cases put
  | absent location =>
      rw [← Except.ok.inj put]
      have change : files.IsPut location .directory (files.put location .directory) :=
        tree.isPut_of_absent (by simp) reaches
      cases reaches with
      | absent spelled through _ _ nothing =>
          rw [← show location = files.place path from spelled]
          exact ⟨change, nothing, through⟩

theorem writeFile_ok (tree : files.IsTree) {path : String} {bytes : List UInt8}
    {after : FileSystem} (written : files.writeFile path bytes = .ok after) :
    files.IsPut (files.place path) (.file bytes) after := by
  rw [writeFile] at written
  split at written
  · obtain ⟨_, -, impossible⟩ := exists_ok_of_bind_eq_ok written
    cases impossible
  · obtain ⟨destination, resolved, put⟩ := exists_ok_of_bind_eq_ok written
    have reaches := tree.reaches_of_resolve resolved
    cases destination with
    | absent location =>
        rw [← Except.ok.inj put]
        have change : files.IsPut location (.file bytes) (files.put location (.file bytes)) :=
          tree.isPut_of_absent (by simp) reaches
        cases reaches with
        | absent spelled _ _ _ _ =>
            rw [← show location = files.place path from spelled]
            exact change
    | present location =>
        cases reaches with
        | @present _ object spelled _ stands =>
            dsimp only at put
            rw [stands] at put
            cases object with
            | link target => cases put
            | directory => cases put
            | file before =>
                rw [← Except.ok.inj put, ← show location = files.place path from spelled]
                have below : location ≠ [] := by
                  rintro rfl
                  cases stands
                obtain ⟨directory, name, rfl, entryName, isDirectory⟩ :=
                  tree.exists_name stands below
                exact tree.isPut isDirectory entryName (by simp) (by simp [stands])

end IsTree

end TraefikUpgrade.Files.FileSystem
