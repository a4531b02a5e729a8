import TraefikUpgrade.Files.Walk
import TraefikUpgrade.Proofs.Files.DepthFirst
import TraefikUpgrade.Proofs.Files.Host
import TraefikUpgrade.Proofs.Text.Utf8Reading

/-!
Contract: what a walk does to a tree of directories and regular files.

Owns: what the bytes of a file become, the files that a walk is to write, in
depth-first order, and the invariant of every part of it: the writings that it has carried out are the
first ones of those, all of them if it has succeeded, and nothing else has
changed but directories on the way of these files. Source and target are the
same or lie apart, so that no part of the walk meets what another one wrote.

Does not own: what a text becomes (`TraefikUpgrade.Manifest.Convert`).
-/

set_option autoImplicit false

namespace TraefikUpgrade.Walk

open Files
open Files.Path (IsEntryName Passes along)
open Files.Machine (Yields)

/-! ### Steps of a run -/

section Steps

variable {α β : Type} {files : FileSystem}

theorem yields_bind {first : ExceptT RunError (StateM Machine) α}
    {next : α → ExceptT RunError (StateM Machine) β}
    {holds : Except RunError β → FileSystem → Prop}
    (steps : Yields first.run files fun outcome between =>
      match outcome with
      | .ok value => Yields (next value).run between holds
      | .error error => holds (.error error) between) :
    Yields (first >>= next).run files holds := by
  rw [ExceptT.run_bind]
  refine .bind (steps.mono fun outcome between onwards => ?_)
  cases outcome with
  | ok value => exact onwards
  | error error => exact .of_pure onwards

theorem yields_lift {computation : StateM Machine α}
    {holds : Except RunError α → FileSystem → Prop}
    (runs : Yields computation files fun value after => holds (.ok value) after) :
    Yields (ExceptT.lift computation).run files holds :=
  .bind (runs.mono fun _ _ held => .of_pure held)

theorem yields_step {action : FileAction} {path : String}
    {operation : StateM Machine (Except Fault α)}
    {holds : Except RunError α → FileSystem → Prop}
    (runs : Yields operation files fun result after =>
      match result with
      | .ok value => holds (.ok value) after
      | .error fault => holds (.error (.failed action path fault)) after) :
    Yields (step action path operation).run files holds := by
  refine .bind (runs.mono fun result after held => ?_)
  cases result with
  | ok value => exact .of_pure held
  | error fault => exact .of_pure held

theorem yields_throw {error : RunError} {holds : Except RunError α → FileSystem → Prop}
    (now : holds (.error error) files) :
    Yields (throw error : ExceptT RunError (StateM Machine) α).run files holds :=
  .of_pure now

theorem yields_pure {value : α} {holds : Except RunError α → FileSystem → Prop}
    (now : holds (.ok value) files) :
    Yields (pure value : ExceptT RunError (StateM Machine) α).run files holds :=
  .of_pure now

end Steps

/-! ### What a walk is to write -/

/-- What the bytes of a file become: those of a text become the bytes of its conversion, and bytes
that are those of no text stay as they are. -/
inductive IsConversion (configuration : Configuration) : List UInt8 → List UInt8 → Prop where
  | text (content : String) :
      IsConversion configuration (Text.toUtf8 content)
        (Text.toUtf8 (Manifest.convert configuration content).value)
  | noText {bytes : List UInt8} (isNone : ∀ content, Text.toUtf8 content ≠ bytes) :
      IsConversion configuration bytes bytes

/-- The bytes that a walk writes for those of a file. -/
def convertedBytes (configuration : Configuration) (bytes : List UInt8) : List UInt8 :=
  match Text.ofUtf8 bytes with
  | .ok content => Text.toUtf8 (Manifest.convert configuration content).value
  | .error _ => bytes

/-- The bytes of a text become those of its conversion. -/
theorem convertedBytes_toUtf8 (configuration : Configuration) (content : String) :
    convertedBytes configuration (Text.toUtf8 content) =
      Text.toUtf8 (Manifest.convert configuration content).value := by
  rw [convertedBytes, Text.ofUtf8_eq_ok_iff.2 rfl]

/-- Bytes of no text stay as they are. -/
theorem convertedBytes_eq_self {bytes : List UInt8} (configuration : Configuration)
    (noText : ∀ content, Text.toUtf8 content ≠ bytes) :
    convertedBytes configuration bytes = bytes := by
  rw [convertedBytes]
  cases read : Text.ofUtf8 bytes with
  | ok content => exact absurd (Text.ofUtf8_eq_ok_iff.1 read) (noText content)
  | error fault => rfl

theorem isConversion_convertedBytes (configuration : Configuration) (bytes : List UInt8) :
    IsConversion configuration bytes (convertedBytes configuration bytes) := by
  by_cases isText : ∃ content, Text.toUtf8 content = bytes
  · obtain ⟨content, rfl⟩ := isText
    rw [convertedBytes_toUtf8]
    exact .text content
  · have isNone : ∀ content, Text.toUtf8 content ≠ bytes := not_exists.1 isText
    rw [convertedBytes_eq_self configuration isNone]
    exact .noText isNone

/-- There is one conversion of the bytes of a file, and it is the one that a walk writes. -/
theorem isConversion_iff {configuration : Configuration} {bytes converted : List UInt8} :
    IsConversion configuration bytes converted ↔ converted = convertedBytes configuration bytes := by
  constructor
  · intro isConversion
    cases isConversion with
    | text content => exact (convertedBytes_toUtf8 configuration content).symm
    | noText isNone => exact (convertedBytes_eq_self configuration isNone).symm
  · rintro rfl
    exact isConversion_convertedBytes configuration bytes

theorem value_convertBytes (configuration : Configuration) (path : String) (bytes : List UInt8) :
    (convertBytes configuration path bytes).value = convertedBytes configuration bytes := by
  rw [convertBytes, convertedBytes]
  cases Text.ofUtf8 bytes with
  | ok content => rfl
  | error fault => rfl

/-- The file to write for one below a location, when a path with some names is to mirror the
location. -/
def writing (configuration : Configuration) (names : List String) (file : FileBelow) : Writing :=
  ⟨names ++ file.location, convertedBytes configuration file.bytes⟩

/-- The files to write for those at a location and below it. -/
def writings (configuration : Configuration) (files : FileSystem) (base : Location)
    (names : List String) : List Writing :=
  (files.filesBelow base).map (writing configuration names)

/-- A location that the path of a file to write leads through. -/
def OnWay (start : Location) (planned : List Writing) (location : Location) : Prop :=
  ∃ writing ∈ planned, Passes start writing.names.dropLast location

/-- A part of a walk has carried out the first ones of the planned writings, all of them if it has
succeeded, and has done nothing else. -/
def CarriesOut (start : Location) (planned : List Writing) (files : FileSystem)
    (outcome : Except RunError Unit) (after : FileSystem) : Prop :=
  ∃ written rest, planned = written ++ rest ∧
    Progress files start written (OnWay start planned) after ∧ (outcome = .ok () → rest = [])

section CarriesOut

variable {files between after : FileSystem} {start : Location} {planned first second : List Writing}
  {outcome : Except RunError Unit}

theorem carriesOut_none (tree : files.IsTree) (error : RunError) :
    CarriesOut start planned files (.error error) files :=
  ⟨[], planned, rfl, .refl tree start _, nofun⟩

theorem carriesOut_empty (tree : files.IsTree) : CarriesOut start [] files (.ok ()) files :=
  ⟨[], [], rfl, .refl tree start _, fun _ => rfl⟩

theorem OnWay.append_left {location : Location} (onWay : OnWay start first location) :
    OnWay start (first ++ second) location := by
  obtain ⟨writing, member, passes⟩ := onWay
  exact ⟨writing, List.mem_append_left _ member, passes⟩

theorem OnWay.append_right {location : Location} (onWay : OnWay start second location) :
    OnWay start (first ++ second) location := by
  obtain ⟨writing, member, passes⟩ := onWay
  exact ⟨writing, List.mem_append_right _ member, passes⟩

theorem CarriesOut.stopped {error : RunError}
    (carries : CarriesOut start first files (.error error) after) :
    CarriesOut start (first ++ second) files (.error error) after := by
  obtain ⟨written, rest, split, progress, -⟩ := carries
  refine ⟨written, rest ++ second, by rw [split, List.append_assoc], ?_, nofun⟩
  exact progress.mono fun _ => OnWay.append_left

theorem CarriesOut.andThen (earlier : CarriesOut start first files (.ok ()) between)
    (later : CarriesOut start second between outcome after) :
    CarriesOut start (first ++ second) files outcome after := by
  obtain ⟨writtenFirst, none, splitFirst, progressFirst, complete⟩ := earlier
  obtain ⟨writtenSecond, rest, splitSecond, progressSecond, completes⟩ := later
  obtain rfl := complete rfl
  rw [List.append_nil] at splitFirst
  refine ⟨writtenFirst ++ writtenSecond, rest, ?_, ?_, completes⟩
  · rw [splitFirst, splitSecond, List.append_assoc]
  · exact (progressFirst.mono fun _ => OnWay.append_left).trans
      (progressSecond.mono fun _ => OnWay.append_right)

theorem CarriesOut.progress (carries : CarriesOut start planned files outcome after) :
    ∃ written, written <+: planned ∧ Progress files start written (OnWay start planned) after := by
  obtain ⟨written, rest, split, progress, -⟩ := carries
  exact ⟨written, ⟨rest, split.symm⟩, progress⟩

theorem CarriesOut.progress_of_ok (carries : CarriesOut start planned files (.ok ()) after) :
    Progress files start planned (OnWay start planned) after := by
  obtain ⟨written, rest, split, progress, complete⟩ := carries
  rw [complete rfl, List.append_nil] at split
  rwa [← split] at progress

end CarriesOut

/-! ### A file -/

section

variable {files : FileSystem} {configuration : Configuration} {source target : String}

/-- Writing a file into a directory that is made for it. -/
theorem yields_writeInto (tree : files.IsTree) {name : String} (entryName : IsEntryName name)
    (bytes : List UInt8) :
    Yields (do
      step .createDirectory target (Machine.host.createDirectories target)
      step .write (Path.join target name)
        (Machine.host.writeFile (Path.join target name) bytes)).run files
      (CarriesOut (files.start target) [⟨Path.names target ++ [name], bytes⟩] files) := by
  refine yields_bind (yields_step ((Machine.yields_createDirectories tree).mono ?_))
  intro result between made
  have way : Progress files (files.start target) []
      (OnWay (files.start target) [⟨Path.names target ++ [name], bytes⟩]) between := by
    refine (made.progress _).mono fun location passes =>
      ⟨_, List.mem_singleton_self _, ?_⟩
    rwa [List.dropLast_concat]
  cases result with
  | error fault => exact ⟨[], _, rfl, way, nofun⟩
  | ok _ =>
      refine yields_step (.writeFile (fun fault _ => ?_) fun after written => ?_)
      · exact ⟨[], _, rfl, way, nofun⟩
      · have put := way.isTree.writeFile_ok written
        rw [FileSystem.place, between.start_join target entryName.toIsSegment, way.start_eq,
          Path.names_join target entryName.toIsSegment] at put
        have through : between.HasDirectories (files.start target)
            (Path.names target ++ [name]).dropLast := by
          rw [List.dropLast_concat]
          exact made.complete rfl
        exact ⟨_, [], rfl, way.trans (.of_isPut_file put through), fun _ => rfl⟩

theorem yields_convertFile (tree : files.IsTree) :
    Yields (convertFile Machine.host configuration source target).run files
      (CarriesOut (files.start target)
        (writings configuration files (files.place source) (Path.names (targetOf source target)))
        files) := by
  rw [convertFile]
  cases named : Path.fileName? source with
  | none => exact yields_throw (carriesOut_none tree _)
  | some name =>
      have entryName := Path.isEntryName_of_fileName? named
      refine yields_bind (yields_lift (.log ?_))
      refine yields_bind (yields_step (.readFile ?_))
      cases read : files.readFile source with
      | error fault => exact carriesOut_none tree _
      | ok bytes =>
          refine yields_bind (yields_lift (.logAll ?_))
          rw [value_convertBytes, writings, tree.filesBelow_file (tree.readFile_ok read), targetOf,
            named, List.map_singleton, writing, List.append_nil,
            Path.names_join target entryName.toIsSegment]
          exact yields_writeInto tree entryName _

/-! ### A directory -/

theorem mem_sortedNames {names : List String} {name : String} :
    name ∈ sortedNames names ↔ name ∈ names :=
  (List.mergeSort_perm _ _).mem_iff

theorem nodup_sortedNames {names : List String} (distinct : names.Nodup) :
    (sortedNames names).Nodup :=
  (List.mergeSort_perm _ _).nodup_iff.2 distinct

theorem pairwise_sortedNames {names : List String} (distinct : names.Nodup) :
    (sortedNames names).Pairwise Text.BytesBefore := by
  have ordered : (sortedNames names).Pairwise fun first second =>
      decide (first ≤ second) = true := by
    refine List.pairwise_mergeSort (fun first second third one other => ?_)
      (fun first second => ?_) names
    · rw [decide_eq_true_iff] at one other ⊢
      exact String.le_trans one other
    · rw [Bool.or_eq_true, decide_eq_true_iff, decide_eq_true_iff]
      exact String.le_total first second
  exact ((nodup_sortedNames distinct).and ordered).imp fun ⟨differ, atMost⟩ =>
    Text.bytesBefore_of_le (of_decide_eq_true atMost) differ

/-- Locations of which none lies inside the other one. -/
structure LieApart (source target : Location) : Prop where
  notInside : ¬ source <+: target
  notAround : ¬ target <+: source

/-- Source and target are the same or lie apart. -/
def KeepsApart (source target : Location) : Prop :=
  source = target ∨ LieApart source target

section KeepsApart

variable {sourceBase targetBase : Location}

theorem LieApart.ne (apart : LieApart sourceBase targetBase) (below belowOther : Location) :
    sourceBase ++ below ≠ targetBase ++ belowOther := by
  intro same
  have both : targetBase <+: sourceBase ++ below := ⟨belowOther, same.symm⟩
  rcases List.prefix_or_prefix_of_prefix (List.prefix_append sourceBase below) both with
    inside | around
  · exact apart.notInside inside
  · exact apart.notAround around

theorem KeepsApart.entry (apart : KeepsApart sourceBase targetBase) (name : String) :
    KeepsApart (sourceBase ++ [name]) (targetBase ++ [name]) := by
  rcases apart with same | apart
  · exact .inl (by rw [same])
  · refine .inr ⟨?_, ?_⟩
    · rintro ⟨rest, equal⟩
      rw [List.append_assoc] at equal
      exact apart.ne _ _ equal
    · rintro ⟨rest, equal⟩
      rw [List.append_assoc] at equal
      exact apart.ne _ _ equal.symm

/-- What is written for one entry of a directory is not met under another one. -/
theorem KeepsApart.ne (apart : KeepsApart sourceBase targetBase) {name other : String}
    (differ : name ≠ other) (below belowOther : Location) :
    sourceBase ++ name :: below ≠ targetBase ++ other :: belowOther := by
  rcases apart with rfl | apart
  · intro same
    exact differ (List.cons.inj (List.append_cancel_left same)).1
  · exact apart.ne _ _

end KeepsApart

theorem location_writing (tree : files.IsTree) {base start : Location} {names : List String}
    {file : FileBelow} (member : file ∈ files.filesBelow base) :
    (writing configuration names file).location start = along start names ++ file.location := by
  rw [Writing.location, writing, Path.along_append]
  exact Path.along_of_entryNames (tree.isEntryName_of_mem_filesBelow member) _

/-- What is planned for one entry of a directory stays so while another one is converted. -/
theorem writings_eq_of_progress (tree : files.IsTree) {base start : Location}
    {names otherNames : List String} {name other : String} {written : List Writing}
    {mayAppear : Location → Prop} {between : FileSystem}
    (apart : KeepsApart base (along start names)) (entryName : IsEntryName name)
    (differ : other ≠ name)
    (initial : written <+: writings configuration files (base ++ [name]) (names ++ [name]))
    (progress : Progress files start written mayAppear between) :
    writings configuration between (base ++ [other]) otherNames =
      writings configuration files (base ++ [other]) otherNames := by
  have sameBytes (location : Location) :
      between.bytes? (base ++ [other] ++ location) =
        files.bytes? (base ++ [other] ++ location) := by
    rw [progress.bytes?, Writing.applyAll_of_forall_ne]
    intro _ member
    obtain ⟨file, isFile, rfl⟩ := List.mem_map.1 (initial.subset member)
    rw [location_writing tree isFile, Path.along_append,
      Path.along_of_entryNames (by simpa using entryName)]
    simpa using apart.ne differ location file.location
  rw [writings, progress.isTree.filesBelow_congr tree sameBytes]
  rfl

theorem yields_forEach {start base : Location} {names : List String}
    {action : String → ExceptT RunError (StateM Machine) Unit} {listed : List String}
    (tree : files.IsTree) (apart : KeepsApart base (along start names))
    (distinct : listed.Nodup) (entryNames : ∀ name ∈ listed, IsEntryName name)
    (each : ∀ name ∈ listed, ∀ between : FileSystem, between.IsTree →
      between.workingDirectory = files.workingDirectory →
      Yields (action name).run between (CarriesOut start
        (writings configuration between (base ++ [name]) (names ++ [name])) between)) :
    Yields (forEach action listed).run files (CarriesOut start
      (listed.flatMap fun name => writings configuration files (base ++ [name]) (names ++ [name]))
      files) := by
  induction listed generalizing files with
  | nil => exact yields_pure (carriesOut_empty tree)
  | cons name rest inductionHypothesis =>
      obtain ⟨entryName, entryNamesOfRest⟩ := List.forall_mem_cons.1 entryNames
      obtain ⟨notInRest, distinctRest⟩ := List.nodup_cons.1 distinct
      obtain ⟨first, eachOfRest⟩ := List.forall_mem_cons.1 each
      rw [List.flatMap_cons]
      refine yields_bind ((first files tree rfl).mono fun outcome between carries => ?_)
      cases outcome with
      | error error => exact carries.stopped
      | ok _ =>
          obtain ⟨written, initial, progress⟩ := carries.progress
          have planned : (rest.flatMap fun other =>
              writings configuration between (base ++ [other]) (names ++ [other])) =
              rest.flatMap fun other =>
                writings configuration files (base ++ [other]) (names ++ [other]) := by
            refine List.flatMap_congr fun other member => ?_
            exact writings_eq_of_progress tree apart entryName
              (fun same => notInRest (same ▸ member)) initial progress
          have later := inductionHypothesis progress.isTree distinctRest entryNamesOfRest
            fun other member after isTree same =>
              eachOfRest other member after isTree (same.trans progress.workingDirectory)
          rw [planned] at later
          exact later.mono fun _ _ carriesLater => carries.andThen carriesLater

/-! ### A tree -/

theorem targetOf_join (directory target : String) {name : String} (entryName : IsEntryName name) :
    targetOf (Path.join directory name) target = Path.join target name := by
  rw [targetOf, Path.fileName?_join directory entryName]

theorem start_targetOf (files : FileSystem) (source target : String) :
    files.start (targetOf source target) = files.start target := by
  rw [targetOf]
  cases named : Path.fileName? source with
  | none => rfl
  | some name => exact files.start_join target (Path.isEntryName_of_fileName? named).toIsSegment

theorem writings_directory (tree : files.IsTree) {base : Location} {names : List String}
    (isDirectory : files.object? base = some .directory) :
    writings configuration files base names =
      (sortedNames (files.namesIn base)).flatMap fun name =>
        writings configuration files (base ++ [name]) (names ++ [name]) := by
  rw [writings, tree.filesBelow_directory isDirectory
    (pairwise_sortedNames (tree.nodup_namesIn base)) fun _ => mem_sortedNames, List.map_flatMap]
  refine List.flatMap_congr fun name _ => ?_
  rw [writings, List.map_map]
  refine List.map_congr_left fun file _ => ?_
  simp [writing]

theorem yields_convertTo (tree : files.IsTree) (depth : Nat)
    (apart : KeepsApart (files.place source) (files.place (targetOf source target))) :
    Yields (convertTo Machine.host configuration depth source target).run files
      (CarriesOut (files.start target)
        (writings configuration files (files.place source) (Path.names (targetOf source target)))
        files) := by
  induction depth generalizing files source target with
  | zero => exact yields_throw (carriesOut_none tree _)
  | succ depth inductionHypothesis =>
      rw [convertTo]
      refine yields_bind (yields_step (.isDirectory ?_))
      cases files.isDirectory source with
      | error fault => exact carriesOut_none tree _
      | ok isDirectory =>
          cases isDirectory with
          | false => exact yields_convertFile tree
          | true =>
              refine yields_bind (yields_step (.readDirectory ?_))
              cases read : files.readDirectory source with
              | error fault => exact carriesOut_none tree _
              | ok listed =>
                  obtain ⟨stands, rfl⟩ := tree.readDirectory_ok read
                  rw [writings_directory tree stands]
                  have targetPlace : files.place (targetOf source target) =
                      along (files.start target) (Path.names (targetOf source target)) := by
                    rw [FileSystem.place, start_targetOf]
                  refine yields_forEach tree (targetPlace ▸ apart)
                    (nodup_sortedNames (tree.nodup_namesIn _))
                    (fun name member => tree.isEntryName_of_mem_namesIn (mem_sortedNames.1 member))
                    fun name member between isTree same => ?_
                  have entryName := tree.isEntryName_of_mem_namesIn (mem_sortedNames.1 member)
                  have converted := @inductionHypothesis between (Path.join source name)
                    (targetOf source target) isTree
                  rw [targetOf_join source _ entryName, between.place_join source entryName,
                    between.place_join _ entryName, FileSystem.place_congr same,
                    FileSystem.place_congr same, FileSystem.start_congr same, start_targetOf,
                    Path.names_join _ entryName.toIsSegment] at converted
                  exact converted (apart.entry name)

end

end TraefikUpgrade.Walk
