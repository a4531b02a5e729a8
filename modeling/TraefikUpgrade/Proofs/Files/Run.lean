import TraefikUpgrade.Proofs.Files.Mirror

/-!
Contract: which files a whole run converts.

Owns: the law that a run whose source and target are the same or lie apart
leaves nothing but conversions of the files that were there before it, and
what a run does to a directory that its own output lies in: it comes to its
output after it has written there, and converts that once more.

Does not own: the mirroring of the source (`TraefikUpgrade.Proofs.Files.Mirror`).
-/

set_option autoImplicit false

namespace TraefikUpgrade.Walk

open Files
open Files.Path (IsEntryName Passes along)
open Files.Machine (Yields)

/-- How a run ends, and the files after it. -/
def runOn (configuration : Configuration) (files : FileSystem) (input output : String) :
    Except RunError Unit × FileSystem :=
  Machine.onFiles (run Machine.host configuration input output).run files

/-- Each file that is not as it was before the run is the conversion of the input file in its place,
with the bytes that this had before the run. -/
def ConvertsOnlyInput (configuration : Configuration) (files : FileSystem)
    (input output : String) : Prop :=
  ∀ location bytes, (runOn configuration files input output).2.bytes? location = some bytes →
    files.bytes? location = some bytes ∨
    ∃ below original, files.bytes? (files.place input ++ below) = some original ∧
      location = files.place (targetOf input output) ++ below ∧
      IsConversion configuration original bytes

section

variable {configuration : Configuration} {files : FileSystem} {input output path : String}

/-! ### Runs that lie apart -/

/-- The preparation of the output makes directories on its way, and writes no file. -/
theorem yields_prepareOutput (tree : files.IsTree) (start : Location) :
    Yields (prepareOutput Machine.host path).run files fun _ after =>
      Progress files start [] (Passes (files.start path) (Path.names path)) after := by
  have unchanged := Progress.refl tree start (Passes (files.start path) (Path.names path))
  refine yields_bind (yields_lift (.isDirectory ?_))
  cases files.isDirectory path with
  | ok isDirectory =>
      cases isDirectory with
      | true => exact yields_pure unchanged
      | false => exact yields_throw unchanged
  | error fault =>
      cases fault with
      | notFound =>
          refine yields_step ((Machine.yields_createDirectories tree).mono fun result _ made => ?_)
          cases result with
          | ok _ => exact made.progress start
          | error _ => exact made.progress start
      | _ => exact yields_throw unchanged

theorem yields_run (tree : files.IsTree)
    (apart : KeepsApart (files.place input) (files.place (targetOf input output))) :
    Yields (run Machine.host configuration input output).run files fun _ after =>
      ∃ written, written <+: plan configuration files input output ∧
        after.bytes? = Writing.applyAll (files.start output) written files.bytes? := by
  refine yields_bind ((yields_prepareOutput tree (files.start output)).mono ?_)
  intro outcome between prepared
  cases outcome with
  | error error => exact ⟨[], List.nil_prefix, prepared.bytes?⟩
  | ok _ =>
      have converts := @yields_convert configuration between input output prepared.isTree
      rw [prepared.place_eq, prepared.place_eq, prepared.start_eq,
        plan_eq_of_progress tree prepared fun _ => congrFun prepared.bytes? _] at converts
      refine (converts apart).mono fun outcome after carries => ?_
      obtain ⟨written, initial, progress⟩ := carries.progress
      exact ⟨written, initial, by rw [progress.bytes?, prepared.bytes?]; rfl⟩

/-- A run into the source itself or into a place apart from it converts only what was there before
it, whether it succeeds or not. -/
theorem run_converts_only_input (configuration : Configuration) {files : FileSystem}
    (tree : files.IsTree) {input output : String}
    (apart : KeepsApart (files.place input) (files.place (targetOf input output))) :
    ConvertsOnlyInput configuration files input output := by
  obtain ⟨written, initial, bytesAfter⟩ :=
    (@yields_run configuration files input output tree apart).onFiles
  intro location bytes stands
  rw [runOn, bytesAfter] at stands
  by_cases isWritten : ∃ writing ∈ written, location = writing.location (files.start output)
  · obtain ⟨writing, member, rfl⟩ := isWritten
    have distinct : (written.map (Writing.location (files.start output))).Nodup :=
      (nodup_location_writings configuration tree _ _ _).sublist (initial.sublist.map _)
    rw [Writing.applyAll_of_mem distinct member] at stands
    obtain ⟨file, isFile, rfl⟩ := List.mem_map.1 (initial.subset member)
    refine .inr ⟨file.location, file.bytes, tree.mem_filesBelow_iff.1 isFile, ?_,
      isConversion_iff.2 (Option.some.inj stands).symm⟩
    rw [location_writing tree isFile, place_targetOf]
  · refine .inl ?_
    rwa [Writing.applyAll_of_forall_ne fun writing member same =>
      isWritten ⟨writing, member, same⟩] at stands

theorem runOn_mixedTree :
    runOn .default (mixedTree []) "in" "out" = (.ok (), mixedTree (shopOutput
      (convertedBytes .default (Text.toUtf8 noteManifest))
      (convertedBytes .default (Text.toUtf8 shopManifest))
      (convertedBytes .default [0xFF, 0xD8]))) := by
  refine Yields.onFiles_eq (yields_bind (yields_prepareOutput_old rfl ?_))
  exact yields_shopTree .default (Text.toUtf8 noteManifest) (Text.toUtf8 shopManifest) [0xFF, 0xD8]

/-- A run into a directory that is there already, and one that converts the source in its place. -/
theorem run_converts_only_input_mixedTree :
    (mixedTree []).IsTree ∧
      LieApart ((mixedTree []).place "in") ((mixedTree []).place (targetOf "in" "out")) ∧
      ConvertsOnlyInput .default (mixedTree []) "in" "out" ∧
      (runOn .default (mixedTree []) "in" "out").2.bytes? ["out", "in", "b.yaml"] =
        some (Text.toUtf8 (Manifest.join shopDocuments)) ∧
      (mixedTree []).place "in" = (mixedTree []).place (targetOf "in" ".") ∧
      ConvertsOnlyInput .default (mixedTree []) "in" "." := by
  have tree := isTree_mixedTree.1
  have apart := lieApart_mixedTree []
  have inPlace : (mixedTree []).place "in" = (mixedTree []).place (targetOf "in" ".") := rfl
  have stands : (runOn .default (mixedTree []) "in" "out").2.bytes? ["out", "in", "b.yaml"] =
      some (Text.toUtf8 (Manifest.join shopDocuments)) := by
    rw [runOn_mixedTree, convertedBytes_shopManifest]
    rfl
  exact ⟨tree, apart, run_converts_only_input .default tree (.inr apart), stands, inPlace,
    run_converts_only_input .default tree (.inl inPlace)⟩

/-! ### A run that meets its own output -/

/-- A file in the working directory, and what has been made next to it. -/
def here (bytes : List UInt8) (made : List (Location × FileObject)) : FileSystem :=
  ⟨(["a.yaml"], .file bytes) :: made, []⟩

theorem isTree_here (bytes : List UInt8) : (here bytes []).IsTree where
  unique := by simp [here]
  placed := by
    rintro entry (_ | ⟨_, ⟨⟩⟩)
    exact ⟨[], "a.yaml", rfl, ⟨⟨by decide, by decide⟩, by decide, by decide⟩, rfl⟩
  noLink := by
    rintro entry (_ | ⟨_, ⟨⟩⟩)
    exact nofun
  workingDirectory := rfl

/-- What a run from the working directory into `./output` makes of a file there. -/
def outputHere (once twice : List UInt8) : List (Location × FileObject) :=
  [(["output"], .directory), (["output", "a.yaml"], .file once),
    (["output", "output"], .directory), (["output", "output", "a.yaml"], .file twice)]

section

variable (configuration : Configuration) (bytes once twice : List UInt8)

/-- The files of such a run when the first ones of its results are there. -/
private abbrev there (count : Nat) : FileSystem :=
  here bytes ((outputHere once twice).take count)

private theorem first_there (isOnce : once = convertedBytes configuration bytes)
    {holds : Except RunError Unit → FileSystem → Prop}
    (now : holds (.ok ()) (there bytes once twice 2)) :
    Yields (convertFile Machine.host configuration "./a.yaml" "./output").run
      (there bytes once twice 1) holds := by
  have written : (there bytes once twice 1).writeFile "./output/a.yaml"
      (convertedBytes configuration bytes) = .ok (there bytes once twice 2) := by
    rw [← isOnce]
    rfl
  exact yields_convertFile_into rfl rfl (yields_createDirectories_old rfl rfl rfl) written now

private theorem second_there (isTwice : twice = convertedBytes configuration once)
    {holds : Except RunError Unit → FileSystem → Prop}
    (now : holds (.ok ()) (there bytes once twice 4)) :
    Yields (convertFile Machine.host configuration "./output/a.yaml" "./output/output").run
      (there bytes once twice 2) holds := by
  have made : (there bytes once twice 2).createDirectory "./output/output" =
      .ok (there bytes once twice 3) := rfl
  have written : (there bytes once twice 3).writeFile "./output/output/a.yaml"
      (convertedBytes configuration once) = .ok (there bytes once twice 4) := by
    rw [← isTwice]
    rfl
  exact yields_convertFile_into rfl rfl (yields_createDirectories_new rfl made) written now

end

/-- A run from the working directory into a directory in it converts a file there, and then what it
has made of that file. -/
theorem run_converts_twice (configuration : Configuration) (bytes : List UInt8) :
    (runOn configuration (here bytes []) "." "./output").2 =
      here bytes (outputHere (convertedBytes configuration bytes)
        (convertedBytes configuration (convertedBytes configuration bytes))) := by
  generalize isOnce : convertedBytes configuration bytes = once
  generalize isTwice : convertedBytes configuration once = twice
  have made : (there bytes once twice 0).createDirectory "./output" =
      .ok (there bytes once twice 1) := rfl
  have listed : (there bytes once twice 1).readDirectory "." = .ok ["a.yaml", "output"] := rfl
  have listedLater : (there bytes once twice 2).readDirectory "./output" = .ok ["a.yaml"] := rfl
  have yields : Yields (run Machine.host configuration "." "./output").run
      (there bytes once twice 0) fun _ after => after = there bytes once twice 4 := by
    refine yields_bind (yields_prepareOutput_new rfl rfl made ?_)
    refine yields_convertTo_directory rfl listed (.refl _) (by decide +kernel) (yields_bind ?_)
    refine yields_convertTo_file rfl (first_there _ _ _ _ isOnce.symm (yields_bind ?_))
    refine yields_convertTo_directory rfl listedLater (.refl _) (by decide +kernel) (yields_bind ?_)
    refine yields_convertTo_file rfl (second_there _ _ _ _ isTwice.symm ?_)
    exact yields_pure (yields_pure rfl)
  exact yields.onFiles

/-- A run whose output lies in its input can convert a file that it has written itself. -/
theorem run_consumes_its_output :
    (here [] []).IsTree ∧ ¬ ConvertsOnlyInput .default (here [] []) "." "./output" := by
  refine ⟨isTree_here [], fun onlyInput => ?_⟩
  have stands : (runOn .default (here [] []) "." "./output").2.bytes?
      ["output", "output", "a.yaml"] =
      some (convertedBytes .default (convertedBytes .default [])) := by
    rw [run_converts_twice]
    rfl
  rcases onlyInput _ _ stands with stood | ⟨below, original, stood, located, -⟩
  · cases stood
  · have isBelow : below = ["output", "a.yaml"] := by
      have targetPlace : (here [] []).place (targetOf "." "./output") = ["output"] := by decide
      rw [targetPlace] at located
      exact (List.cons.inj located).2.symm
    rw [isBelow] at stood
    have nothing : (here [] []).bytes? ((here [] []).place "." ++ ["output", "a.yaml"]) = none := by
      decide
    cases nothing.symm.trans stood

end

end TraefikUpgrade.Walk
