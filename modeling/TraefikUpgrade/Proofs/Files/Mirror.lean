import TraefikUpgrade.Proofs.Files.Execution
import TraefikUpgrade.Proofs.Manifest.Block

/-!
Contract: the tree that a conversion leaves behind.

Owns: the mirroring of a tree under a target that lies apart from it: what
stands where after a conversion that succeeds, that another one changes
nothing, and that one that fails has converted the first files of the
depth-first order and has touched no other file.

Does not own: targets inside or around the source (`TraefikUpgrade.Proofs.Files.Run`).
-/

set_option autoImplicit false

namespace TraefikUpgrade.Walk

open Files
open Files.Path (IsEntryName Passes along)
open Files.Machine (Yields)

/-- How a conversion ends, and the files after it. -/
def convertOn (configuration : Configuration) (files : FileSystem) (source target : String) :
    Except RunError Unit × FileSystem :=
  Machine.onFiles (convert Machine.host configuration source target).run files

/-- The first files below one location, in depth-first order, have their converted form at the same
places below another one, and no other file has changed. -/
structure ConvertsFirst (configuration : Configuration) (files : FileSystem)
    (source target : Location) (count : Nat) (after : FileSystem) : Prop where
  converted : ∀ file ∈ (files.filesBelow source).take count,
    ∃ converted, IsConversion configuration file.bytes converted ∧
      after.bytes? (target ++ file.location) = some converted
  unchanged : ∀ location,
    (∀ file ∈ (files.filesBelow source).take count, location ≠ target ++ file.location) →
      after.bytes? location = files.bytes? location

/-- What a conversion leaves that succeeds. -/
structure IsMirrored (configuration : Configuration) (files : FileSystem) (source target : String)
    (after : FileSystem) : Prop where
  /-- Each file below the source has its converted form at the same place below the target. -/
  mirrored : ∀ below bytes, files.bytes? (files.place source ++ below) = some bytes →
    ∃ converted, IsConversion configuration bytes converted ∧
      after.bytes? (files.place (targetOf source target) ++ below) = some converted
  /-- No other file has changed. -/
  unchanged : ∀ location,
    (∀ below bytes, files.bytes? (files.place source ++ below) = some bytes →
      location ≠ files.place (targetOf source target) ++ below) →
    after.bytes? location = files.bytes? location
  sourceKept : ∀ below,
    after.bytes? (files.place source ++ below) = files.bytes? (files.place source ++ below)
  directoriesKept : ∀ location, files.object? location = some .directory →
    after.object? location = some .directory
  /-- New directories are only there where the path of a converted file leads through. -/
  newDirectories : ∀ location, after.object? location = some .directory →
    files.object? location = some .directory ∨
    ∃ below bytes, files.bytes? (files.place source ++ below) = some bytes ∧
      Passes (files.start target) (Path.names (targetOf source target) ++ below).dropLast location
  /-- Another conversion changes nothing. -/
  repeatable : ∀ location,
    (convertOn configuration after source target).2.object? location = after.object? location

section

variable {configuration : Configuration} {files after : FileSystem} {source target : String}
  {outcome : Except RunError Unit}

theorem nodup_location_writings (configuration : Configuration) (tree : files.IsTree)
    (base start : Location) (names : List String) :
    ((writings configuration files base names).map (Writing.location start)).Nodup := by
  rw [writings, List.map_map]
  refine List.pairwise_map.2 ((tree.pairwise_filesBelow base).imp_of_mem ?_)
  intro first second isFirst isSecond before same
  dsimp only [Function.comp] at same
  rw [location_writing tree isFirst, location_writing tree isSecond] at same
  exact before.ne (List.append_cancel_left same)

/-- What the writings that have been carried out mean for the files below a location. -/
theorem CarriesOut.convertsFirst {start base : Location} {names : List String}
    (tree : files.IsTree)
    (carries : CarriesOut start (writings configuration files base names) files outcome after) :
    ∃ count ≤ (files.filesBelow base).length,
      ConvertsFirst configuration files base (along start names) count after ∧
      (outcome = .ok () → count = (files.filesBelow base).length) := by
  obtain ⟨written, rest, split, progress, complete⟩ := carries
  have first : written =
      ((files.filesBelow base).take written.length).map (writing configuration names) := by
    rw [List.map_take]
    exact (List.take_left' rfl).symm.trans (congrArg _ split.symm)
  have distinct : (written.map (Writing.location start)).Nodup := by
    have all := nodup_location_writings configuration tree base start names
    rw [split, List.map_append] at all
    exact all.of_append_left
  have lengths := congrArg List.length split
  rw [writings, List.length_map, List.length_append] at lengths
  have isFile {file : FileBelow} (member : file ∈ (files.filesBelow base).take written.length) :=
    List.mem_of_mem_take member
  refine ⟨written.length, by omega, ⟨fun file member => ?_, fun location elsewhere => ?_⟩,
    fun succeeded => ?_⟩
  · refine ⟨_, isConversion_convertedBytes configuration file.bytes, ?_⟩
    rw [progress.bytes?, ← location_writing tree (isFile member)]
    refine Writing.applyAll_of_mem distinct ?_
    rw [first]
    exact List.mem_map_of_mem member
  · rw [progress.bytes?, Writing.applyAll_of_forall_ne]
    intro _ isWritten
    rw [first] at isWritten
    obtain ⟨file, member, rfl⟩ := List.mem_map.1 isWritten
    rw [location_writing tree (isFile member)]
    exact elsewhere file member
  · rw [complete succeeded] at lengths
    exact lengths.symm

theorem place_targetOf (files : FileSystem) (source target : String) :
    files.place (targetOf source target) =
      along (files.start target) (Path.names (targetOf source target)) := by
  rw [FileSystem.place, start_targetOf]

/-- What a conversion is to write: the files below the source, to mirror it below the target. -/
abbrev plan (configuration : Configuration) (files : FileSystem) (source target : String) :
    List Writing :=
  writings configuration files (files.place source) (Path.names (targetOf source target))

theorem plan_eq_of_progress {start : Location} {written : List Writing}
    {mayAppear : Location → Prop} (tree : files.IsTree)
    (progress : Progress files start written mayAppear after)
    (kept : ∀ below,
      after.bytes? (files.place source ++ below) = files.bytes? (files.place source ++ below)) :
    plan configuration after source target = plan configuration files source target := by
  rw [plan, writings, progress.place_eq, progress.isTree.filesBelow_congr tree kept]
  rfl

theorem yields_convert (tree : files.IsTree)
    (apart : KeepsApart (files.place source) (files.place (targetOf source target))) :
    Yields (convert Machine.host configuration source target).run files
      (CarriesOut (files.start target) (plan configuration files source target) files) :=
  yields_convertTo tree _ apart

/-- All that was to be written is there after a conversion that succeeds. -/
theorem CarriesOut.convertsAll (tree : files.IsTree)
    (carries : CarriesOut (files.start target) (plan configuration files source target) files
      (.ok ()) after) :
    ConvertsFirst configuration files (files.place source) (files.place (targetOf source target))
      (files.filesBelow (files.place source)).length after := by
  obtain ⟨count, -, converts, all⟩ := carries.convertsFirst tree
  rw [← place_targetOf, all rfl] at converts
  exact converts

theorem CarriesOut.bytes?_mirrored (tree : files.IsTree)
    (carries : CarriesOut (files.start target) (plan configuration files source target) files
      (.ok ()) after) {below : Location} {bytes : List UInt8}
    (stood : files.bytes? (files.place source ++ below) = some bytes) :
    ∃ converted, IsConversion configuration bytes converted ∧
      after.bytes? (files.place (targetOf source target) ++ below) = some converted := by
  have member : ⟨below, bytes⟩ ∈ files.filesBelow (files.place source) :=
    tree.mem_filesBelow_iff.2 stood
  exact (carries.convertsAll tree).converted ⟨below, bytes⟩ (by rwa [List.take_length])

theorem CarriesOut.bytes?_unchanged (tree : files.IsTree)
    (carries : CarriesOut (files.start target) (plan configuration files source target) files
      (.ok ()) after) {location : Location}
    (elsewhere : ∀ below bytes, files.bytes? (files.place source ++ below) = some bytes →
      location ≠ files.place (targetOf source target) ++ below) :
    after.bytes? location = files.bytes? location := by
  refine (carries.convertsAll tree).unchanged location fun file member => ?_
  rw [List.take_length] at member
  exact elsewhere file.location file.bytes (tree.mem_filesBelow_iff.1 member)

/-- A conversion whose writings have all been carried out leaves nothing to do for another one. -/
theorem object?_convertOn (tree : files.IsTree)
    (apart : LieApart (files.place source) (files.place (targetOf source target)))
    (carries : CarriesOut (files.start target) (plan configuration files source target) files
      (.ok ()) after) (location : Location) :
    (convertOn configuration after source target).2.object? location = after.object? location := by
  have progress := carries.progress_of_ok
  have again := @yields_convert configuration after source target progress.isTree
  rw [progress.place_eq, progress.place_eq, progress.start_eq,
    plan_eq_of_progress tree progress fun below =>
      carries.bytes?_unchanged tree fun other _ _ => apart.ne below other] at again
  obtain ⟨written, initial, progressAgain⟩ := (again (.inr apart)).onFiles.progress
  have settled : ∀ writing ∈ written,
      after.bytes? (writing.location (files.start target)) = some writing.bytes := by
    intro _ isWritten
    obtain ⟨file, member, rfl⟩ := List.mem_map.1 (initial.subset isWritten)
    rw [location_writing tree member, ← place_targetOf]
    obtain ⟨converted, isConversion, stands⟩ :=
      carries.bytes?_mirrored tree (tree.mem_filesBelow_iff.1 member)
    rw [stands, isConversion_iff.1 isConversion]
    rfl
  refine progressAgain.isTree.object?_congr progress.isTree ?_ ⟨fun isDirectory => ?_,
    progressAgain.keepsDirectories location⟩
  · rw [progressAgain.bytes?, Writing.applyAll_eq_self settled]
  · rcases progressAgain.newDirectories location isDirectory with old | ⟨writing, member, passes⟩
    · exact old
    · exact progress.reached writing member location passes

theorem CarriesOut.isMirrored (tree : files.IsTree)
    (apart : LieApart (files.place source) (files.place (targetOf source target)))
    (carries : CarriesOut (files.start target) (plan configuration files source target) files
      (.ok ()) after) : IsMirrored configuration files source target after where
  mirrored _ _ stood := carries.bytes?_mirrored tree stood
  unchanged _ elsewhere := carries.bytes?_unchanged tree elsewhere
  sourceKept below := carries.bytes?_unchanged tree fun other _ _ => apart.ne below other
  directoriesKept := carries.progress_of_ok.keepsDirectories
  newDirectories location isDirectory := by
    refine (carries.progress_of_ok.newDirectories location isDirectory).imp_right ?_
    rintro ⟨_, isPlanned, passes⟩
    obtain ⟨file, member, rfl⟩ := List.mem_map.1 isPlanned
    exact ⟨file.location, file.bytes, tree.mem_filesBelow_iff.1 member, passes⟩
  repeatable := object?_convertOn tree apart carries

/-- A conversion into a place apart from the source mirrors the source if it succeeds. If it fails,
it has converted the first files in depth-first order and has changed no other file. -/
theorem conversion_mirrors_tree (configuration : Configuration) {files : FileSystem}
    (tree : files.IsTree) {source target : String}
    (apart : LieApart (files.place source) (files.place (targetOf source target))) :
    match convertOn configuration files source target with
    | (.ok _, after) => IsMirrored configuration files source target after
    | (.error _, after) => ∃ count ≤ (files.filesBelow (files.place source)).length,
        ConvertsFirst configuration files (files.place source)
          (files.place (targetOf source target)) count after := by
  have carries := (@yields_convert configuration files source target tree (.inr apart)).onFiles
  rw [← convertOn] at carries
  generalize convertOn configuration files source target = result at carries ⊢
  cases result with
  | mk outcome after =>
      cases outcome with
      | ok _ => exact carries.isMirrored tree apart
      | error error =>
          obtain ⟨count, atMost, converts, -⟩ := carries.convertsFirst tree
          rw [← place_targetOf] at converts
          exact ⟨count, atMost, converts⟩

end

/-! ### A tree with an Ingress -/

section

variable (configuration : Configuration) (note shop photo : List UInt8)

/-- Files in a directory and in one below it, the directory for the output, and what else there is.
In depth-first order the file in the lower directory comes first, although its path does not. -/
def shopTree (others : List (Location × FileObject)) : FileSystem where
  objects :=
    [(["in"], .directory), (["in", "photo"], .file photo), (["in", "b.yaml"], .file shop),
      (["in", "b"], .directory), (["in", "b", "note.yaml"], .file note), (["out"], .directory),
      (["out", "in"], .directory)] ++ others
  workingDirectory := []

/-- What a conversion makes of the files in such a tree, in order. -/
def shopOutput (note shop photo : List UInt8) : List (Location × FileObject) :=
  [(["out", "in", "b"], .directory), (["out", "in", "b", "note.yaml"], .file note),
    (["out", "in", "b.yaml"], .file shop), (["out", "in", "photo"], .file photo)]

/-- A directory that stands where the second file is to be written. -/
def blockingDirectory : List (Location × FileObject) :=
  [(["out", "in", "b.yaml"], .directory)]

/-- The names in the directory, in the order in which they are taken. -/
theorem shopNames_ordered : ["b", "b.yaml", "photo"].Perm ["photo", "b.yaml", "b"] ∧
    ["b", "b.yaml", "photo"].Pairwise Text.BytesBefore := by
  decide +kernel

/-- The walk comes to the lower directory first, and then to the other files. -/
theorem yields_shopTree_lower {others made written : List (Location × FileObject)}
    {holds : Except RunError Unit → FileSystem → Prop}
    (names : (shopTree note shop photo others).readDirectory "in" = .ok ["photo", "b.yaml", "b"])
    (lowerNames : (shopTree note shop photo others).readDirectory "in/b" = .ok ["note.yaml"])
    (makes : (shopTree note shop photo others).createDirectory "out/in/b" =
      .ok (shopTree note shop photo made))
    (writes : (shopTree note shop photo made).writeFile "out/in/b/note.yaml"
      (convertedBytes configuration note) = .ok (shopTree note shop photo written))
    (rest : Yields (forEach (fun name => convertTo Machine.host configuration
      Path.greatestPathLength (Path.join "in" name) "out/in") ["b.yaml", "photo"]).run
      (shopTree note shop photo written) holds) :
    Yields (convert Machine.host configuration "in" "out").run
      (shopTree note shop photo others) holds := by
  refine yields_convertTo_directory rfl names shopNames_ordered.1 shopNames_ordered.2
    (yields_bind ?_)
  refine yields_convertTo_directory rfl lowerNames (.refl _) (by decide +kernel) (yields_bind ?_)
  exact yields_convertTo_file rfl (yields_convertFile_into rfl rfl
    (yields_createDirectories_new rfl makes) writes (yields_pure rest))

theorem yields_shopTree :
    Yields (convert Machine.host configuration "in" "out").run (shopTree note shop photo [])
      fun outcome after => outcome = .ok () ∧
        after = shopTree note shop photo (shopOutput (convertedBytes configuration note)
          (convertedBytes configuration shop) (convertedBytes configuration photo)) := by
  generalize isNote : convertedBytes configuration note = newNote
  generalize isShop : convertedBytes configuration shop = newShop
  generalize isPhoto : convertedBytes configuration photo = newPhoto
  let there (count : Nat) :=
    shopTree note shop photo ((shopOutput newNote newShop newPhoto).take count)
  have noteWritten : (there 1).writeFile "out/in/b/note.yaml"
      (convertedBytes configuration note) = .ok (there 2) := by
    rw [isNote]
    rfl
  have shopWritten : (there 2).writeFile "out/in/b.yaml"
      (convertedBytes configuration shop) = .ok (there 3) := by
    rw [isShop]
    rfl
  have photoWritten : (there 3).writeFile "out/in/photo"
      (convertedBytes configuration photo) = .ok (there 4) := by
    rw [isPhoto]
    rfl
  refine yields_shopTree_lower _ _ _ _ rfl rfl rfl noteWritten (yields_bind ?_)
  refine yields_convertTo_file rfl (yields_convertFile_into rfl rfl
    (yields_createDirectories_old rfl rfl rfl) shopWritten (yields_bind ?_))
  exact yields_convertTo_file rfl (yields_convertFile_into rfl rfl
    (yields_createDirectories_old rfl rfl rfl) photoWritten (yields_pure ⟨rfl, rfl⟩))

theorem yields_shopTree_blocked :
    Yields (convert Machine.host configuration "in" "out").run
      (shopTree note shop photo blockingDirectory)
      fun outcome after => outcome = .error (.failed .write "out/in/b.yaml" .isADirectory) ∧
        after = shopTree note shop photo (blockingDirectory ++
          (shopOutput (convertedBytes configuration note) shop photo).take 2) := by
  generalize isNote : convertedBytes configuration note = newNote
  let there (count : Nat) :=
    shopTree note shop photo (blockingDirectory ++ (shopOutput newNote shop photo).take count)
  have noteWritten : (there 1).writeFile "out/in/b/note.yaml"
      (convertedBytes configuration note) = .ok (there 2) := by
    rw [isNote]
    rfl
  have shopRefused : (there 2).writeFile "out/in/b.yaml"
      (convertedBytes configuration shop) = .error .isADirectory := rfl
  refine yields_shopTree_lower _ _ _ _ rfl rfl rfl noteWritten (yields_bind ?_)
  exact yields_convertTo_file rfl (yields_convertFile_into rfl rfl
    (yields_createDirectories_old rfl rfl rfl) shopRefused ⟨rfl, rfl⟩)

end

/-- A text with an Ingress that sets a header. -/
def shopManifest : String :=
  "apiVersion: networking.k8s.io/v1\nkind: Ingress\nmetadata:\n  name: shop\n  annotations:\n    ingress.kubernetes.io/ssl-host: h\n"

/-- The Ingress with a reference, and the middleware that this leads to. -/
def shopDocuments : List String :=
  ["apiVersion: networking.k8s.io/v1\nkind: Ingress\nmetadata:\n  annotations:\n    ingress.kubernetes.io/ssl-host: h\n    traefik.ingress.kubernetes.io/router.middlewares: default-shop-headers@kubernetescrd\n  name: shop\n",
    "apiVersion: traefik.containo.us/v1alpha1\nkind: Middleware\nmetadata:\n  name: shop-headers\n  namespace: default\nspec:\n  headers:\n    sslHost: h\n"]

def noteManifest : String :=
  "kind: Note\n"

set_option maxRecDepth 2000 in
theorem convertedDocuments_shopManifest :
    (Manifest.convertedDocuments .default shopManifest).value = shopDocuments := by
  have spelled : shopManifest = String.ofList _ := rfl
  exact Manifest.convertedDocuments_of_spelled [_, _] (by simp) spelled (by decide +kernel)

theorem convertedBytes_shopManifest :
    convertedBytes .default (Text.toUtf8 shopManifest) =
      Text.toUtf8 (Manifest.join shopDocuments) := by
  rw [convertedBytes_toUtf8, Manifest.convert, Logged.value_bind, Logged.value_pure,
    convertedDocuments_shopManifest]

theorem convertedBytes_noteManifest :
    convertedBytes .default (Text.toUtf8 noteManifest) = Text.toUtf8 noteManifest := by
  have converted : (Manifest.convert .default noteManifest).value = noteManifest := by
    decide +kernel
  rw [convertedBytes_toUtf8, converted]

/-- A tree with two texts and a file that is none. -/
abbrev mixedTree (others : List (Location × FileObject)) : FileSystem :=
  shopTree (Text.toUtf8 noteManifest) (Text.toUtf8 shopManifest) [0xFF, 0xD8] others

theorem isTree_mixedTree : (mixedTree []).IsTree ∧ (mixedTree blockingDirectory).IsTree := by
  decide +kernel

theorem lieApart_mixedTree (others : List (Location × FileObject)) :
    LieApart ((mixedTree others).place "in") ((mixedTree others).place (targetOf "in" "out")) := by
  change LieApart ["in"] ["out", "in"]
  exact ⟨by decide, by decide⟩

theorem filesBelow_mixedTree :
    (mixedTree blockingDirectory).filesBelow ["in"] =
      [⟨["b", "note.yaml"], Text.toUtf8 noteManifest⟩, ⟨["b.yaml"], Text.toUtf8 shopManifest⟩,
        ⟨["photo"], [0xFF, 0xD8]⟩] := by
  refine Location.eq_of_pairwise_before (isTree_mixedTree.2.pairwise_filesBelow ["in"])
    (by decide +kernel) fun file => ?_
  have unordered : (mixedTree blockingDirectory).objects.filterMap
      (FileSystem.fileBelow? ["in"]) =
        [⟨["photo"], [0xFF, 0xD8]⟩, ⟨["b.yaml"], Text.toUtf8 shopManifest⟩,
          ⟨["b", "note.yaml"], Text.toUtf8 noteManifest⟩] := rfl
  rw [FileSystem.filesBelow, (List.mergeSort_perm _ _).mem_iff, unordered]
  simp only [List.mem_cons, List.not_mem_nil, or_false]
  tauto

theorem IsMirrored.bytes?_eq {configuration : Configuration} {files after : FileSystem}
    {source target : String} (mirrored : IsMirrored configuration files source target after)
    (below : Location) {bytes : List UInt8}
    (stood : files.bytes? (files.place source ++ below) = some bytes) :
    after.bytes? (files.place (targetOf source target) ++ below) =
      some (convertedBytes configuration bytes) := by
  obtain ⟨converted, isConversion, stands⟩ := mirrored.mirrored below bytes stood
  rw [stands, isConversion_iff.1 isConversion]

/-- A conversion that succeeds, and one that stops at the second file. -/
theorem conversion_mirrors_tree_mixedTree :
    (∃ after, convertOn .default (mixedTree []) "in" "out" = (.ok (), after) ∧
      IsMirrored .default (mixedTree []) "in" "out" after ∧
      after.bytes? ["out", "in", "b", "note.yaml"] = some (Text.toUtf8 noteManifest) ∧
      after.bytes? ["out", "in", "b.yaml"] = some (Text.toUtf8 (Manifest.join shopDocuments)) ∧
      after.bytes? ["out", "in", "photo"] = some [0xFF, 0xD8]) ∧
    ∃ after,
      convertOn .default (mixedTree blockingDirectory) "in" "out" =
        (.error (.failed .write "out/in/b.yaml" .isADirectory), after) ∧
      ConvertsFirst .default (mixedTree blockingDirectory) ["in"] ["out", "in"] 1 after := by
  constructor
  · have ends : convertOn .default (mixedTree []) "in" "out" = (.ok (), _) :=
      (yields_shopTree .default (Text.toUtf8 noteManifest) (Text.toUtf8 shopManifest)
        [0xFF, 0xD8]).onFiles_eq
    have mirrored := conversion_mirrors_tree .default isTree_mixedTree.1 (lieApart_mixedTree [])
    rw [ends] at mirrored
    have note := mirrored.bytes?_eq ["b", "note.yaml"] rfl
    have shop := mirrored.bytes?_eq ["b.yaml"] rfl
    have photo := mirrored.bytes?_eq ["photo"] rfl
    exact ⟨_, ends, mirrored, note.trans (congrArg some convertedBytes_noteManifest),
      shop.trans (congrArg some convertedBytes_shopManifest), photo⟩
  · have ends : convertOn .default (mixedTree blockingDirectory) "in" "out" =
        (.error (.failed .write "out/in/b.yaml" .isADirectory), _) :=
      (yields_shopTree_blocked .default (Text.toUtf8 noteManifest) (Text.toUtf8 shopManifest)
        [0xFF, 0xD8]).onFiles_eq
    have stops := conversion_mirrors_tree .default isTree_mixedTree.2
      (lieApart_mixedTree blockingDirectory)
    rw [ends] at stops
    obtain ⟨count, -, converts⟩ := stops
    refine ⟨_, ends, ?_⟩
    cases count with
    | zero =>
        have untouched := converts.unchanged ["out", "in", "b", "note.yaml"] (by simp)
        cases untouched
    | succ count =>
        cases count with
        | zero => exact converts
        | succ count =>
            have isSecond : ⟨["b.yaml"], Text.toUtf8 shopManifest⟩ ∈
                ((mixedTree blockingDirectory).filesBelow ["in"]).take (count + 2) := by
              rw [filesBelow_mixedTree]
              simp
            obtain ⟨converted, -, stands⟩ := converts.converted _ isSecond
            cases stands

end TraefikUpgrade.Walk
