import TraefikUpgrade.Files.Host
import TraefikUpgrade.Proofs.Files.Progress

/-!
Contract: computations on a machine that is a value and has no log file.

Owns: what holds of the result and of the files after a computation, the rules
for its steps, and what the making of a directory together with those above it
does to a tree, whether it succeeds or not.

Does not own: the steps of a walk (`TraefikUpgrade.Proofs.Files.Walk`).
-/

set_option autoImplicit false

namespace TraefikUpgrade.Files

open Files.Path (Passes)

namespace Machine

variable {α β : Type} {files : FileSystem}

/-- Something holds of the value of a computation and of the files after it, whatever has been
logged before. -/
def Yields (computation : StateM Machine α) (files : FileSystem)
    (holds : α → FileSystem → Prop) : Prop :=
  ∀ records, ∃ value after recordsAfter,
    (computation.run ⟨files, records, none⟩).run = (value, ⟨after, recordsAfter, none⟩) ∧
      holds value after

/-- The value of a computation on files, and the files after it. -/
def onFiles (computation : StateM Machine α) (files : FileSystem) : α × FileSystem :=
  let (value, machine) := (computation.run (ofFiles files)).run
  (value, machine.files)

namespace Yields

theorem onFiles {computation : StateM Machine α} {holds : α → FileSystem → Prop}
    (yields : Yields computation files holds) :
    holds (Machine.onFiles computation files).1 (Machine.onFiles computation files).2 := by
  obtain ⟨value, after, recordsAfter, ran, held⟩ := yields []
  rw [Machine.onFiles, ofFiles, ran]
  exact held

theorem onFiles_eq {computation : StateM Machine α} {value : α} {after : FileSystem}
    (yields : Yields computation files fun outcome there => outcome = value ∧ there = after) :
    Machine.onFiles computation files = (value, after) :=
  Prod.ext yields.onFiles.1 yields.onFiles.2

theorem of_pure {value : α} {holds : α → FileSystem → Prop} (now : holds value files) :
    Yields (pure value) files holds :=
  fun records => ⟨value, files, records, rfl, now⟩

theorem bind {first : StateM Machine α} {next : α → StateM Machine β}
    {holds : β → FileSystem → Prop}
    (steps : Yields first files fun value between => Yields (next value) between holds) :
    Yields (first >>= next) files holds := by
  intro records
  obtain ⟨value, between, recordsBetween, ran, onwards⟩ := steps records
  obtain ⟨result, after, recordsAfter, ranOn, held⟩ := onwards recordsBetween
  refine ⟨result, after, recordsAfter, ?_, held⟩
  rw [StateT.run_bind, Id.run_bind, ran]
  exact ranOn

theorem mono {computation : StateM Machine α} {holds weaker : α → FileSystem → Prop}
    (yields : Yields computation files holds)
    (weakens : ∀ value after, holds value after → weaker value after) :
    Yields computation files weaker := by
  intro records
  obtain ⟨value, after, recordsAfter, ran, held⟩ := yields records
  exact ⟨value, after, recordsAfter, ran, weakens value after held⟩

/-! ### The operations of the machine -/

theorem reading {read : FileSystem → Except Fault α} {holds : Except Fault α → FileSystem → Prop}
    (now : holds (read files) files) : Yields (Machine.reading read) files holds :=
  fun records => ⟨_, files, records, rfl, now⟩

theorem changing {change : FileSystem → Except Fault FileSystem}
    {holds : Except Fault Unit → FileSystem → Prop}
    (onFault : ∀ fault, change files = .error fault → holds (.error fault) files)
    (onSuccess : ∀ after, change files = .ok after → holds (.ok ()) after) :
    Yields (Machine.changing change) files holds := by
  intro records
  cases changed : change files with
  | error fault =>
      refine ⟨.error fault, files, records, ?_, onFault fault changed⟩
      simp [Machine.changing, changed]
  | ok after =>
      refine ⟨.ok (), after, records, ?_, onSuccess after changed⟩
      simp [Machine.changing, changed]

theorem isDirectory {path : String} {holds : Except Fault Bool → FileSystem → Prop}
    (now : holds (files.isDirectory path) files) : Yields (host.isDirectory path) files holds :=
  @reading _ files (fun files => files.isDirectory path) holds now

theorem readFile {path : String} {holds : Except Fault (List UInt8) → FileSystem → Prop}
    (now : holds (files.readFile path) files) : Yields (host.readFile path) files holds :=
  @reading _ files (fun files => files.readFile path) holds now

theorem readDirectory {path : String} {holds : Except Fault (List String) → FileSystem → Prop}
    (now : holds (files.readDirectory path) files) :
    Yields (host.readDirectory path) files holds :=
  @reading _ files (fun files => files.readDirectory path) holds now

theorem createDirectory {path : String} {holds : Except Fault Unit → FileSystem → Prop}
    (onFault : ∀ fault, files.createDirectory path = .error fault → holds (.error fault) files)
    (onSuccess : ∀ after, files.createDirectory path = .ok after → holds (.ok ()) after) :
    Yields (host.createDirectory path) files holds :=
  @changing files (fun files => files.createDirectory path) holds onFault onSuccess

theorem writeFile {path : String} {bytes : List UInt8}
    {holds : Except Fault Unit → FileSystem → Prop}
    (onFault : ∀ fault, files.writeFile path bytes = .error fault → holds (.error fault) files)
    (onSuccess : ∀ after, files.writeFile path bytes = .ok after → holds (.ok ()) after) :
    Yields (host.writeFile path bytes) files holds :=
  @changing files (fun files => files.writeFile path bytes) holds onFault onSuccess

theorem log {record : LogRecord} {holds : Unit → FileSystem → Prop} (now : holds () files) :
    Yields (host.log record) files holds :=
  fun records => ⟨(), files, records ++ [record], rfl, now⟩

theorem logAll {logged : Logged α} {holds : α → FileSystem → Prop}
    (now : holds logged.value files) : Yields (host.logAll logged) files holds := by
  refine .bind ?_
  generalize logged.records = records
  induction records with
  | nil => exact .of_pure (.of_pure now)
  | cons record rest inductionHypothesis =>
      rw [List.forIn_cons]
      exact .bind (.bind (.log (.of_pure inductionHypothesis)))

end Yields

/-! ### Making directories -/

/-- What is left of a tree when a path was to become a directory: there may be new directories on
its way, and everything on its way is one if that succeeded. -/
structure MakesWay (files : FileSystem) (path : String) (outcome : Except Fault Unit)
    (after : FileSystem) : Prop where
  progress : ∀ start, Progress files start [] (Passes (files.start path) (Path.names path)) after
  complete : outcome = .ok () → after.HasDirectories (files.start path) (Path.names path)

variable {path : String}

theorem MakesWay.unchanged (tree : files.IsTree) {outcome : Except Fault Unit}
    (complete : outcome = .ok () → files.HasDirectories (files.start path) (Path.names path)) :
    MakesWay files path outcome files :=
  ⟨fun start => .refl tree start _, complete⟩

theorem MakesWay.of_createDirectory (tree : files.IsTree) {after : FileSystem}
    (created : files.createDirectory path = .ok after) : MakesWay files path (.ok ()) after := by
  obtain ⟨put, nothing, through⟩ := tree.createDirectory_ok created
  have progress (start : Location) :
      Progress files start [] (Passes (files.start path) (Path.names path)) after :=
    .of_isPut_directory put nothing ⟨Path.names path, List.prefix_rfl, rfl⟩
  refine ⟨progress, fun _ => ((progress []).hasDirectories through).of_dropLast ?_⟩
  rw [put.object?_eq]
  exact if_pos rfl

theorem MakesWay.progress_of_parent? {above : String} {outcome : Except Fault Unit}
    {after : FileSystem} (found : Path.parent? path = some above)
    (made : MakesWay files above outcome after) (start : Location) :
    Progress files start [] (Passes (files.start path) (Path.names path)) after := by
  have sameStart : files.start above = files.start path := by
    rw [FileSystem.start, FileSystem.start, (Path.names_of_parent? found).2]
  refine (made.progress start).mono fun location passes => ?_
  rw [sameStart] at passes
  exact passes.of_parent? found

theorem MakesWay.after {between after : FileSystem} {outcome : Except Fault Unit}
    (made : MakesWay between path outcome after)
    (earlier : ∀ start,
      Progress files start [] (Passes (files.start path) (Path.names path)) between) :
    MakesWay files path outcome after := by
  obtain ⟨progress, complete⟩ := made
  rw [(earlier []).start_eq] at progress complete
  exact ⟨fun start => (earlier start).trans (progress start), complete⟩

theorem yields_isDirectoryInstead (tree : files.IsTree) (fault : Fault) :
    Yields (do
      match ← host.isDirectory path with
      | .ok true => return .ok ()
      | _ => return .error fault) files (MakesWay files path) := by
  refine .bind (.isDirectory ?_)
  cases answered : files.isDirectory path with
  | error other => exact .of_pure (.unchanged tree nofun)
  | ok answer =>
      cases answer with
      | false => exact .of_pure (.unchanged tree nofun)
      | true => exact .of_pure (.unchanged tree fun _ => tree.isDirectory_ok_true answered)

theorem yields_ensureDirectory (tree : files.IsTree) :
    Yields (host.ensureDirectory path) files (MakesWay files path) := by
  refine .bind (.createDirectory (fun fault _ => ?_) fun after created => ?_)
  · exact yields_isDirectoryInstead tree fault
  · exact .of_pure (.of_createDirectory tree created)

theorem yields_createDirectoriesTo (tree : files.IsTree) (depth : Nat) :
    Yields (host.createDirectoriesTo depth path) files (MakesWay files path) := by
  induction depth generalizing path with
  | zero => exact .of_pure (.unchanged tree nofun)
  | succ depth inductionHypothesis =>
      rw [Host.createDirectoriesTo]
      split
      · rename_i empty
        have noName : Path.names path = [] := by
          rw [String.isEmpty_iff.1 empty, Path.names_empty]
        refine .of_pure (.unchanged tree fun _ => ?_)
        rw [noName]
        exact FileSystem.hasDirectories_nil (tree.object?_start path)
      refine .bind (.createDirectory (fun fault _ => ?_) fun after created => ?_)
      · cases fault with
        | notFound =>
            dsimp only
            cases found : Path.parent? path with
            | none => exact .of_pure (.unchanged tree nofun)
            | some above =>
                refine .bind (inductionHypothesis.mono fun outcome between made => ?_)
                have wayAbove := made.progress_of_parent? found
                cases outcome with
                | error fault => exact .of_pure ⟨wayAbove, nofun⟩
                | ok _ =>
                    have tree := (wayAbove []).isTree
                    exact (yields_ensureDirectory tree).mono fun _ _ ensured =>
                      ensured.after wayAbove
        | _ => exact yields_isDirectoryInstead tree _
      · exact .of_pure (.of_createDirectory tree created)

theorem yields_createDirectories (tree : files.IsTree) :
    Yields (host.createDirectories path) files (MakesWay files path) :=
  yields_createDirectoriesTo tree _

end Machine

end TraefikUpgrade.Files
