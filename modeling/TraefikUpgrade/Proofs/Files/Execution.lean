import TraefikUpgrade.Proofs.Files.Walk

/-!
Contract: the steps of a conversion on files that are known.

Owns: for each part of a conversion and of the run around it, what it does when
the answers of the files to its questions are known, and the order in which the
names in a directory are taken.

Does not own: what holds of conversions of all trees
(`TraefikUpgrade.Proofs.Files.Walk`).
-/

set_option autoImplicit false

namespace TraefikUpgrade.Walk

open Files
open Files.Machine (Yields)

variable {configuration : Configuration} {files : FileSystem} {path source target : String}

/-! ### The output -/

theorem yields_createDirectories_new {after : FileSystem} (visible : path.isEmpty = false)
    (created : files.createDirectory path = .ok after) :
    Yields (Machine.host.createDirectories path) files fun outcome between =>
      outcome = .ok () ∧ between = after := by
  rw [Host.createDirectories, Host.createDirectoriesTo, visible, if_neg Bool.false_ne_true]
  refine .bind (.createDirectory (fun fault failed => ?_) fun between made => ?_)
  · cases created.symm.trans failed
  · exact .of_pure ⟨rfl, Except.ok.inj (made.symm.trans created)⟩

theorem yields_createDirectories_old (visible : path.isEmpty = false)
    (present : files.createDirectory path = .error .alreadyExists)
    (isDirectory : files.isDirectory path = .ok true) :
    Yields (Machine.host.createDirectories path) files fun outcome between =>
      outcome = .ok () ∧ between = files := by
  rw [Host.createDirectories, Host.createDirectoriesTo, visible, if_neg Bool.false_ne_true]
  refine .bind (.createDirectory (fun fault failed => ?_) fun between made => ?_)
  · obtain rfl := Except.error.inj (present.symm.trans failed)
    refine .bind (.isDirectory ?_)
    rw [isDirectory]
    exact .of_pure ⟨rfl, rfl⟩
  · cases present.symm.trans made

theorem yields_prepareOutput_new {after : FileSystem}
    {holds : Except RunError Unit → FileSystem → Prop}
    (absent : files.isDirectory path = .error .notFound) (visible : path.isEmpty = false)
    (created : files.createDirectory path = .ok after) (now : holds (.ok ()) after) :
    Yields (prepareOutput Machine.host path).run files holds := by
  rw [prepareOutput]
  refine yields_bind (yields_lift (.isDirectory ?_))
  rw [absent]
  refine yields_step ((yields_createDirectories_new visible created).mono ?_)
  rintro _ _ ⟨rfl, rfl⟩
  exact now

theorem yields_prepareOutput_old {holds : Except RunError Unit → FileSystem → Prop}
    (isDirectory : files.isDirectory path = .ok true) (now : holds (.ok ()) files) :
    Yields (prepareOutput Machine.host path).run files holds := by
  rw [prepareOutput]
  refine yields_bind (yields_lift (.isDirectory ?_))
  rw [isDirectory]
  exact yields_pure now

/-! ### A file -/

/-- A file that can be read is written to a directory that can be made, if it can be written there. -/
theorem yields_convertFile_into {name : String} {bytes : List UInt8} {between : FileSystem}
    {written : Except Fault FileSystem} {holds : Except RunError Unit → FileSystem → Prop}
    (named : Path.fileName? source = some name) (read : files.readFile source = .ok bytes)
    (made : Yields (Machine.host.createDirectories target) files fun outcome there =>
      outcome = .ok () ∧ there = between)
    (writes : between.writeFile (Path.join target name) (convertedBytes configuration bytes) =
      written)
    (now : match written with
      | .ok after => holds (.ok ()) after
      | .error fault => holds (.error (.failed .write (Path.join target name) fault)) between) :
    Yields (convertFile Machine.host configuration source target).run files holds := by
  rw [convertFile, named]
  refine yields_bind (yields_lift (.log (yields_bind (yields_step (.readFile ?_)))))
  rw [read]
  refine yields_bind (yields_lift (.logAll (yields_bind (yields_step (made.mono ?_)))))
  rintro _ _ ⟨rfl, rfl⟩
  refine yields_step (.writeFile (fun fault failed => ?_) fun there wrote => ?_)
  · rw [value_convertBytes, writes] at failed
    subst failed
    exact now
  · rw [value_convertBytes, writes] at wrote
    subst wrote
    exact now

theorem yields_convertTo_file {depth : Nat} {holds : Except RunError Unit → FileSystem → Prop}
    (isFile : files.isDirectory source = .ok false)
    (converts : Yields (convertFile Machine.host configuration source target).run files holds) :
    Yields (convertTo Machine.host configuration (depth + 1) source target).run files holds := by
  rw [convertTo]
  refine yields_bind (yields_step (.isDirectory ?_))
  rw [isFile]
  exact converts

/-! ### A directory -/

/-- Names are taken in the ascending order of their bytes. -/
theorem sortedNames_eq {names sorted : List String} (perm : sorted.Perm names)
    (ascending : sorted.Pairwise Text.BytesBefore) : sortedNames names = sorted := by
  have distinct : names.Nodup := by
    refine perm.nodup_iff.1 (ascending.imp ?_)
    rintro name _ before rfl
    exact irrefl_of Text.BytesBefore name before
  have samePerm : (sortedNames names).Perm sorted := (List.mergeSort_perm _ _).trans perm.symm
  exact samePerm.eq_of_pairwise (fun _ _ _ _ before after => absurd after (asymm before))
    (pairwise_sortedNames distinct) ascending

theorem yields_convertTo_directory {depth : Nat} {names sorted : List String}
    {holds : Except RunError Unit → FileSystem → Prop}
    (isDirectory : files.isDirectory source = .ok true)
    (read : files.readDirectory source = .ok names) (perm : sorted.Perm names)
    (ascending : sorted.Pairwise Text.BytesBefore)
    (converts : Yields (forEach (fun name => convertTo Machine.host configuration depth
      (Path.join source name) (targetOf source target)) sorted).run files holds) :
    Yields (convertTo Machine.host configuration (depth + 1) source target).run files holds := by
  rw [convertTo]
  refine yields_bind (yields_step (.isDirectory ?_))
  rw [isDirectory]
  refine yields_bind (yields_step (.readDirectory ?_))
  rw [read]
  dsimp only
  rw [sortedNames_eq perm ascending]
  exact converts

end TraefikUpgrade.Walk
