import TraefikUpgrade.Files.FileSystem
import TraefikUpgrade.Proofs.Text.Segment

/-!
Contract: the laws of paths.

Owns: the names of joined paths and of the path above another, and the location
that names lead to when no link stands in their way, together with the
locations that they pass.

Does not own: whether anything stands at these locations
(`TraefikUpgrade.Proofs.Files.FileSystem`).
-/

set_option autoImplicit false

namespace TraefikUpgrade.Files.Path

/-! ### Names -/

/-- What can stand between slashes. -/
structure IsSegment (name : String) : Prop where
  visible : name ≠ ""
  noSlash : '/' ∉ name.toList

/-- The name of something in a directory. -/
structure IsEntryName (name : String) : Prop extends IsSegment name where
  notCurrent : name ≠ current
  notParent : name ≠ parentName

instance (name : String) : Decidable (IsSegment name) :=
  decidable_of_iff (name ≠ "" ∧ '/' ∉ name.toList)
    ⟨fun ⟨visible, noSlash⟩ => ⟨visible, noSlash⟩,
      fun segment => ⟨segment.visible, segment.noSlash⟩⟩

instance (name : String) : Decidable (IsEntryName name) :=
  decidable_of_iff (IsSegment name ∧ name ≠ current ∧ name ≠ parentName)
    ⟨fun ⟨segment, notCurrent, notParent⟩ => ⟨segment, notCurrent, notParent⟩,
      fun entry => ⟨entry.toIsSegment, entry.notCurrent, entry.notParent⟩⟩

theorem names_eq_splitOn (path : String) :
    names path =
      ((path.toList.splitOn '/').filter fun name => !name.isEmpty).map String.ofList :=
  congrArg (fun fields => (fields.filter fun name : List Char => !name.isEmpty).map String.ofList)
    (Text.fields_eq_splitOn '/' path.toList)

theorem isSegment_of_mem_names {path name : String} (member : name ∈ names path) :
    IsSegment name := by
  rw [names] at member
  obtain ⟨field, kept, rfl⟩ := List.mem_map.1 member
  obtain ⟨isField, visible⟩ := List.mem_filter.1 kept
  constructor
  · intro empty
    have noCharacter : field = [] := by simpa using congrArg String.toList empty
    simp [noCharacter] at visible
  · rw [String.toList_ofList]
    intro slash
    exact absurd (Text.not_separates_of_mem_fields isField '/' slash) (by decide)

theorem names_empty : names "" = [] := by
  decide

theorem names_append_slash (first second : String) :
    names (first ++ "/" ++ second) = names first ++ names second := by
  have characters :
      (first ++ "/" ++ second).toList = first.toList ++ '/' :: second.toList := by simp
  rw [names_eq_splitOn, names_eq_splitOn, names_eq_splitOn, characters,
    List.splitOn_append_cons_self, List.filter_append, List.map_append]

theorem IsSegment.names_eq {name : String} (segment : IsSegment name) : names name = [name] := by
  have someCharacter : name.toList.isEmpty = false := by
    simpa using fun empty => segment.visible (String.toList_injective empty)
  rw [names_eq_splitOn, List.splitOn_eq_singleton segment.noSlash]
  simp [someCharacter]

/-- A path that ends with a slash is another one and that slash. -/
theorem exists_append_slash {path : String} (slash : endsWithSlash path = true) :
    ∃ before, path = before ++ "/" := by
  have last : path.toList.getLast? = some '/' := by simpa [endsWithSlash] using slash
  obtain ⟨before, characters⟩ := List.getLast?_eq_some_iff.1 last
  refine ⟨String.ofList before, String.toList_injective ?_⟩
  rw [characters]
  simp

theorem names_join (directory : String) {name : String} (segment : IsSegment name) :
    names (join directory name) = names directory ++ [name] := by
  rw [join]
  cases empty : directory.isEmpty with
  | true =>
      have noText : directory = "" := by simpa using empty
      rw [Bool.true_or, if_pos rfl, noText, names_empty, String.empty_append, segment.names_eq]
      rfl
  | false =>
      cases slash : endsWithSlash directory with
      | true =>
          obtain ⟨before, rfl⟩ := exists_append_slash slash
          have noName : names (before ++ "/") = names before := by
            have withEmpty := names_append_slash before ""
            rwa [String.append_empty, names_empty, List.append_nil] at withEmpty
          rw [Bool.false_or, if_pos rfl, names_append_slash, noName, segment.names_eq]
      | false =>
          rw [Bool.false_or, if_neg Bool.false_ne_true, names_append_slash, segment.names_eq]

theorem isAbsolute_append {first : String} (visible : first ≠ "") (second : String) :
    isAbsolute (first ++ second) = isAbsolute first := by
  rw [isAbsolute, isAbsolute, String.toList_append]
  obtain ⟨character, rest, characters⟩ :=
    List.exists_cons_of_ne_nil fun empty => visible (String.toList_injective empty)
  rw [characters]
  rfl

theorem IsSegment.isAbsolute_eq {name : String} (segment : IsSegment name) :
    isAbsolute name = false :=
  decide_eq_false fun first => segment.noSlash (List.mem_of_head? first)

theorem isAbsolute_join (directory : String) {name : String} (segment : IsSegment name) :
    isAbsolute (join directory name) = isAbsolute directory := by
  by_cases empty : directory = ""
  · rw [empty, join, if_pos (by decide), String.empty_append, segment.isAbsolute_eq]
    decide
  · rw [join]
    split
    · exact isAbsolute_append empty _
    · rw [String.append_assoc, isAbsolute_append empty]

theorem fileName?_join (directory : String) {name : String} (entry : IsEntryName name) :
    fileName? (join directory name) = some name := by
  simp [fileName?, names_join directory entry.toIsSegment, List.filter_append, entry.notCurrent,
    entry.notParent]

theorem isEntryName_of_fileName? {path name : String} (found : fileName? path = some name) :
    IsEntryName name := by
  rw [fileName?] at found
  obtain ⟨last, isLast, notParent⟩ := Option.bind_eq_some_iff.1 found
  split at notParent
  · cases notParent
  · rename_i differs
    obtain rfl := Option.some.inj notParent
    obtain ⟨isName, notCurrent⟩ := List.mem_filter.1 (List.mem_of_getLast? isLast)
    exact ⟨isSegment_of_mem_names isName, by simpa using notCurrent, differs⟩

/-! ### The path above -/

theorem ofNames_singleton (name : String) : ofNames false [name] = name := by
  simp [ofNames, Text.joinWith]

theorem ofNames_cons_cons (name next : String) (others : List String) :
    ofNames false (name :: next :: others) = name ++ "/" ++ ofNames false (next :: others) := by
  simp [ofNames, Text.joinWith, String.append_assoc]

theorem ofNames_true (listed : List String) :
    ofNames true listed = "" ++ "/" ++ ofNames false listed := by
  simp [ofNames]

theorem names_ofNames (absolute : Bool) {listed : List String}
    (segments : ∀ name ∈ listed, IsSegment name) : names (ofNames absolute listed) = listed := by
  have relative : names (ofNames false listed) = listed := by
    induction listed with
    | nil => exact names_empty
    | cons name rest inductionHypothesis =>
        obtain ⟨ofName, ofRest⟩ := List.forall_mem_cons.1 segments
        cases rest with
        | nil => rw [ofNames_singleton, ofName.names_eq]
        | cons next others =>
            rw [ofNames_cons_cons, names_append_slash, ofName.names_eq,
              inductionHypothesis ofRest]
            rfl
  cases absolute with
  | false => exact relative
  | true => rw [ofNames_true, names_append_slash, names_empty, relative, List.nil_append]

theorem isAbsolute_ofNames (absolute : Bool) {listed : List String}
    (segments : ∀ name ∈ listed, IsSegment name) :
    isAbsolute (ofNames absolute listed) = absolute := by
  cases absolute with
  | true => rw [ofNames_true, String.empty_append, isAbsolute_append (by decide)]; decide
  | false =>
      cases listed with
      | nil => decide
      | cons name rest =>
          have ofName := segments name List.mem_cons_self
          cases rest with
          | nil => rw [ofNames_singleton, ofName.isAbsolute_eq]
          | cons next others =>
              rw [ofNames_cons_cons, String.append_assoc, isAbsolute_append ofName.visible,
                ofName.isAbsolute_eq]

theorem filter_normalNames (path : String) :
    (normalNames path).filter (fun name => name ≠ current) =
      (names path).filter fun name => name ≠ current := by
  rw [normalNames]
  cases names path with
  | nil => rfl
  | cons first rest =>
      dsimp only
      split
      · rename_i leading
        have isCurrent : first = current := by simpa using (Bool.and_eq_true_iff.1 leading).1
        simp [isCurrent]
      · simp [List.filter_cons]

theorem normalNames_subset (path : String) : normalNames path ⊆ names path := by
  rw [normalNames]
  cases names path with
  | nil => exact fun _ member => member
  | cons first rest =>
      have kept : (rest.filter fun name => name ≠ current) ⊆ rest := List.filter_sublist.subset
      dsimp only
      split
      · exact fun _ member => List.mem_cons_of_mem _ (kept member)
      · exact List.cons_subset_cons first kept

/-- The path above has the names of the path but the last one, and leads from the same place. -/
theorem names_of_parent? {path above : String} (found : parent? path = some above) :
    names above = (normalNames path).dropLast ∧ isAbsolute above = isAbsolute path := by
  have segments : ∀ name ∈ (normalNames path).dropLast, IsSegment name := fun _ member =>
    isSegment_of_mem_names (normalNames_subset path (List.dropLast_subset _ member))
  rw [parent?] at found
  split at found
  · cases found
  · rw [← Option.some.inj found]
    exact ⟨names_ofNames _ segments, isAbsolute_ofNames _ segments⟩

/-! ### Where names lead to -/

/-- Where a name leads to from a directory. -/
def enter (location : Location) (name : String) : Location :=
  if name = current then location
  else if name = parentName then location.dropLast
  else location ++ [name]

/-- Where names lead to, one after the other. -/
def along (location : Location) (names : List String) : Location :=
  names.foldl enter location

theorem IsEntryName.enter_eq {name : String} (entry : IsEntryName name) (location : Location) :
    enter location name = location ++ [name] := by
  rw [enter, if_neg entry.notCurrent, if_neg entry.notParent]

theorem along_append (location : Location) (first second : List String) :
    along location (first ++ second) = along (along location first) second :=
  List.foldl_append

theorem along_of_entryNames {names : List String} (entries : ∀ name ∈ names, IsEntryName name)
    (location : Location) : along location names = location ++ names := by
  induction names generalizing location with
  | nil => simp [along]
  | cons name rest inductionHypothesis =>
      obtain ⟨entry, entriesOfRest⟩ := List.forall_mem_cons.1 entries
      rw [← List.singleton_append, along_append, inductionHypothesis entriesOfRest,
        ← List.append_assoc]
      exact congrArg (· ++ rest) (entry.enter_eq location)

/-- Names for the directory itself lead nowhere. -/
theorem along_filter (location : Location) (names : List String) :
    along location (names.filter fun name => name ≠ current) = along location names := by
  induction names generalizing location with
  | nil => rfl
  | cons name rest inductionHypothesis =>
      by_cases same : name = current
      · have stays : enter location name = location := if_pos same
        rw [List.filter_cons_of_neg (by simpa using same), inductionHypothesis]
        exact congrArg (along · rest) stays.symm
      · rw [List.filter_cons_of_pos (by simpa using same)]
        exact inductionHypothesis (enter location name)

/-- A location that names lead through, their beginning and their end included. -/
def Passes (start : Location) (names : List String) (location : Location) : Prop :=
  ∃ passed, passed <+: names ∧ location = along start passed

theorem Passes.of_prefix {start location : Location} {first second : List String}
    (passes : Passes start first location) (begins : first <+: second) :
    Passes start second location := by
  obtain ⟨passed, initial, reached⟩ := passes
  exact ⟨passed, initial.trans begins, reached⟩

/-- Which locations names lead through does not depend on names for the directory itself. -/
theorem Passes.of_filter_eq {start location : Location} {first second : List String}
    (passes : Passes start first location)
    (same : (first.filter fun name => name ≠ current) =
      second.filter fun name => name ≠ current) :
    Passes start second location := by
  obtain ⟨passed, initial, reached⟩ := passes
  have filtered := initial.filter fun name => name ≠ current
  rw [same, List.prefix_filter_iff] at filtered
  obtain ⟨counterpart, begins, equal⟩ := filtered
  exact ⟨counterpart, begins, by rw [reached, ← along_filter, equal, along_filter]⟩

/-- The path above leads through nothing else than the path itself. -/
theorem Passes.of_parent? {start location : Location} {path above : String}
    (found : parent? path = some above) (passes : Passes start (names above) location) :
    Passes start (names path) location := by
  rw [(names_of_parent? found).1] at passes
  exact (passes.of_prefix (List.dropLast_prefix _)).of_filter_eq (filter_normalNames path)

end TraefikUpgrade.Files.Path
