import TraefikUpgrade.Annotation.Reading
import TraefikUpgrade.Proofs.Text.Blank
import TraefikUpgrade.Proofs.Text.Map
import TraefikUpgrade.Proofs.Text.Segment

/-!
Contract: what a text says as a header map.

Owns: the well-formed entries, the division of a text into entries, what an
annotation with these entries is read as, the entries that are written as they
are read, and the reading of a map that was written with such entries.

Does not own: which annotations hold header maps (`TraefikUpgrade.Directive`).
-/

set_option autoImplicit false

namespace TraefikUpgrade.Annotation

/-! ### Entries -/

/-- An entry with a colon and a name that is not blank before the first one. The name stands in its
canonical spelling for all of its spellings, and blanks around the name and the value do not count. -/
inductive IsHeader : List Char → String → String → Prop where
  | header {before after : List Char} (first : ':' ∉ before)
      (visible : ∃ character ∈ before, Text.isBlank character = false) :
      IsHeader (before ++ ':' :: after) (String.ofList (canonicalHeaderName (Text.trim before)))
        (String.ofList (Text.trim after))

def IsWellFormed (entry : List Char) : Prop :=
  ∃ name value, IsHeader entry name value

theorem nameAndValue?_eq_some_iff {entry : List Char} {name value : String} :
    nameAndValue? entry = some (name, value) ↔ IsHeader entry name value := by
  have visible_iff (before : List Char) :
      Text.trim before ≠ [] ↔ ∃ character ∈ before, Text.isBlank character = false := by
    rw [Ne, Text.trim_eq_nil_iff]
    simp
  unfold nameAndValue?
  constructor
  · intro reads
    obtain ⟨⟨before, after⟩, cut, ofParts⟩ := Option.bind_eq_some_iff.1 reads
    obtain ⟨rfl, first⟩ := Text.cutAtFirst_eq_some_iff.1 cut
    dsimp only at ofParts
    by_cases blank : Text.trim before = []
    · simp [blank] at ofParts
    · simp only [List.isEmpty_iff, if_neg blank, Option.some.injEq, Prod.mk.injEq] at ofParts
      rw [← ofParts.1, ← ofParts.2]
      exact .header first ((visible_iff before).1 blank)
  · rintro ⟨first, visible⟩
    rw [Text.cutAtFirst_eq_some_iff.2 ⟨rfl, first⟩]
    simp [(visible_iff _).2 visible]

theorem isSome_nameAndValue?_iff {entry : List Char} :
    (nameAndValue? entry).isSome = true ↔ IsWellFormed entry := by
  simp [Option.isSome_iff_exists, IsWellFormed, nameAndValue?_eq_some_iff]

instance (entry : List Char) : Decidable (IsWellFormed entry) :=
  decidable_of_iff _ isSome_nameAndValue?_iff

/-- The entries of a text are its fields between pairs, the leftmost pairs first. -/
def AreEntries (text : String) (entries : List (List Char)) : Prop :=
  Text.ArePairFields '|' entries ∧ Text.joinWith ['|', '|'] entries = text.toList

theorem areEntries_iff {text : String} {entries : List (List Char)} :
    AreEntries text entries ↔ entries = headerEntries text := by
  constructor
  · rintro ⟨areFields, joined⟩
    rw [headerEntries, ← joined, areFields.fieldsBetweenPairs_joinWith]
  · rintro rfl
    exact Text.areFields_fieldsBetweenPairs '|' text.toList

/-! ### The reading of a text -/

/-- What comes of the entries of an annotation that is not empty: the last well-formed entry of a
name gives its value, without one there is no map, and a warning follows each malformed entry in
order and, where there is no map, all of them. -/
structure ReadsEntries (key : String) (entries : List (List Char))
    (result : Logged (Option TextMap)) : Prop where
  absent : result.value = none ↔ ∀ entry ∈ entries, ¬IsWellFormed entry
  holds : ∀ map, result.value = some map → ∀ name value,
    map.get? name = some value ↔
      ∃ earlier entry later, entries = earlier ++ entry :: later ∧ IsHeader entry name value ∧
        ∀ other ∈ later, ∀ shadowed, ¬IsHeader other name shadowed
  records : result.records =
    ((entries.filter fun entry => ¬IsWellFormed entry).map fun entry =>
      ⟨.warn, s!"Could not load {Text.quoted key}: {Text.quoted (String.ofList entry)}, skipping..."⟩) ++
      if result.value = none then [⟨.warn, s!"Could not load {Text.quoted key}, skipping..."⟩] else []

section Reading

variable {key text : String} {name value : String}

theorem isEmpty_headerMapOf (text : String) :
    (headerMapOf text).isEmpty = true ↔ ∀ entry ∈ headerEntries text, ¬IsWellFormed entry := by
  unfold headerMapOf
  rw [TextMap.isEmpty_ofList, List.filterMap_eq_nil_iff]
  simp only [← isSome_nameAndValue?_iff, Option.not_isSome_iff_eq_none]

theorem get?_headerMapOf :
    (headerMapOf text).get? name = some value ↔
      ∃ earlier entry later, headerEntries text = earlier ++ entry :: later ∧
        IsHeader entry name value ∧ ∀ other ∈ later, ∀ shadowed, ¬IsHeader other name shadowed := by
  unfold headerMapOf
  rw [TextMap.get?_ofList_eq_some_iff]
  constructor
  · rintro ⟨earlier, later, split, others⟩
    obtain ⟨first, rest, split, -, ofRest⟩ := List.filterMap_eq_append_iff.1 split
    obtain ⟨skipped, entry, rest, rfl, -, isHeader, ofLater⟩ := List.filterMap_eq_cons_iff.1 ofRest
    refine ⟨first ++ skipped, entry, rest, by simp [split], nameAndValue?_eq_some_iff.1 isHeader, ?_⟩
    intro other member shadowed names
    have kept := List.mem_filterMap.2 ⟨other, member, nameAndValue?_eq_some_iff.2 names⟩
    exact others _ (ofLater ▸ kept) rfl
  · rintro ⟨earlier, entry, later, split, isHeader, others⟩
    refine ⟨earlier.filterMap nameAndValue?, later.filterMap nameAndValue?, ?_, ?_⟩
    · rw [split, List.filterMap_append, List.filterMap_cons_some (nameAndValue?_eq_some_iff.2 isHeader)]
    · rintro ⟨other, shadowed⟩ kept rfl
      obtain ⟨field, member, names⟩ := List.mem_filterMap.1 kept
      exact others field member shadowed (nameAndValue?_eq_some_iff.1 names)

theorem value_headerMap_eq_none_iff :
    (headerMap key text).value = none ↔ (headerMapOf text).isEmpty = true := by
  simp [headerMap]

theorem readsEntries_headerMap (key text : String) :
    ReadsEntries key (headerEntries text) (headerMap key text) := by
  refine ⟨?_, ?_, ?_⟩
  · rw [value_headerMap_eq_none_iff, isEmpty_headerMapOf]
  · intro map isMap name value
    have same : headerMapOf text = map := by
      rw [headerMap] at isMap
      exact Option.some.inj (Option.ite_none_left_eq_some.1 isMap).2
    rw [← same]
    exact get?_headerMapOf
  · have malformed : (headerEntries text).filter (fun entry => (nameAndValue? entry).isNone) =
        (headerEntries text).filter fun entry => ¬IsWellFormed entry := by
      refine List.filter_congr fun entry _ => ?_
      rw [Bool.eq_iff_iff, decide_eq_true_iff, ← isSome_nameAndValue?_iff, Option.isNone_iff_eq_none,
        Option.not_isSome_iff_eq_none]
    simp only [value_headerMap_eq_none_iff, ← malformed]
    rfl

end Reading

/-! ### Written maps -/

/-- A name and a value that are read as they are written. -/
structure IsPlain (name value : String) : Prop where
  visible : name ≠ ""
  name_trimmed : Text.IsTrimmed name.toList
  canonical : canonicalHeaderName name.toList = name.toList
  noColon : ':' ∉ name.toList
  name_whole : ¬['|', '|'] <:+: name.toList
  value_trimmed : Text.IsTrimmed value.toList
  value_whole : ¬['|', '|'] <:+: value.toList
  value_clear : value.toList.getLast? ≠ some '|'

theorem isPlain_iff {name value : String} :
    IsPlain name value ↔
      name ≠ "" ∧ Text.IsTrimmed name.toList ∧ canonicalHeaderName name.toList = name.toList ∧
        ':' ∉ name.toList ∧ ¬Text.hasInfix ['|', '|'] name.toList ∧ Text.IsTrimmed value.toList ∧
        ¬Text.hasInfix ['|', '|'] value.toList ∧ value.toList.getLast? ≠ some '|' := by
  rw [Text.hasInfix_iff, Text.hasInfix_iff]
  constructor
  · rintro ⟨visible, nameTrimmed, canonical, noColon, nameWhole, trimmed, whole, clear⟩
    exact ⟨visible, nameTrimmed, canonical, noColon, nameWhole, trimmed, whole, clear⟩
  · rintro ⟨visible, nameTrimmed, canonical, noColon, nameWhole, trimmed, whole, clear⟩
    exact ⟨visible, nameTrimmed, canonical, noColon, nameWhole, trimmed, whole, clear⟩

instance (name value : String) : Decidable (IsPlain name value) :=
  decidable_of_iff _ isPlain_iff.symm

/-- A map as a text, its entries in the given order. -/
def headerText (entries : List (String × String)) : String :=
  "||".intercalate (entries.map fun entry => entry.1 ++ ":" ++ entry.2)

/-- One entry as it is written. -/
def writtenEntry (entry : String × String) : List Char :=
  entry.1.toList ++ ':' :: entry.2.toList

section Written

variable {entries : List (String × String)} {name value : String}

theorem toList_headerText (entries : List (String × String)) :
    (headerText entries).toList = Text.joinWith ['|', '|'] (entries.map writtenEntry) := by
  rw [headerText, Text.joinWith_eq_intercalate, String.toList_intercalate, List.map_map]
  congr 1
  exact List.map_congr_left fun entry _ => by simp [writtenEntry]

theorem headerText_ne_empty (present : entries ≠ []) : headerText entries ≠ "" := by
  obtain ⟨entry, following, rfl⟩ := List.exists_cons_of_ne_nil present
  rw [Ne, ← String.toList_eq_nil_iff, toList_headerText]
  cases following <;> simp [Text.joinWith, writtenEntry]

theorem IsPlain.isHeader (plain : IsPlain name value) :
    IsHeader (writtenEntry (name, value)) name value := by
  have visible : ∃ character ∈ name.toList, Text.isBlank character = false := by
    obtain ⟨character, starts⟩ :=
      Option.isSome_iff_exists.1 (List.isSome_head?.2 (mt String.toList_eq_nil_iff.1 plain.visible))
    exact ⟨character, List.mem_of_mem_head? starts, plain.name_trimmed.first character starts⟩
  have header := @IsHeader.header name.toList value.toList plain.noColon visible
  rwa [plain.name_trimmed.trim_eq, plain.canonical, plain.value_trimmed.trim_eq, String.ofList_toList,
    String.ofList_toList] at header

theorem IsPlain.whole (plain : IsPlain name value) :
    ¬['|', '|'] <:+: writtenEntry (name, value) :=
  Text.whole_append (by decide) plain.name_whole plain.value_whole

theorem IsPlain.clear (plain : IsPlain name value) :
    (writtenEntry (name, value)).getLast? ≠ some '|' := by
  rw [writtenEntry, List.getLast?_append_cons]
  cases written : value.toList with
  | nil => simp
  | cons first rest =>
      rw [List.getLast?_cons_cons, ← written]
      exact plain.value_clear

/-- A written map is divided into the entries that it was written with. -/
theorem headerEntries_headerText (present : entries ≠ [])
    (plain : ∀ entry ∈ entries, IsPlain entry.1 entry.2) :
    headerEntries (headerText entries) = entries.map writtenEntry := by
  have clear : ∀ field ∈ entries.map writtenEntry,
      ¬['|', '|'] <:+: field ∧ field.getLast? ≠ some '|' := by
    intro field member
    obtain ⟨entry, isEntry, rfl⟩ := List.mem_map.1 member
    exact ⟨(plain entry isEntry).whole, (plain entry isEntry).clear⟩
  rw [headerEntries, toList_headerText]
  exact (Text.arePairFields_of_clear (by simpa using present) clear).fieldsBetweenPairs_joinWith

theorem headerMap_headerText {map : TextMap} (perm : entries.Perm map.toList)
    (present : entries ≠ []) (plain : ∀ entry ∈ entries, IsPlain entry.1 entry.2) (key : String) :
    headerMap key (headerText entries) = ⟨some map, []⟩ := by
  have reads : ∀ entry ∈ entries, (nameAndValue? ∘ writtenEntry) entry = some entry :=
    fun entry member => nameAndValue?_eq_some_iff.2 (plain entry member).isHeader
  have isMap : headerMapOf (headerText entries) = map := by
    rw [headerMapOf, headerEntries_headerText present plain, List.filterMap_map,
      List.filterMap_congr (g := some) reads, List.filterMap_some, TextMap.ofList_eq_of_perm perm]
  have notEmpty : map.isEmpty = false :=
    List.isEmpty_eq_false_iff.2 fun nothing => present (nothing ▸ perm).eq_nil
  have noneMalformed : (headerEntries (headerText entries)).filter
      (fun entry => (nameAndValue? entry).isNone) = [] := by
    rw [headerEntries_headerText present plain, List.filter_eq_nil_iff]
    intro field member
    obtain ⟨entry, isEntry, rfl⟩ := List.mem_map.1 member
    rw [← Function.comp_apply (f := nameAndValue?), reads entry isEntry]
    simp
  rw [headerMap, headerMapWarnings, isMap, notEmpty, noneMalformed]
  rfl

end Written

end TraefikUpgrade.Annotation

namespace TraefikUpgrade.Annotations

open Annotation

/-- A map of names and values that are read as they are written is read back from its entries in
any order, without a record. An annotation that is missing or empty gives no map and no record. Every
other text has its entries: the last well-formed one of each name counts, there is no map just where
none is well-formed, and each malformed one leaves one warning, with one more where there is no
map. -/
theorem header_maps_are_read (annotations : Annotations) (key : String) :
    (∀ (map : TextMap) (entries : List (String × String)), entries.Perm map.toList → entries ≠ [] →
      (∀ entry ∈ entries, IsPlain entry.1 entry.2) →
      (annotations.map.bind fun map => map.get? key) = some (headerText entries) →
      annotations.headerMap key = ⟨some map, []⟩) ∧
    ((∀ text ∈ annotations.map.bind fun map => map.get? key, text = "") →
      annotations.headerMap key = ⟨none, []⟩) ∧
    ∀ text, (annotations.map.bind fun map => map.get? key) = some text → text ≠ "" →
      (∃! entries, AreEntries text entries) ∧
      ∀ entries, AreEntries text entries → ReadsEntries key entries (annotations.headerMap key) := by
  have read {text : String} (stored : (annotations.map.bind fun map => map.get? key) = some text)
      (visible : text ≠ "") : annotations.headerMap key = Annotation.headerMap key text := by
    have present : annotations.value? key = some text := by
      simp [value?, stored, visible]
    rw [Annotations.headerMap, present]
  refine ⟨?_, ?_, fun text stored visible => ⟨?_, ?_⟩⟩
  · intro map entries perm present plain stored
    rw [read stored (headerText_ne_empty present), headerMap_headerText perm present plain]
  · intro nothing
    have absent : annotations.value? key = none := by
      rw [value?, Option.filter_eq_none_iff]
      intro text stored
      simp [nothing text stored]
    rw [Annotations.headerMap, absent]
    rfl
  · exact ⟨headerEntries text, areEntries_iff.2 rfl, fun entries => areEntries_iff.1⟩
  · intro entries areEntries
    rw [areEntries_iff.1 areEntries, read stored visible]
    exact readsEntries_headerMap key text

private def mixed : Annotations :=
  ⟨some (TextMap.ofList [("written", "X-Two:b:c||X-One:a|b"), ("mixed", "broken|||x-a: 1||X-A:2")])⟩

/-- The third mark of a run belongs to the entry behind the pair. -/
theorem header_maps_are_read_mixed :
    mixed.headerMap "written" =
        ⟨some (TextMap.ofList [("X-One", "a|b"), ("X-Two", "b:c")]), []⟩ ∧
      mixed.headerMap "missing" = ⟨none, []⟩ ∧
      ReadsEntries "mixed" ["broken".toList, "|x-a: 1".toList, "X-A:2".toList]
        (mixed.headerMap "mixed") :=
  ⟨(header_maps_are_read mixed "written").1 (TextMap.ofList [("X-One", "a|b"), ("X-Two", "b:c")])
      [("X-Two", "b:c"), ("X-One", "a|b")] (by decide +kernel) (by decide) (by decide +kernel)
      (by decide +kernel),
    (header_maps_are_read mixed "missing").2.1 (by decide +kernel),
    ((header_maps_are_read mixed "mixed").2.2 "broken|||x-a: 1||X-A:2" (by decide +kernel)
      (by decide)).2 _ (areEntries_iff.2 (by decide +kernel))⟩

end TraefikUpgrade.Annotations
