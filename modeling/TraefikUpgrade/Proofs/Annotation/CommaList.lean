import TraefikUpgrade.Annotation.Reading
import TraefikUpgrade.Proofs.Directive.Condition
import TraefikUpgrade.Proofs.Text.Blank
import TraefikUpgrade.Proofs.Text.Segment

/-!
Contract: what a text says as a comma list.

Owns: the texts that can be entries of a comma list, the ways to write a list of
entries, with blanks around them and blank pieces between them, and the reading
of each of them, which gives the entries as they are. So a white list has the
source ranges that its annotation lists, in their order.

Does not own: which annotations hold comma lists (`TraefikUpgrade.Directive`).
-/

set_option autoImplicit false

namespace TraefikUpgrade.Annotations

open Annotation

/-! ### Entries and the ways to write them -/

/-- A text that is not empty, with no blank at its ends and no comma in it. -/
structure IsListEntry (entry : String) : Prop where
  visible : entry ≠ ""
  trimmed : Text.IsTrimmed entry.toList
  noComma : ',' ∉ entry.toList

/-- Pieces in which entries are written: each entry in a piece of its own, in order and between
blanks, and any number of pieces with nothing but blanks wherever they stand. -/
inductive HoldEntries : List String → List String → Prop where
  | nothing : HoldEntries [] []
  | blank {piece : String} {pieces entries : List String}
      (isBlank : ∀ character ∈ piece.toList, Text.isBlank character = true)
      (later : HoldEntries pieces entries) : HoldEntries (piece :: pieces) entries
  | entry {before entry after : String} {pieces entries : List String}
      (isEntry : IsListEntry entry)
      (beforeBlank : ∀ character ∈ before.toList, Text.isBlank character = true)
      (afterBlank : ∀ character ∈ after.toList, Text.isBlank character = true)
      (later : HoldEntries pieces entries) :
      HoldEntries ((before ++ entry ++ after) :: pieces) (entry :: entries)

/-- A text that is made of pieces with these entries in them and commas between the pieces. -/
def ListsEntries (text : String) (entries : List String) : Prop :=
  ∃ pieces, HoldEntries pieces entries ∧ text = ",".intercalate pieces

section Pieces

variable {pieces entries : List String}

theorem not_isBlank_comma : Text.isBlank ',' = false := by
  decide

theorem HoldEntries.noComma (hold : HoldEntries pieces entries) :
    ∀ piece ∈ pieces, ',' ∉ piece.toList := by
  have notInBlank {blanks : String}
      (areBlank : ∀ character ∈ blanks.toList, Text.isBlank character = true) :
      ',' ∉ blanks.toList := by
    intro member
    have commaBlank := areBlank ',' member
    rw [not_isBlank_comma] at commaBlank
    cases commaBlank
  induction hold with
  | nothing => simp
  | blank isBlank later inductionHypothesis =>
      exact List.forall_mem_cons.2 ⟨notInBlank isBlank, inductionHypothesis⟩
  | entry isEntry beforeBlank afterBlank later inductionHypothesis =>
      refine List.forall_mem_cons.2 ⟨?_, inductionHypothesis⟩
      simp [notInBlank beforeBlank, isEntry.noComma, notInBlank afterBlank]

theorem HoldEntries.isListEntry (hold : HoldEntries pieces entries) :
    ∀ entry ∈ entries, IsListEntry entry := by
  induction hold with
  | nothing => simp
  | blank isBlank later inductionHypothesis => exact inductionHypothesis
  | entry isEntry beforeBlank afterBlank later inductionHypothesis =>
      exact List.forall_mem_cons.2 ⟨isEntry, inductionHypothesis⟩

/-! ### The reading of pieces -/

/-- The entry in a piece, if anything is visible in it. -/
def entryIn? (piece : List Char) : Option String :=
  if Text.trim piece = [] then none else some (String.ofList (Text.trim piece))

theorem listEntries_eq_filterMap (text : String) :
    listEntries text = (text.toList.splitOn ',').filterMap entryIn? := by
  unfold listEntries
  rw [Text.fields_eq_splitOn]
  induction text.toList.splitOn ',' with
  | nil => rfl
  | cons piece pieces inductionHypothesis =>
      rw [List.filterMap_cons, ← inductionHypothesis, entryIn?]
      by_cases nothing : Text.trim piece = []
      · simp [nothing]
      · simp [nothing]

theorem entryIn?_eq_none_iff {piece : List Char} :
    entryIn? piece = none ↔ ∀ character ∈ piece, Text.isBlank character = true := by
  rw [← Text.trim_eq_nil_iff, entryIn?]
  simp

theorem entryIn?_padded {before entry after : String} (isEntry : IsListEntry entry)
    (beforeBlank : ∀ character ∈ before.toList, Text.isBlank character = true)
    (afterBlank : ∀ character ∈ after.toList, Text.isBlank character = true) :
    entryIn? (before ++ entry ++ after).toList = some entry := by
  have trimmed : Text.trim (before ++ entry ++ after).toList = entry.toList := by
    rw [String.toList_append, String.toList_append, Text.trim_append beforeBlank afterBlank,
      isEntry.trimmed.trim_eq]
  rw [entryIn?, trimmed]
  simp [isEntry.visible]

theorem HoldEntries.filterMap_eq (hold : HoldEntries pieces entries) :
    (pieces.map String.toList).filterMap entryIn? = entries := by
  induction hold with
  | nothing => rfl
  | blank isBlank later inductionHypothesis =>
      rw [List.map_cons, List.filterMap_cons_none (entryIn?_eq_none_iff.2 isBlank),
        inductionHypothesis]
  | entry isEntry beforeBlank afterBlank later inductionHypothesis =>
      rw [List.map_cons, List.filterMap_cons_some (entryIn?_padded isEntry beforeBlank afterBlank),
        inductionHypothesis]

/-- Pieces without a comma hold the entries that are read from them. -/
theorem holdEntries_filterMap {fields : List (List Char)}
    (noComma : ∀ field ∈ fields, ',' ∉ field) :
    HoldEntries (fields.map String.ofList) (fields.filterMap entryIn?) := by
  induction fields with
  | nil => exact .nothing
  | cons field fields inductionHypothesis =>
      obtain ⟨fieldNoComma, laterNoComma⟩ := List.forall_mem_cons.1 noComma
      have later := inductionHypothesis laterNoComma
      by_cases nothing : Text.trim field = []
      · have isBlank := Text.trim_eq_nil_iff.1 nothing
        rw [List.filterMap_cons_none (entryIn?_eq_none_iff.2 isBlank)]
        exact .blank (by simpa using isBlank) later
      · obtain ⟨before, after, beforeBlank, afterBlank, cut⟩ := Text.exists_trim field
        have isEntry : IsListEntry (String.ofList (Text.trim field)) := by
          refine ⟨by simpa using nothing, by simpa using Text.isTrimmed_trim field, fun member => ?_⟩
          rw [String.toList_ofList] at member
          apply fieldNoComma
          rw [cut]
          simp [member]
        have spelled : String.ofList field =
            String.ofList before ++ String.ofList (Text.trim field) ++ String.ofList after := by
          apply String.toList_injective
          simpa using cut
        rw [List.filterMap_cons_some (by rw [entryIn?, if_neg nothing]), List.map_cons, spelled]
        exact .entry isEntry (by simpa using beforeBlank) (by simpa using afterBlank) later

end Pieces

/-! ### The reading of a text -/

/-- The entries of a text are the ones that it was written with. -/
theorem listEntries_eq_iff {text : String} {entries : List String} :
    listEntries text = entries ↔ ListsEntries text entries := by
  rw [listEntries_eq_filterMap]
  constructor
  · rintro rfl
    have noComma : ∀ field ∈ text.toList.splitOn ',', ',' ∉ field := by
      intro field isField member
      rw [← Text.fields_eq_splitOn] at isField
      simpa using Text.not_separates_of_mem_fields isField ',' member
    refine ⟨_, holdEntries_filterMap noComma, ?_⟩
    apply String.toList_injective
    rw [String.toList_intercalate, List.map_map]
    simp [Function.comp_def, List.intercalate_splitOn]
  · rintro ⟨pieces, hold, rfl⟩
    by_cases noPieces : pieces = []
    · subst noPieces
      cases hold
      decide
    · have noComma : ∀ field ∈ pieces.map String.toList, ',' ∉ field := by
        simpa using hold.noComma
      rw [String.toList_intercalate]
      have cut := List.splitOn_intercalate ',' noComma (by simpa using noPieces)
      exact (congrArg (List.filterMap entryIn?) cut).trans hold.filterMap_eq

theorem list?_eq_ite (annotations : Annotations) (key : String) :
    annotations.list? key =
      if listEntries (annotations.text key) = [] then none
      else some (listEntries (annotations.text key)) := by
  have ofEmpty : (if (listEntries "").isEmpty then none else some (listEntries "")) = none := by
    decide
  exact (value?_bind ofEmpty annotations key).trans (if_congr List.isEmpty_iff rfl rfl)

theorem list?_eq_some_iff {annotations : Annotations} {key : String} {entries : List String} :
    annotations.list? key = some entries ↔
      entries ≠ [] ∧ ListsEntries (annotations.text key) entries := by
  rw [← listEntries_eq_iff, list?_eq_ite, Option.ite_none_left_eq_some, Option.some.injEq]
  constructor
  · rintro ⟨someEntry, rfl⟩
    exact ⟨someEntry, rfl⟩
  · rintro ⟨someEntry, rfl⟩
    exact ⟨someEntry, rfl⟩

theorem list?_eq_none_iff {annotations : Annotations} {key : String} :
    annotations.list? key = none ↔
      ∀ piece ∈ (annotations.text key).toList.splitOn ',',
        ∀ character ∈ piece, Text.isBlank character = true := by
  rw [← listEntries_eq_nil_iff, list?_eq_ite]
  simp

/-- An annotation gives no list just where its text shows nothing between commas. Otherwise it gives
the entries that it was written with, as they are and in their order, whatever blanks are around them
and wherever pieces without an entry stand. A white list has the source ranges of its annotation, so
it has at least one. -/
theorem comma_lists_survive (annotations : Annotations) :
    (∀ key, annotations.list? key = none ↔
      ∀ piece ∈ (annotations.text key).toList.splitOn ',',
        ∀ character ∈ piece, Text.isBlank character = true) ∧
    (∀ key entries, annotations.list? key = some entries ↔
      entries ≠ [] ∧ ListsEntries (annotations.text key) entries) ∧
    (∀ key entries, annotations.list? key = some entries →
      entries ≠ [] ∧ ∀ entry ∈ entries, IsListEntry entry) ∧
    (∀ key pieces entries, HoldEntries pieces entries → entries ≠ [] →
      (annotations.map.bind fun map => map.get? key) = some (",".intercalate pieces) →
      annotations.list? key = some entries) ∧
    ∀ kind, Directive.ipWhiteList annotations = some kind ↔
      ∃ sourceRange, sourceRange ≠ [] ∧
        ListsEntries (annotations.text Key.whitelistSourceRange) sourceRange ∧
        kind = .ipWhiteList ⟨sourceRange,
          if annotations.flag Key.whitelistXForwardedFor false then some ⟨some 1, none⟩
          else none⟩ := by
  refine ⟨fun key => list?_eq_none_iff, fun key entries => list?_eq_some_iff, ?_, ?_, ?_⟩
  · intro key entries isList
    obtain ⟨someEntry, pieces, hold, -⟩ := list?_eq_some_iff.1 isList
    exact ⟨someEntry, hold.isListEntry⟩
  · intro key pieces entries hold someEntry stored
    have written : annotations.text key = ",".intercalate pieces := by
      rw [text_eq, stored, Option.getD_some]
    exact list?_eq_some_iff.2 ⟨someEntry, pieces, hold, written⟩
  · intro kind
    unfold Directive.ipWhiteList
    constructor
    · intro isMade
      obtain ⟨sourceRange, isList, isKind⟩ := Option.bind_eq_some_iff.1 isMade
      obtain ⟨someRange, lists⟩ := list?_eq_some_iff.1 isList
      exact ⟨sourceRange, someRange, lists, (Option.some.inj isKind).symm⟩
    · rintro ⟨sourceRange, someRange, lists, rfl⟩
      rw [list?_eq_some_iff.2 ⟨someRange, lists⟩]
      rfl

private def padded : Annotations :=
  ⟨some (TextMap.ofList [(Key.whitelistSourceRange, " 10.0.0.0/8,, \t,192.168.0.1/32 ,")])⟩

/-- Blanks around the entries and three pieces without an entry. -/
theorem comma_lists_survive_padded :
    padded.list? Key.whitelistSourceRange = some ["10.0.0.0/8", "192.168.0.1/32"] ∧
      Directive.ipWhiteList padded =
        some (.ipWhiteList ⟨["10.0.0.0/8", "192.168.0.1/32"], none⟩) := by
  have first : IsListEntry "10.0.0.0/8" := ⟨by decide, by decide, by decide⟩
  have second : IsListEntry "192.168.0.1/32" := ⟨by decide, by decide, by decide⟩
  have noBlank : ∀ character ∈ "".toList, Text.isBlank character = true := List.all_eq_true.1 rfl
  have oneBlank : ∀ character ∈ " ".toList, Text.isBlank character = true :=
    List.all_eq_true.1 (by decide)
  have twoBlanks : ∀ character ∈ " \t".toList, Text.isBlank character = true :=
    List.all_eq_true.1 (by decide)
  have hold : HoldEntries [" 10.0.0.0/8", "", " \t", "192.168.0.1/32 ", ""]
      ["10.0.0.0/8", "192.168.0.1/32"] :=
    @HoldEntries.entry " " _ "" _ _ first oneBlank noBlank
      (.blank noBlank (.blank twoBlanks
        (@HoldEntries.entry "" _ " " _ _ second noBlank oneBlank (.blank noBlank .nothing))))
  obtain ⟨-, isList, -, survive, whiteLists⟩ := comma_lists_survive padded
  have listed := survive Key.whitelistSourceRange _ _ hold (by decide) (by decide +kernel)
  refine ⟨listed, (whiteLists _).2 ⟨_, by decide, ((isList _ _).1 listed).2, ?_⟩⟩
  decide +kernel

end TraefikUpgrade.Annotations
