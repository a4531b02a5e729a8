import Mathlib.Data.List.Basic
import TraefikUpgrade.Proofs.Manifest.Document

/-!
Contract: cutting and joining undo each other.

Owns: runs of lines in a text and when one is maximal, the documents of a text
as its maximal runs that show something, and the two round trips: cutting a
joined list of documents, and joining the documents that were cut from a text.

Does not own: the shape of lines (`TraefikUpgrade.Proofs.Text.Segment`).
-/

set_option autoImplicit false

namespace TraefikUpgrade.Manifest

/-- Some lines of a text that stand next to each other, with those before and after them. -/
structure LineRun where
  before : List (List Char)
  lines : List (List Char)
  after : List (List Char)
deriving DecidableEq, Repr

namespace LineRun

def text (run : LineRun) : String :=
  String.ofList run.lines.flatten

/-- The run with more lines before it. -/
def behind (earlier : List (List Char)) (run : LineRun) : LineRun :=
  { run with before := earlier ++ run.before }

/-- No line of the run separates documents, and it cannot be made longer on either side. -/
structure IsMaximal (lines : List (List Char)) (run : LineRun) : Prop where
  place : lines = run.before ++ run.lines ++ run.after
  someLine : run.lines ≠ []
  unseparated : ∀ line ∈ run.lines, isSeparator line = false
  opened : ∀ line ∈ run.before.getLast?, isSeparator line = true
  closed : ∀ line ∈ run.after.head?, isSeparator line = true

/-! ### The maximal runs of some lines -/

private theorem before_eq_nil {before : List (List Char)}
    (unseparated : ∀ line ∈ before, isSeparator line = false)
    (opened : ∀ line ∈ before.getLast?, isSeparator line = true) : before = [] := by
  rcases List.eq_nil_or_concat before with none | ⟨earlier, last, rfl⟩
  · exact none
  · have separates : isSeparator last = true := opened last (by simp)
    have separatesNot : isSeparator last = false := unseparated last (by simp)
    rw [separates] at separatesNot
    cases separatesNot

private theorem after_eq_nil {after : List (List Char)}
    (unseparated : ∀ line ∈ after, isSeparator line = false)
    (closed : ∀ line ∈ after.head?, isSeparator line = true) : after = [] := by
  cases after with
  | nil => rfl
  | cons first others =>
      have separates : isSeparator first = true := closed first rfl
      have separatesNot : isSeparator first = false := unseparated first (by simp)
      rw [separates] at separatesNot
      cases separatesNot

theorem isMaximal_of_unseparated {lines : List (List Char)} {run : LineRun}
    (unseparated : ∀ line ∈ lines, isSeparator line = false) :
    IsMaximal lines run ↔ lines ≠ [] ∧ run = ⟨[], lines, []⟩ := by
  obtain ⟨before, body, after⟩ := run
  constructor
  · rintro ⟨place, someLine, -, opened, closed⟩
    dsimp only at place someLine opened closed
    have noneBefore : before = [] :=
      before_eq_nil (fun line member => unseparated line (by simp [place, member])) opened
    have noneAfter : after = [] :=
      after_eq_nil (fun line member => unseparated line (by simp [place, member])) closed
    subst noneBefore noneAfter
    rw [List.nil_append, List.append_nil] at place
    subst place
    exact ⟨someLine, rfl⟩
  · rintro ⟨someLine, isWhole⟩
    cases isWhole
    exact ⟨by simp, someLine, unseparated, nofun, nofun⟩

/-- What stands before a separator line makes no difference to the runs behind it. -/
private theorem isMaximal_behind_iff {first rest : List (List Char)} {separating : List Char}
    {later : LineRun} (separates : isSeparator separating = true) :
    IsMaximal (first ++ separating :: rest) (later.behind (first ++ [separating])) ↔
      IsMaximal rest later := by
  have samePlace : first ++ separating :: rest =
        (first ++ [separating] ++ later.before) ++ later.lines ++ later.after ↔
      rest = later.before ++ later.lines ++ later.after := by
    simp
  have sameOpening :
      (∀ line ∈ (first ++ [separating] ++ later.before).getLast?, isSeparator line = true) ↔
        ∀ line ∈ later.before.getLast?, isSeparator line = true := by
    rcases List.eq_nil_or_concat later.before with none | ⟨earlier, last, isConcat⟩
    · simp [none, separates]
    · rw [isConcat, List.concat_eq_append, ← List.append_assoc, List.getLast?_concat,
        List.getLast?_concat]
  constructor
  · rintro ⟨place, someLine, unseparated, opened, closed⟩
    exact ⟨samePlace.1 place, someLine, unseparated, sameOpening.1 opened, closed⟩
  · rintro ⟨place, someLine, unseparated, opened, closed⟩
    exact ⟨samePlace.2 place, someLine, unseparated, sameOpening.2 opened, closed⟩

section Separated

variable {first rest : List (List Char)} {separating : List Char} {run : LineRun}
  (unseparated : ∀ line ∈ first, isSeparator line = false)
  (separates : isSeparator separating = true)

include unseparated separates

/-- A run that starts before the first separator line is all that stands before that line. -/
private theorem eq_first_of_isMaximal
    (maximal : IsMaximal (first ++ separating :: rest) run) {remaining : List (List Char)}
    (starts : first = run.before ++ remaining)
    (goesOn : run.lines ++ run.after = remaining ++ separating :: rest) :
    run = ⟨[], first, separating :: rest⟩ := by
  obtain ⟨before, body, after⟩ := run
  obtain ⟨-, -, bodyUnseparated, opened, closed⟩ := maximal
  dsimp only at starts goesOn bodyUnseparated opened closed
  have noneBefore : before = [] :=
    before_eq_nil (fun line member => unseparated line (by simp [starts, member])) opened
  rw [noneBefore, List.nil_append] at starts
  subst noneBefore starts
  rcases List.append_eq_append_iff.1 goesOn with ⟨missing, isFirst, isAfter⟩ | ⟨extra, isBody, isRest⟩
  · -- the run ends before the separator line, so nothing of the section can be missing
    have noneMissing : missing = [] := by
      refine after_eq_nil (fun line member => unseparated line (by simp [isFirst, member])) ?_
      intro line isHead
      exact closed line (by simp [isAfter, Option.mem_def.1 isHead])
    subst noneMissing
    rw [List.append_nil] at isFirst
    rw [isFirst, isAfter, List.nil_append]
  · -- the run reaches the separator line, which it cannot hold
    have noneExtra : extra = [] := by
      refine after_eq_nil (fun line member => bodyUnseparated line (by simp [isBody, member])) ?_
      intro line isHead
      have firstLine : (extra ++ after).head? = some separating := by rw [← isRest, List.head?_cons]
      rw [List.head?_append, Option.mem_def.1 isHead, Option.some_or] at firstLine
      cases firstLine
      exact separates
    subst noneExtra
    rw [List.nil_append] at isRest
    rw [isBody, ← isRest, List.append_nil]

/-- The maximal runs around a separator line: the section before it, and those after it. -/
theorem isMaximal_append_cons :
    IsMaximal (first ++ separating :: rest) run ↔
      (first ≠ [] ∧ run = ⟨[], first, separating :: rest⟩) ∨
        ∃ later, IsMaximal rest later ∧ run = later.behind (first ++ [separating]) := by
  constructor
  · intro maximal
    have place := maximal.place
    rw [List.append_assoc] at place
    rcases List.append_eq_append_iff.1 place with ⟨skipped, isBefore, isRest⟩ | ⟨remaining, starts, goesOn⟩
    · cases skipped with
      | nil =>
          -- a run that starts at the separator line has no lines
          rw [List.append_nil] at isBefore
          rw [List.nil_append] at isRest
          have starts : first = run.before ++ [] := by rw [isBefore, List.append_nil]
          have isFirst := eq_first_of_isMaximal unseparated separates maximal starts isRest.symm
          have noneBefore : first = [] := by rw [← isBefore, isFirst]
          exact absurd (by rw [isFirst, noneBefore]) maximal.someLine
      | cons line earlier =>
          rw [List.cons_append] at isRest
          obtain ⟨rfl, -⟩ := List.cons.inj isRest
          obtain ⟨before, body, after⟩ := run
          have isLater : (⟨before, body, after⟩ : LineRun) =
              behind (first ++ [separating]) ⟨earlier, body, after⟩ := by
            unfold behind
            rw [List.append_assoc, List.singleton_append, ← isBefore]
          rw [isLater, isMaximal_behind_iff separates] at maximal
          exact .inr ⟨⟨earlier, body, after⟩, maximal, isLater⟩
    · have isFirst := eq_first_of_isMaximal unseparated separates maximal starts goesOn
      refine .inl ⟨?_, isFirst⟩
      have someLine := maximal.someLine
      rw [isFirst] at someLine
      exact someLine
  · rintro (⟨someLine, rfl⟩ | ⟨later, maximal, rfl⟩)
    · refine ⟨by simp, someLine, unseparated, nofun, ?_⟩
      intro line isHead
      cases isHead
      exact separates
    · exact (isMaximal_behind_iff separates).2 maximal

end Separated

/-- What holds of lines without a separator line, and of a section and a separator line before
lines of which it holds, holds of all lines. -/
theorem section_induction {motive : List (List Char) → Prop}
    (last : ∀ lines, (∀ line ∈ lines, isSeparator line = false) → motive lines)
    (next : ∀ first separating rest, (∀ line ∈ first, isSeparator line = false) →
      isSeparator separating = true → motive rest → motive (first ++ separating :: rest))
    (lines : List (List Char)) : motive lines := by
  -- the induction is on the lines and carries the section that is open in front of them, which
  -- grows by each line until a separator line ends it
  have behindSection : ∀ first, (∀ line ∈ first, isSeparator line = false) →
      motive (first ++ lines) := by
    induction lines with
    | nil =>
        intro first unseparated
        rw [List.append_nil]
        exact last first unseparated
    | cons line rest inductionHypothesis =>
        intro first unseparated
        by_cases separates : isSeparator line = true
        · exact next first line rest unseparated separates (inductionHypothesis [] nofun)
        · rw [Bool.not_eq_true] at separates
          have longer : ∀ other ∈ first ++ [line], isSeparator other = false :=
            List.forall_mem_append.2 ⟨unseparated, by simpa using separates⟩
          simpa using inductionHypothesis (first ++ [line]) longer
  exact behindSection [] nofun

/-- The sections of some lines that are not empty are the maximal runs, from the first to the last. -/
theorem exists_maximal (lines : List (List Char)) :
    ∃ runs : List LineRun,
      (∀ run, run ∈ runs ↔ IsMaximal lines run) ∧
      (runs.Pairwise fun earlier later => earlier.before.length < later.before.length) ∧
      runs.map LineRun.lines =
        (lines.splitOnP isSeparator).filter fun run => !run.isEmpty := by
  induction lines using section_induction with
  | last lines unseparated =>
      rw [List.splitOnP_eq_singleton unseparated]
      cases lines with
      | nil => exact ⟨[], by simp [isMaximal_of_unseparated unseparated], .nil, rfl⟩
      | cons line others =>
          exact ⟨[⟨[], line :: others, []⟩], by simp [isMaximal_of_unseparated unseparated],
            List.pairwise_singleton _ _, rfl⟩
  | next first separating rest unseparated separates inductionHypothesis =>
      obtain ⟨runs, areMaximal, ascending, areSections⟩ := inductionHypothesis
      have laterAscending : (runs.map (behind (first ++ [separating]))).Pairwise
          fun earlier later => earlier.before.length < later.before.length := by
        rw [List.pairwise_map]
        exact ascending.imp fun earlier => by simpa [behind] using earlier
      have laterLines : (runs.map (behind (first ++ [separating]))).map LineRun.lines =
          runs.map LineRun.lines := by
        rw [List.map_map]
        rfl
      have isLater (run : LineRun) : run ∈ runs.map (behind (first ++ [separating])) ↔
          ∃ later, IsMaximal rest later ∧ run = later.behind (first ++ [separating]) := by
        simp only [List.mem_map, areMaximal, eq_comm]
      rw [List.splitOnP_append_cons_of_forall_mem unseparated _ separates]
      by_cases noLine : first = []
      · refine ⟨runs.map (behind (first ++ [separating])), ?_, laterAscending, ?_⟩
        · intro run
          rw [isLater, isMaximal_append_cons unseparated separates]
          simp [noLine]
        · rw [laterLines, areSections]
          simp [noLine]
      · refine ⟨⟨[], first, separating :: rest⟩ :: runs.map (behind (first ++ [separating])),
          ?_, ?_, ?_⟩
        · intro run
          rw [List.mem_cons, isLater, isMaximal_append_cons unseparated separates,
            and_iff_right noLine]
        · refine List.Pairwise.cons ?_ laterAscending
          refine List.forall_mem_map.2 fun later _ => ?_
          simp only [behind, List.length_append, List.length_cons, List.length_nil]
          omega
        · rw [List.map_cons, laterLines, areSections]
          simp [noLine]

end LineRun

/-! ### The documents of a text as runs -/

/-- The documents are the texts of the maximal runs of a text that show something, from the first
to the last. -/
def AreVisibleRuns (content : String) (documents : List String) : Prop :=
  ∃ runs : List LineRun,
    (∀ run, run ∈ runs ↔
      LineRun.IsMaximal (Text.lines content.toList) run ∧
        ∃ character ∈ run.text.toList, Text.isBlank character = false) ∧
    (runs.Pairwise fun earlier later => earlier.before.length < later.before.length) ∧
    documents = runs.map LineRun.text

theorem allBlank_eq_false_iff {text : List Char} :
    Text.allBlank text = false ↔ ∃ character ∈ text, Text.isBlank character = false := by
  unfold Text.allBlank
  rw [List.all_eq_false]
  simp only [Bool.not_eq_true]

theorem areVisibleRuns_split (content : String) : AreVisibleRuns content (split content) := by
  obtain ⟨runs, areMaximal, ascending, areSections⟩ :=
    LineRun.exists_maximal (Text.lines content.toList)
  have visibleIsSome (run : List (List Char)) :
      (!Text.allBlank run.flatten && !run.isEmpty) = !Text.allBlank run.flatten := by
    cases run with
    | nil => rfl
    | cons line others => exact Bool.and_true _
  have visibleSections :
      (runs.filter fun run => !Text.allBlank run.lines.flatten).map LineRun.lines =
        ((Text.lines content.toList).splitOnP isSeparator).filter fun run =>
          !Text.allBlank run.flatten := by
    have filtered := congrArg (List.filter fun run => !Text.allBlank run.flatten) areSections
    rw [List.filter_map, List.filter_filter] at filtered
    simp only [visibleIsSome] at filtered
    exact filtered
  refine ⟨runs.filter fun run => !Text.allBlank run.lines.flatten, ?_, ascending.filter _, ?_⟩
  · intro run
    rw [List.mem_filter, areMaximal, Bool.not_eq_true', allBlank_eq_false_iff]
    simp [LineRun.text]
  · calc split content
        = (((Text.lines content.toList).splitOnP isSeparator).filter fun run =>
            !Text.allBlank run.flatten).map (String.ofList ∘ List.flatten) := by
          rw [split, sections_eq_splitOnP, List.filter_map, List.map_map]
          rfl
      _ = _ := by
          rw [← visibleSections, List.map_map]
          rfl

/-! ### Round trips -/

/-- The document with an end on its last line. -/
def ended (document : String) : String :=
  if IsEnded document then document else document ++ "\n"

/-- The documents, where each but the last has got an end on its last line. -/
def endEachButLast (documents : List String) : List String :=
  documents.dropLast.map ended ++ documents.getLast?.toList

theorem toList_ended (document : String) : (ended document).toList = endLine document.toList := by
  unfold ended endLine
  by_cases lastIsFeed : document.toList.getLast? = some '\n'
  · have isEnded : IsEnded document := lastIsFeed
    rw [if_pos isEnded, if_pos lastIsFeed]
  · have isOpen : ¬IsEnded document := lastIsFeed
    rw [if_neg isOpen, if_neg lastIsFeed, String.toList_append]
    rfl

theorem endedButLast_toList (documents : List String) :
    endedButLast (documents.map String.toList) = (endEachButLast documents).map String.toList := by
  induction documents with
  | nil => rfl
  | cons first following inductionHypothesis =>
      cases following with
      | nil => rfl
      | cons second following =>
          rw [List.map_cons, List.map_cons, endedButLast, ← List.map_cons, inductionHypothesis]
          unfold endEachButLast
          rw [List.dropLast_cons_cons, List.getLast?_cons_cons, List.map_cons, List.cons_append,
            List.map_cons, toList_ended]

theorem split_join_eq_endEachButLast {documents : List String}
    (areDocuments : ∀ document ∈ documents, IsDocument document) :
    split (join documents) = endEachButLast documents := by
  rw [split_join_eq areDocuments, endedButLast_toList, List.map_map]
  simp

theorem split_join_split (content : String) : split (join (split content)) = split content :=
  split_join (fun _ member => isDocument_of_mem_split member) (areEndedButLast_split content)

/-- Cutting a joined list gives its documents, with the ends of lines that joining has added.
Cutting a text gives its maximal runs of lines that show something, in their order and to the last
character; joining them and cutting again gives the same documents. -/
theorem cutting_undoes_joining (documents : List String) (content : String) :
    ((∀ document ∈ documents, IsDocument document) →
        split (join documents) = endEachButLast documents) ∧
      (∀ document ∈ split content, IsDocument document) ∧
      AreEndedButLast (split content) ∧
      AreVisibleRuns content (split content) ∧
      split (join (split content)) = split content ∧
      join (split (join (split content))) = join (split content) := by
  refine ⟨split_join_eq_endEachButLast, ?_, areEndedButLast_split content,
    areVisibleRuns_split content, split_join_split content, ?_⟩
  · exact fun document member => isDocument_of_mem_split member
  · rw [split_join_split]

/-- A text with a separator line in front, one with blanks at its end, and a document of blanks. -/
def looseManifest : String :=
  "---\r\na: 1\n---  \n \n---\nb: 2"

theorem cutting_undoes_joining_looseManifest :
    split (join ["a: 1", "b: 2\n", "c: 3"]) = ["a: 1\n", "b: 2\n", "c: 3"] ∧
      split looseManifest = ["a: 1\n", "b: 2"] ∧
      AreVisibleRuns looseManifest (split looseManifest) ∧
      split (join (split looseManifest)) = split looseManifest := by
  have areDocuments : ∀ document ∈ ["a: 1", "b: 2\n", "c: 3"], IsDocument document := by
    decide +kernel
  have endsAdded : endEachButLast ["a: 1", "b: 2\n", "c: 3"] = ["a: 1\n", "b: 2\n", "c: 3"] := by
    decide +kernel
  obtain ⟨cut, -, -, areRuns, again, -⟩ :=
    cutting_undoes_joining ["a: 1", "b: 2\n", "c: 3"] looseManifest
  exact ⟨(cut areDocuments).trans endsAdded, by decide +kernel, areRuns, again⟩

end TraefikUpgrade.Manifest
