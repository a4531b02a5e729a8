import TraefikUpgrade.Proofs.Manifest.Block
import TraefikUpgrade.Proofs.Manifest.LineRun
import TraefikUpgrade.Proofs.Yaml.Writer

/-!
Contract: a separator line keeps what stands before it apart from what follows.

Owns: the lines, documents and records of a text with a separator line in it,
and the text of two lists of documents together. The conversion of the whole
is that of the two parts.

Does not own: what becomes of one document (`TraefikUpgrade.Proofs.Manifest.Block`).
-/

set_option autoImplicit false

namespace TraefikUpgrade.Manifest

/-- The text is one line with its end, and the line separates documents. -/
structure IsSeparatorLine (line : String) : Prop where
  oneFeed : ∃ body, '\n' ∉ body ∧ line.toList = body ++ ['\n']
  separates : isSeparator line.toList = true

/-! ### Documents around a separator line -/

section Around

variable {first line : String} (ended : first = "" ∨ IsEnded first)
  (isLine : IsSeparatorLine line)

include ended isLine

theorem lines_around (second : String) :
    Text.lines (first ++ line ++ second).toList =
      Text.lines first.toList ++ line.toList :: Text.lines second.toList := by
  obtain ⟨body, noFeed, lineEq⟩ := isLine.oneFeed
  have fromLine : Text.lines (line.toList ++ second.toList) =
      line.toList :: Text.lines second.toList := by
    rw [lineEq, List.append_assoc]
    exact Text.lines_ended_append noFeed second.toList
  rw [String.toList_append, String.toList_append, List.append_assoc]
  rcases ended with rfl | isEnded
  · exact fromLine
  · rw [Text.lines_append isEnded, fromLine]

theorem split_around (second : String) :
    split (first ++ line ++ second) = split first ++ split second := by
  unfold split
  rw [lines_around ended isLine, sections_eq_splitOnP, List.splitOnP_append_cons _ _ isLine.separates,
    List.map_append, ← sections_eq_splitOnP, ← sections_eq_splitOnP, List.filter_append,
    List.map_append]

end Around

/-! ### Conversion of more documents -/

theorem convertEach_append (convert : String → Logged (List String))
    (first second : List String) :
    convertEach convert (first ++ second) = do
      let converted ← convertEach convert first
      let following ← convertEach convert second
      return converted ++ following := by
  induction first with
  | nil => simp only [convertEach, List.nil_append, pure_bind, bind_pure]
  | cons document rest inductionHypothesis =>
      rw [List.cons_append, convertEach, inductionHypothesis]
      simp only [convertEach, bind_assoc, pure_bind, List.append_assoc]

theorem convert_records (configuration : Configuration) (content : String) :
    (convert configuration content).records =
      (convertedDocuments configuration content).records := by
  unfold convert
  rw [Logged.records_bind, Logged.records_pure, List.append_nil]

/-- No document of the output is empty: it is a document of the input or has been written. -/
theorem ne_empty_of_mem_convertedDocuments {configuration : Configuration}
    {content document : String}
    (member : document ∈ (convertedDocuments configuration content).value) : document ≠ "" := by
  rw [convertedDocuments_value] at member
  unfold blocks at member
  rw [List.flatMap_assoc] at member
  obtain ⟨fragment, isFragment, ofFragment⟩ := List.mem_flatMap.1 member
  rcases documents_of_fragment fragment 1 with alone | areWritten
  · rw [alone] at ofFragment
    rw [List.mem_singleton.1 ofFragment]
    intro empty
    exact (isDocument_of_mem_split isFragment).toList_ne_nil (by rw [empty]; rfl)
  · obtain ⟨item, -, isText⟩ := areWritten document ofFragment
    rw [isText]
    exact Yaml.render_ne_empty item.toValue

/-! ### The text of more documents -/

theorem joinCharacters_ne_nil {documents : List (List Char)} (someDocument : documents ≠ [])
    (someText : ∀ document ∈ documents, document ≠ []) : joinCharacters documents ≠ [] := by
  cases documents with
  | nil => contradiction
  | cons first following =>
      cases following with
      | nil => exact someText first (by simp)
      | cons second following =>
          rw [joinCharacters_cons_cons first (someText second (by simp))]
          simp

theorem joinCharacters_append {first second : List (List Char)} (someFirst : first ≠ [])
    (someSecond : second ≠ []) (someText : ∀ document ∈ first ++ second, document ≠ []) :
    joinCharacters (first ++ second) =
      endLine (joinCharacters first) ++ separator ++ '\n' :: joinCharacters second := by
  induction first with
  | nil => contradiction
  | cons document following inductionHypothesis =>
      cases following with
      | nil =>
          cases second with
          | nil => contradiction
          | cons next others =>
              exact joinCharacters_cons_cons document (someText next (by simp)) others
      | cons next others =>
          have followingText : ∀ other ∈ next :: others ++ second, other ≠ [] :=
            fun other member => someText other (List.mem_cons_of_mem _ member)
          have nextText : next ≠ [] := followingText next (by simp)
          have later := inductionHypothesis (by simp) followingText
          have joinedText : joinCharacters (next :: others) ≠ [] :=
            joinCharacters_ne_nil (by simp) fun other member =>
              followingText other (List.mem_append_left _ member)
          -- only the last line of what is joined so far can lack its end
          have sameStart : endLine
                (endLine document ++ separator ++ '\n' :: joinCharacters (next :: others)) =
              endLine document ++ separator ++ '\n' ::
                endLine (joinCharacters (next :: others)) := by
            have behindStart := @endLine_append (endLine document ++ separator ++ ['\n']) _ joinedText
            simpa using behindStart
          rw [joinCharacters_cons_cons document nextText, sameStart, List.cons_append,
            List.cons_append, joinCharacters_cons_cons document nextText, ← List.cons_append, later]
          simp

section Join

variable {first second : List String}

theorem join_eq_empty_iff (someText : ∀ document ∈ first, document ≠ "") :
    join first = "" ↔ first = [] := by
  constructor
  · intro empty
    by_contra someDocument
    have noCharacters : joinCharacters (first.map String.toList) = [] := by
      have sameList := congrArg String.toList empty
      rwa [join, String.toList_ofList] at sameList
    refine joinCharacters_ne_nil (by simpa using someDocument) ?_ noCharacters
    refine List.forall_mem_map.2 fun document member => ?_
    simpa using someText document member
  · rintro rfl
    rfl

theorem join_append (someFirst : first ≠ []) (someSecond : second ≠ [])
    (someText : ∀ document ∈ first ++ second, document ≠ "") :
    join (first ++ second) = ended (join first) ++ "---\n" ++ join second := by
  apply String.toList_injective
  have areTexts : ∀ text ∈ first.map String.toList ++ second.map String.toList, text ≠ [] := by
    rw [← List.map_append]
    refine List.forall_mem_map.2 fun document member => ?_
    simpa using someText document member
  have joined := joinCharacters_append (by simpa using someFirst) (by simpa using someSecond) areTexts
  simp [join, toList_ended, joined, separator]

end Join

/-- A separator line makes the conversion of a text the conversion of its two parts: the documents
and the records of the first part come before those of the second, and the output is that of both
with a separator line between them, or that of one if the other has none. -/
theorem parts_are_converted_independently (configuration : Configuration)
    (first line second : String) (firstEnded : first = "" ∨ IsEnded first)
    (isLine : IsSeparatorLine line) :
    (convertedDocuments configuration (first ++ line ++ second)).value =
        (convertedDocuments configuration first).value ++
          (convertedDocuments configuration second).value ∧
      (convert configuration (first ++ line ++ second)).records =
        (convert configuration first).records ++ (convert configuration second).records ∧
      (convert configuration (first ++ line ++ second)).value =
        if (convert configuration first).value = "" then (convert configuration second).value
        else if (convert configuration second).value = "" then (convert configuration first).value
        else
          ended (convert configuration first).value ++ "---\n" ++
            (convert configuration second).value := by
  have both : convertedDocuments configuration (first ++ line ++ second) = do
      let converted ← convertedDocuments configuration first
      let following ← convertedDocuments configuration second
      return converted ++ following := by
    unfold convertedDocuments
    rw [split_around firstEnded isLine, convertEach_append]
  have documents : (convertedDocuments configuration (first ++ line ++ second)).value =
      (convertedDocuments configuration first).value ++
        (convertedDocuments configuration second).value := by
    rw [both]
    rfl
  refine ⟨documents, ?_, ?_⟩
  · rw [convert_records, convert_records, convert_records, both]
    simp only [Logged.records_bind, Logged.records_pure, List.append_nil]
  · have firstText : ∀ document ∈ (convertedDocuments configuration first).value, document ≠ "" :=
      fun document => ne_empty_of_mem_convertedDocuments
    have secondText : ∀ document ∈ (convertedDocuments configuration second).value, document ≠ "" :=
      fun document => ne_empty_of_mem_convertedDocuments
    unfold convert
    simp only [Logged.value_bind, Logged.value_pure, documents, join_eq_empty_iff firstText,
      join_eq_empty_iff secondText]
    split
    · rename_i noneFirst
      rw [noneFirst, List.nil_append]
    · rename_i someFirst
      split
      · rename_i noneSecond
        rw [noneSecond, List.append_nil]
      · rename_i someSecond
        exact join_append someFirst someSecond (List.forall_mem_append.2 ⟨firstText, secondText⟩)

/-- A separator line with blanks at its end. -/
def blankEndedLine : String :=
  "---  \r\n"

theorem isSeparatorLine_blankEndedLine : IsSeparatorLine blankEndedLine where
  oneFeed := ⟨['-', '-', '-', ' ', ' ', '\r'], by decide, rfl⟩
  separates := by decide

theorem parts_are_converted_independently_notes :
    (convertedDocuments .default ("kind: Note\n" ++ blankEndedLine ++ "- a\n---\n- b")).value =
        ["kind: Note\n", "- a\n", "- b"] ∧
      (convert .default ("kind: Note\n" ++ blankEndedLine ++ "- a\n---\n- b")).value =
        "kind: Note\n---\n- a\n---\n- b" := by
  have noteDocuments : (convertedDocuments .default "kind: Note\n").value = ["kind: Note\n"] := by
    decide +kernel
  have itemDocuments : (convertedDocuments .default "- a\n---\n- b").value = ["- a\n", "- b"] := by
    decide +kernel
  have noteText : (convert .default "kind: Note\n").value = "kind: Note\n" := by decide +kernel
  have itemText : (convert .default "- a\n---\n- b").value = "- a\n---\n- b" := by decide +kernel
  obtain ⟨documents, -, text⟩ :=
    parts_are_converted_independently .default "kind: Note\n" blankEndedLine "- a\n---\n- b"
      (.inr (by decide)) isSeparatorLine_blankEndedLine
  rw [noteDocuments, itemDocuments] at documents
  rw [noteText, itemText] at text
  exact ⟨documents, text.trans (by decide +kernel)⟩

end TraefikUpgrade.Manifest
