import Mathlib.Data.List.Basic
import TraefikUpgrade.Manifest.Document
import TraefikUpgrade.Proofs.Text.Segment

/-!
Contract: the documents of a joined text.

Owns: what the documents of a text look like, and that the documents of a
joined list are the documents of the list, each with the end of its last line
where another one follows.

Does not own: what becomes of a document (`TraefikUpgrade.Proofs.Manifest.Block`).
-/

set_option autoImplicit false

namespace TraefikUpgrade.Manifest

/-- No line of the text separates documents. -/
def IsUnseparated (text : List Char) : Prop :=
  ∀ line ∈ Text.lines text, isSeparator line = false

/-- A text that can stand as a document between separator lines. -/
structure IsDocument (document : String) : Prop where
  visible : Text.allBlank document.toList = false
  unseparated : IsUnseparated document.toList

instance (text : List Char) : Decidable (IsUnseparated text) :=
  inferInstanceAs (Decidable (∀ line ∈ Text.lines text, isSeparator line = false))

instance (document : String) : Decidable (IsDocument document) :=
  decidable_of_iff
    (Text.allBlank document.toList = false ∧ IsUnseparated document.toList)
    ⟨fun ⟨visible, unseparated⟩ => ⟨visible, unseparated⟩,
      fun isDocument => ⟨isDocument.visible, isDocument.unseparated⟩⟩

theorem isDocument_ofList {text : List Char} :
    IsDocument (String.ofList text) ↔ Text.allBlank text = false ∧ IsUnseparated text := by
  constructor
  · rintro ⟨visible, unseparated⟩
    rw [String.toList_ofList] at visible unseparated
    exact ⟨visible, unseparated⟩
  · rintro ⟨visible, unseparated⟩
    refine ⟨?_, ?_⟩
    · rwa [String.toList_ofList]
    · rwa [String.toList_ofList]

/-- The last line of the text has an end. -/
def IsEnded (document : String) : Prop :=
  document.toList.getLast? = some '\n'

instance (document : String) : Decidable (IsEnded document) :=
  inferInstanceAs (Decidable (document.toList.getLast? = some '\n'))

theorem isEnded_ofList {text : List Char} :
    IsEnded (String.ofList text) ↔ text.getLast? = some '\n' := by
  rw [IsEnded, String.toList_ofList]

/-- Every document before the last one has an end on its last line. -/
def AreEndedButLast (documents : List String) : Prop :=
  ∀ document ∈ documents.dropLast, IsEnded document

/-! ### The end of the last line -/

theorem getLast?_endLine (text : List Char) : (endLine text).getLast? = some '\n' := by
  unfold endLine
  by_cases ended : text.getLast? = some '\n'
  · rw [if_pos ended, ended]
  · rw [if_neg ended, List.getLast?_concat]

theorem endLine_append {first second : List Char} (someText : second ≠ []) :
    endLine (first ++ second) = first ++ endLine second := by
  unfold endLine
  rw [List.getLast?_append_of_ne_nil first someText]
  by_cases ended : second.getLast? = some '\n'
  · rw [if_pos ended, if_pos ended]
  · rw [if_neg ended, if_neg ended, List.append_assoc]

theorem isSeparator_concat_feed (line : List Char) :
    isSeparator (line ++ ['\n']) = isSeparator line := by
  have feedIsBlank : Text.isBlank '\n' = true := by decide
  have trimmed : Text.trimEnd (line ++ ['\n']) = Text.trimEnd line := by
    simp [Text.trimEnd, Text.dropTrailing, feedIsBlank]
  rw [isSeparator, trimmed]
  rfl

/-- Ending the last line of a text changes that line only. -/
theorem lines_concat_feed {lines : List (List Char)} (areLines : Text.AreLines lines)
    (someLine : lines ≠ []) (notEnded : lines.flatten.getLast? ≠ some '\n') :
    ∃ before last, lines = before ++ [last] ∧
      Text.lines (lines.flatten ++ ['\n']) = before ++ [last ++ ['\n']] := by
  induction areLines with
  | nil => contradiction
  | @last body visible noFeed =>
      refine ⟨[], body, rfl, ?_⟩
      simpa [Text.lines] using Text.lines_ended_append noFeed []
  | @ended body following noFeed rest inductionHypothesis =>
      have someFollowing : following ≠ [] := by
        intro none
        simp [none] at notEnded
      have followingText : following.flatten ≠ [] := by
        intro empty
        have noLines := rest.lines_flatten
        rw [empty] at noLines
        exact someFollowing noLines.symm
      rw [List.flatten_cons, List.getLast?_append_of_ne_nil _ followingText] at notEnded
      obtain ⟨before, last, linesEq, endedEq⟩ := inductionHypothesis someFollowing notEnded
      refine ⟨(body ++ ['\n']) :: before, last, by rw [linesEq]; rfl, ?_⟩
      rw [List.flatten_cons, List.append_assoc, List.append_assoc, List.singleton_append,
        Text.lines_ended_append noFeed, endedEq]
      rfl

theorem IsUnseparated.endLine {text : List Char} (someText : text ≠ [])
    (unseparated : IsUnseparated text) : IsUnseparated (endLine text) := by
  unfold Manifest.endLine
  by_cases ended : text.getLast? = some '\n'
  · rw [if_pos ended]
    exact unseparated
  · rw [if_neg ended]
    have someLine : Text.lines text ≠ [] := mt Text.lines_eq_nil_iff.1 someText
    obtain ⟨before, last, linesEq, endedEq⟩ :=
      lines_concat_feed (Text.areLines_lines text) someLine (by rwa [Text.flatten_lines])
    rw [Text.flatten_lines] at endedEq
    unfold IsUnseparated at unseparated ⊢
    rw [linesEq] at unseparated
    rw [endedEq]
    intro line member
    rcases List.mem_append.1 member with member | member
    · exact unseparated line (List.mem_append_left _ member)
    · rw [List.mem_singleton.1 member, isSeparator_concat_feed]
      exact unseparated last (by simp)

/-! ### The sections between separator lines -/

theorem sections_eq_splitOnP (lines : List (List Char)) :
    sections lines = (lines.splitOnP isSeparator).map List.flatten := by
  induction lines with
  | nil => rfl
  | cons line rest inductionHypothesis =>
      rw [sections, List.splitOnP_cons_eq_if_modifyHead, inductionHypothesis]
      by_cases separates : isSeparator line
      · rw [if_pos separates, if_pos separates]
        rfl
      · rw [if_neg separates, if_neg separates]
        obtain ⟨run, following, split⟩ :=
          List.exists_cons_of_ne_nil (List.splitOnP_ne_nil isSeparator rest)
        rw [split]
        rfl

theorem sections_of_isUnseparated {text : List Char} (unseparated : IsUnseparated text) :
    sections (Text.lines text) = [text] := by
  rw [sections_eq_splitOnP, List.splitOnP_eq_singleton unseparated]
  simp [Text.flatten_lines]

theorem sections_separator {first : List Char} (ended : first.getLast? = some '\n')
    (unseparated : IsUnseparated first) (second : List Char) :
    sections (Text.lines (first ++ separator ++ '\n' :: second)) =
      first :: sections (Text.lines second) := by
  have separatorLine : Text.lines (separator ++ '\n' :: second) =
      (separator ++ ['\n']) :: Text.lines second :=
    Text.lines_ended_append (by decide) second
  rw [List.append_assoc, Text.lines_append ended, separatorLine, sections_eq_splitOnP,
    List.splitOnP_append_cons_of_forall_mem unseparated _ (by decide), List.map_cons,
    Text.flatten_lines, ← sections_eq_splitOnP]

/-! ### The documents of a joined text -/

/-- The text of a list of documents starts with the first one and goes on with that of the rest. -/
theorem joinCharacters_cons_cons (first : List Char) {second : List Char}
    (someText : second ≠ []) (following : List (List Char)) :
    joinCharacters (first :: second :: following) =
      endLine first ++ separator ++ '\n' :: joinCharacters (second :: following) := by
  have foldAfter : ∀ (start : List Char) (documents : List (List Char)) (joined : List Char),
      joined ≠ [] →
        documents.foldl (fun joined document => endLine joined ++ separator ++ '\n' :: document)
            (start ++ joined) =
          start ++ documents.foldl
            (fun joined document => endLine joined ++ separator ++ '\n' :: document) joined := by
    intro start documents
    induction documents with
    | nil => exact fun _ _ => rfl
    | cons document rest inductionHypothesis =>
        intro joined someJoined
        rw [List.foldl_cons, List.foldl_cons, endLine_append someJoined, List.append_assoc,
          List.append_assoc]
        rw [← List.append_assoc (endLine joined)]
        exact inductionHypothesis _ (by simp)
  have joined := foldAfter (endLine first ++ separator ++ ['\n']) following second someText
  simpa [joinCharacters] using joined

/-- The documents, each but the last with an end on its last line. -/
def endedButLast : List (List Char) → List (List Char)
  | [] => []
  | [document] => [document]
  | document :: next :: following => endLine document :: endedButLast (next :: following)

theorem sections_joinCharacters {documents : List (List Char)} (someDocument : documents ≠ [])
    (someText : ∀ document ∈ documents, document ≠ [])
    (unseparated : ∀ document ∈ documents, IsUnseparated document) :
    sections (Text.lines (joinCharacters documents)) = endedButLast documents := by
  induction documents with
  | nil => contradiction
  | cons first following inductionHypothesis =>
      have firstUnseparated := unseparated first (by simp)
      cases following with
      | nil => exact sections_of_isUnseparated firstUnseparated
      | cons second following =>
          rw [joinCharacters_cons_cons first (someText second (by simp)),
            sections_separator (getLast?_endLine first)
              (firstUnseparated.endLine (someText first (by simp))),
            inductionHypothesis (by simp)
              (fun document member => someText document (List.mem_cons_of_mem _ member))
              (fun document member => unseparated document (List.mem_cons_of_mem _ member))]
          rfl

theorem endedButLast_eq_self {documents : List (List Char)}
    (ended : ∀ document ∈ documents.dropLast, document.getLast? = some '\n') :
    endedButLast documents = documents := by
  induction documents with
  | nil => rfl
  | cons first following inductionHypothesis =>
      cases following with
      | nil => rfl
      | cons second following =>
          rw [List.dropLast_cons_cons] at ended
          rw [endedButLast, endLine, if_pos (ended first (by simp)),
            inductionHypothesis fun document member => ended document (by simp [member])]

theorem IsDocument.toList_ne_nil {document : String} (isDocument : IsDocument document) :
    document.toList ≠ [] := by
  intro empty
  have visible := isDocument.visible
  rw [empty] at visible
  exact absurd visible (by decide)

theorem allBlank_endLine (text : List Char) :
    Text.allBlank (endLine text) = Text.allBlank text := by
  have feedIsBlank : Text.isBlank '\n' = true := by decide
  unfold endLine
  split
  · rfl
  · simp [Text.allBlank, feedIsBlank]

theorem endedButLast_visible {documents : List (List Char)}
    (visible : ∀ document ∈ documents, Text.allBlank document = false) :
    ∀ document ∈ endedButLast documents, Text.allBlank document = false := by
  induction documents with
  | nil => exact visible
  | cons first following inductionHypothesis =>
      cases following with
      | nil => exact visible
      | cons second following =>
          obtain ⟨firstVisible, followingVisible⟩ := List.forall_mem_cons.1 visible
          refine List.forall_mem_cons.2 ⟨?_, inductionHypothesis followingVisible⟩
          rw [allBlank_endLine]
          exact firstVisible

/-- Cutting a joined text gives the documents, each with an end on its last line where another one
follows. -/
theorem split_join_eq {documents : List String}
    (areDocuments : ∀ document ∈ documents, IsDocument document) :
    split (join documents) =
      (endedButLast (documents.map String.toList)).map String.ofList := by
  cases documents with
  | nil => rfl
  | cons first following =>
      have visible : ∀ text ∈ (first :: following).map String.toList,
          Text.allBlank text = false :=
        List.forall_mem_map.2 fun document member => (areDocuments document member).visible
      have sectionsEq :
          sections (Text.lines (joinCharacters ((first :: following).map String.toList))) =
            endedButLast ((first :: following).map String.toList) := by
        refine sections_joinCharacters (by simp) ?_ ?_
        · exact List.forall_mem_map.2 fun document member =>
            (areDocuments document member).toList_ne_nil
        · exact List.forall_mem_map.2 fun document member =>
            (areDocuments document member).unseparated
      have allVisible :
          (endedButLast ((first :: following).map String.toList)).filter
              (fun section_ => !Text.allBlank section_) =
            endedButLast ((first :: following).map String.toList) := by
        apply List.filter_eq_self.2
        intro document member
        simpa using endedButLast_visible visible document member
      rw [split, join, String.toList_ofList, sectionsEq, allVisible]

/-- Cutting a joined text gives the documents back. -/
theorem split_join {documents : List String}
    (areDocuments : ∀ document ∈ documents, IsDocument document)
    (ended : AreEndedButLast documents) : split (join documents) = documents := by
  have alreadyEnded : endedButLast (documents.map String.toList) = documents.map String.toList := by
    apply endedButLast_eq_self
    rw [← List.map_dropLast]
    exact List.forall_mem_map.2 ended
  rw [split_join_eq areDocuments, alreadyEnded, List.map_map]
  simp

/-- A document by itself is the only one of its text. -/
theorem IsDocument.split_eq {document : String} (isDocument : IsDocument document) :
    split document = [document] := by
  have areDocuments : ∀ other ∈ [document], IsDocument other :=
    fun other member => List.mem_singleton.1 member ▸ isDocument
  have ended : AreEndedButLast [document] := by
    intro other member
    cases member
  have joined : join [document] = document := by
    simp [join, joinCharacters]
  have cut := split_join areDocuments ended
  rwa [joined] at cut

/-! ### The documents of any text -/

/-- The runs between separator lines are lines of a text, and only the last run can end without the
end of a line. -/
theorem splitOnP_areLines {lines : List (List Char)} (areLines : Text.AreLines lines)
    (separates : List Char → Bool) :
    (∀ run ∈ lines.splitOnP separates, Text.AreLines run ∧ ∀ line ∈ run, separates line = false) ∧
      ∀ run ∈ (lines.splitOnP separates).dropLast, ∀ line ∈ run, line.getLast? = some '\n' := by
  induction areLines with
  | nil => simp [Text.AreLines.nil]
  | @last body visible noFeed =>
      rw [List.splitOnP_cons_eq_if_modifyHead]
      by_cases isSeparator : separates body
      · simp [isSeparator, Text.AreLines.nil]
      · simp [isSeparator, Text.AreLines.last visible noFeed]
  | @ended body following noFeed rest inductionHypothesis =>
      obtain ⟨runsOk, runsEnded⟩ := inductionHypothesis
      rw [List.splitOnP_cons_eq_if_modifyHead]
      by_cases isSeparator : separates (body ++ ['\n'])
      · rw [if_pos isSeparator]
        rw [List.dropLast_cons_of_ne_nil (List.splitOnP_ne_nil _ _)]
        simp only [List.mem_cons, forall_eq_or_imp]
        exact ⟨⟨⟨.nil, by simp⟩, runsOk⟩, by simp, runsEnded⟩
      · rw [if_neg isSeparator]
        obtain ⟨run, others, split⟩ :=
          List.exists_cons_of_ne_nil (List.splitOnP_ne_nil separates following)
        rw [split] at runsOk runsEnded ⊢
        rw [List.modifyHead_cons]
        simp only [List.mem_cons, forall_eq_or_imp] at runsOk ⊢
        obtain ⟨⟨runLines, runUnseparated⟩, othersOk⟩ := runsOk
        refine ⟨⟨⟨.ended noFeed runLines, by simpa using isSeparator, runUnseparated⟩, othersOk⟩, ?_⟩
        cases others with
        | nil => simp
        | cons next others =>
            rw [List.dropLast_cons_cons] at runsEnded ⊢
            simp only [List.mem_cons, forall_eq_or_imp] at runsEnded ⊢
            exact ⟨⟨by simp, runsEnded.1⟩, runsEnded.2⟩

/-- Each section of a text is free of separator lines, and each but the last one, if there is
anything in it, has an end on its last line. -/
theorem sections_lines (text : List Char) :
    (∀ section_ ∈ sections (Text.lines text), IsUnseparated section_) ∧
      ∀ section_ ∈ (sections (Text.lines text)).dropLast,
        section_ ≠ [] → section_.getLast? = some '\n' := by
  obtain ⟨runsOk, runsEnded⟩ := splitOnP_areLines (Text.areLines_lines text) isSeparator
  rw [sections_eq_splitOnP, ← List.map_dropLast]
  constructor
  · intro section_ member
    obtain ⟨run, runMember, rfl⟩ := List.mem_map.1 member
    obtain ⟨runLines, runUnseparated⟩ := runsOk run runMember
    unfold IsUnseparated
    rw [runLines.lines_flatten]
    exact runUnseparated
  · intro section_ member someText
    obtain ⟨run, runMember, rfl⟩ := List.mem_map.1 member
    have someRun : run ≠ [] := by
      intro empty
      simp [empty] at someText
    have lastEnded := runsEnded run runMember _ (List.getLast_mem someRun)
    have lastText : run.getLast someRun ≠ [] := by
      intro empty
      simp [empty] at lastEnded
    rw [← List.dropLast_append_getLast someRun, List.flatten_append, List.flatten_singleton,
      List.getLast?_append_of_ne_nil _ lastText, lastEnded]

private theorem mem_dropLast_of_mem_dropLast_filter {keep : List Char → Bool}
    {texts : List (List Char)} {text : List Char}
    (member : text ∈ (texts.filter keep).dropLast) : text ∈ texts.dropLast := by
  rcases List.eq_nil_or_concat texts with rfl | ⟨before, last, rfl⟩
  · simp at member
  · rw [List.concat_eq_append] at member ⊢
    rw [List.filter_append] at member
    rw [List.dropLast_concat]
    by_cases kept : keep last
    · rw [List.filter_singleton, kept, cond_true, List.dropLast_concat] at member
      exact List.mem_of_mem_filter member
    · rw [Bool.not_eq_true] at kept
      rw [List.filter_singleton, kept, cond_false, List.append_nil] at member
      exact List.mem_of_mem_filter (List.dropLast_subset _ member)

theorem isDocument_of_mem_split {content document : String}
    (member : document ∈ split content) : IsDocument document := by
  obtain ⟨section_, sectionMember, rfl⟩ := List.mem_map.1 member
  obtain ⟨sectionMember, visible⟩ := List.mem_filter.1 sectionMember
  refine ⟨by simpa using visible, ?_⟩
  rw [String.toList_ofList]
  exact (sections_lines content.toList).1 section_ sectionMember

theorem areEndedButLast_split (content : String) : AreEndedButLast (split content) := by
  intro document member
  have isDocument := isDocument_of_mem_split (List.dropLast_subset _ member)
  rw [split, ← List.map_dropLast] at member
  obtain ⟨section_, sectionMember, rfl⟩ := List.mem_map.1 member
  have someText := isDocument.toList_ne_nil
  unfold IsEnded
  rw [String.toList_ofList] at someText ⊢
  exact (sections_lines content.toList).2 section_
    (mem_dropLast_of_mem_dropLast_filter sectionMember) someText

/-! ### Documents in the place of others -/

theorem AreEndedButLast.tail {document : String} {following : List String}
    (ended : AreEndedButLast (document :: following)) : AreEndedButLast following := by
  intro other member
  cases following with
  | nil => cases member
  | cons next others =>
      refine ended other ?_
      rw [List.dropLast_cons_cons]
      exact List.mem_cons_of_mem _ member

theorem AreEndedButLast.append {first second : List String}
    (firstEnded : ∀ document ∈ first, IsEnded document) (secondEnded : AreEndedButLast second) :
    AreEndedButLast (first ++ second) := by
  intro document member
  rcases List.eq_nil_or_concat second with rfl | ⟨before, last, rfl⟩
  · rw [List.append_nil] at member
    exact firstEnded document (List.dropLast_subset _ member)
  · rw [List.concat_eq_append] at member secondEnded
    rw [← List.append_assoc, List.dropLast_concat] at member
    rcases List.mem_append.1 member with ofFirst | ofBefore
    · exact firstEnded document ofFirst
    · refine secondEnded document ?_
      rw [List.dropLast_concat]
      exact ofBefore

/-- Documents may be replaced by ended ones. -/
theorem AreEndedButLast.flatMap {documents : List String} {replace : String → List String}
    (ended : AreEndedButLast documents)
    (replaced : ∀ document ∈ documents,
      replace document = [document] ∨ ∀ other ∈ replace document, IsEnded other) :
    AreEndedButLast (documents.flatMap replace) := by
  induction documents with
  | nil => exact ended
  | cons document following inductionHypothesis =>
      rw [List.flatMap_cons]
      have followingEnded := inductionHypothesis ended.tail
        fun other member => replaced other (List.mem_cons_of_mem _ member)
      rcases replaced document List.mem_cons_self with alone | othersEnded
      · cases following with
        | nil =>
            rw [alone]
            intro other member
            cases member
        | cons next others =>
            have documentEnded : IsEnded document := by
              refine ended document ?_
              rw [List.dropLast_cons_cons]
              exact List.mem_cons_self
            refine AreEndedButLast.append ?_ followingEnded
            rw [alone]
            intro other member
            rw [List.mem_singleton.1 member]
            exact documentEnded
      · exact AreEndedButLast.append othersEnded followingEnded

end TraefikUpgrade.Manifest
