import TraefikUpgrade.Text.Segment

/-!
Contract: the laws of cutting and joining text.

Owns: the agreement of fields, joins and occurrences with those of lists in
general, the shape of the fields between pairs of a mark, and the shape of
lines: every line but the last ends with the only line feed in it, and the lines
of a text put together are the text.

Does not own: what a separator is in a given format.
-/

set_option autoImplicit false

namespace TraefikUpgrade.Text

/-! ### Fields, joins and occurrences -/

theorem fields_eq_splitOnP (separates : Char → Bool) (text : List Char) :
    fields separates text = text.splitOnP separates := by
  induction text with
  | nil => rfl
  | cons character rest inductionHypothesis =>
      rw [fields, List.splitOnP_cons_eq_if_modifyHead, inductionHypothesis]
      by_cases isSeparator : separates character
      · rw [if_pos isSeparator, if_pos isSeparator]
      · rw [if_neg isSeparator, if_neg isSeparator]
        obtain ⟨field, following, split⟩ :=
          List.exists_cons_of_ne_nil (List.splitOnP_ne_nil separates rest)
        rw [split]
        rfl

theorem fields_eq_splitOn (mark : Char) (text : List Char) :
    fields (fun character => character = mark) text = text.splitOn mark :=
  fields_eq_splitOnP _ text

theorem joinWith_eq_intercalate (separator : List Char) (pieces : List (List Char)) :
    joinWith separator pieces = separator.intercalate pieces := by
  induction pieces with
  | nil => simp [joinWith]
  | cons piece following inductionHypothesis =>
      cases following with
      | nil => simp [joinWith]
      | cons next following =>
          rw [joinWith, inductionHypothesis, List.intercalate_cons_cons]

theorem not_separates_of_mem_fields {separates : Char → Bool} {text field : List Char}
    (isField : field ∈ fields separates text) :
    ∀ character ∈ field, separates character = false := by
  induction text generalizing field with
  | nil => simp_all [fields]
  | cons character rest inductionHypothesis =>
      rw [fields] at isField
      cases separating : separates character with
      | true =>
          rw [separating, if_pos rfl] at isField
          rcases List.mem_cons.1 isField with empty | later
          · simp [empty]
          · exact inductionHypothesis later
      | false =>
          rw [separating, if_neg Bool.false_ne_true] at isField
          split at isField
          · simp_all
          · rename_i first following fieldsOfRest
            rcases List.mem_cons.1 isField with isFirst | later
            · have ofFirst := inductionHypothesis (fieldsOfRest ▸ List.mem_cons_self)
              simpa [isFirst, separating] using ofFirst
            · exact inductionHypothesis (fieldsOfRest ▸ List.mem_cons_of_mem _ later)

theorem keep_of_mem_runs {keep : Char → Bool} {text run : List Char}
    (isRun : run ∈ runs keep text) : ∀ character ∈ run, keep character = true := by
  intro character member
  have isField := (List.mem_filter.1 isRun).1
  simpa using not_separates_of_mem_fields isField character member

theorem mem_joinWith {separator : List Char} {pieces : List (List Char)} {character : Char}
    (member : character ∈ joinWith separator pieces) :
    character ∈ separator ∨ ∃ piece ∈ pieces, character ∈ piece := by
  induction pieces with
  | nil => cases member
  | cons piece following inductionHypothesis =>
      cases following with
      | nil => exact .inr ⟨piece, List.mem_cons_self, member⟩
      | cons next others =>
          rw [joinWith, List.mem_append, List.mem_append] at member
          rcases member with (ofPiece | ofSeparator) | later
          · exact .inr ⟨piece, List.mem_cons_self, ofPiece⟩
          · exact .inl ofSeparator
          · rcases inductionHypothesis later with ofSeparator | ⟨other, isPiece, ofOther⟩
            · exact .inl ofSeparator
            · exact .inr ⟨other, List.mem_cons_of_mem _ isPiece, ofOther⟩

theorem dropLeading?_isSome (start text : List Char) :
    (dropLeading? start text).isSome ↔ start <+: text := by
  induction start generalizing text with
  | nil => simp [dropLeading?]
  | cons expected start inductionHypothesis =>
      cases text with
      | nil => simp [dropLeading?]
      | cons character rest =>
          rw [dropLeading?, List.cons_prefix_cons]
          by_cases same : expected = character
          · rw [if_pos same, inductionHypothesis rest]
            exact (and_iff_right same).symm
          · rw [if_neg same]
            simp [same]

theorem dropLeading?_eq_some_iff {start text rest : List Char} :
    dropLeading? start text = some rest ↔ text = start ++ rest := by
  induction start generalizing text with
  | nil => simp [dropLeading?]
  | cons expected start inductionHypothesis =>
      cases text with
      | nil => simp [dropLeading?]
      | cons character others =>
          rw [dropLeading?]
          by_cases same : expected = character
          · rw [if_pos same, inductionHypothesis, same]
            simp
          · rw [if_neg same]
            simp [Ne.symm same]

theorem cutAtFirst_eq_some_iff {mark : Char} {text before after : List Char} :
    cutAtFirst mark text = some (before, after) ↔ text = before ++ mark :: after ∧ mark ∉ before := by
  induction text generalizing before with
  | nil => simp [cutAtFirst]
  | cons character rest inductionHypothesis =>
      rw [cutAtFirst]
      by_cases isMark : character = mark
      · rw [if_pos isMark, Option.some.injEq, Prod.mk.injEq]
        cases before with
        | nil => simp [isMark]
        | cons first before =>
            refine iff_of_false (by simp) ?_
            rintro ⟨starts, noMark⟩
            obtain rfl := (List.cons.inj starts).1
            exact noMark (isMark ▸ List.mem_cons_self)
      · rw [if_neg isMark]
        cases before with
        | nil => simp [isMark]
        | cons first before =>
            simp only [Option.map_eq_some_iff, Prod.mk.injEq, List.cons.injEq, Prod.exists,
              List.cons_append, List.mem_cons, not_or]
            constructor
            · rintro ⟨start, behind, cut, ⟨rfl, rfl⟩, rfl⟩
              obtain ⟨rfl, noMark⟩ := inductionHypothesis.1 cut
              exact ⟨⟨rfl, rfl⟩, Ne.symm isMark, noMark⟩
            · rintro ⟨⟨rfl, cut⟩, -, noMark⟩
              exact ⟨before, after, inductionHypothesis.2 ⟨cut, noMark⟩, ⟨rfl, rfl⟩, rfl⟩

theorem hasInfix_iff (part text : List Char) : hasInfix part text ↔ part <:+: text := by
  induction text with
  | nil => simp [hasInfix]
  | cons character rest inductionHypothesis =>
      rw [hasInfix, Bool.or_eq_true, dropLeading?_isSome, inductionHypothesis,
        List.infix_cons_iff]

/-! ### Fields between pairs -/

/-- Texts that are the fields between pairs of a mark: no pair stands in one, and where another one
follows the mark does not stand at the end, so that the first pair behind a field is the one that
ends it. -/
inductive ArePairFields (mark : Char) : List (List Char) → Prop where
  | last {field : List Char} (whole : ¬[mark, mark] <:+: field) : ArePairFields mark [field]
  | ended {field : List Char} {following : List (List Char)} (whole : ¬[mark, mark] <:+: field)
      (clear : field.getLast? ≠ some mark) (rest : ArePairFields mark following) :
      ArePairFields mark (field :: following)

section Pairs

variable {mark : Char} {field : List Char}

private theorem fieldsBetweenPairs_cons {first : Char} {text field : List Char} {following : List (List Char)}
    (noPair : ¬(first = mark ∧ text.head? = some mark)) (fields : fieldsBetweenPairs mark text = field :: following) :
    fieldsBetweenPairs mark (first :: text) = (first :: field) :: following := by
  cases text with
  | nil =>
      obtain ⟨rfl, rfl⟩ := List.cons.inj fields
      rfl
  | cons second rest =>
      have noPair : ¬(first = mark ∧ second = mark) := by simpa using noPair
      rw [fieldsBetweenPairs, if_neg (by simpa using noPair), fields]

theorem whole_cons_iff {character : Char} :
    ¬[mark, mark] <:+: character :: field ↔
      ¬(character = mark ∧ field.head? = some mark) ∧ ¬[mark, mark] <:+: field := by
  rw [List.infix_cons_iff, not_or, List.cons_prefix_cons]
  cases field with
  | nil => simp
  | cons second rest => simp [List.cons_prefix_cons, eq_comm]

/-- A pair does not reach across another character. -/
theorem whole_append {other : Char} {rest : List Char} (differs : other ≠ mark)
    (whole : ¬[mark, mark] <:+: field) (restWhole : ¬[mark, mark] <:+: rest) :
    ¬[mark, mark] <:+: field ++ other :: rest := by
  induction field with
  | nil => exact whole_cons_iff.2 ⟨by simp [differs], restWhole⟩
  | cons character field inductionHypothesis =>
      obtain ⟨noPair, fieldWhole⟩ := whole_cons_iff.1 whole
      refine whole_cons_iff.2 ⟨?_, inductionHypothesis fieldWhole⟩
      cases field with
      | nil => simp [differs]
      | cons second field => simpa using noPair

theorem whole_append_of_not_mem {rest : List Char} (noMark : mark ∉ field)
    (restWhole : ¬[mark, mark] <:+: rest) : ¬[mark, mark] <:+: field ++ rest := by
  induction field with
  | nil => exact restWhole
  | cons character field inductionHypothesis =>
      obtain ⟨differs, noMarkLater⟩ := not_or.1 (mt List.mem_cons.2 noMark)
      exact whole_cons_iff.2 ⟨fun isPair => differs isPair.1.symm, inductionHypothesis noMarkLater⟩

theorem fieldsBetweenPairs_last (whole : ¬[mark, mark] <:+: field) :
    fieldsBetweenPairs mark field = [field] := by
  induction field with
  | nil => rfl
  | cons character rest inductionHypothesis =>
      obtain ⟨noPair, restWhole⟩ := whole_cons_iff.1 whole
      exact fieldsBetweenPairs_cons noPair (inductionHypothesis restWhole)

theorem fieldsBetweenPairs_ended (whole : ¬[mark, mark] <:+: field)
    (clear : field.getLast? ≠ some mark) (text : List Char) :
    fieldsBetweenPairs mark (field ++ mark :: mark :: text) =
      field :: fieldsBetweenPairs mark text := by
  induction field with
  | nil => simp [fieldsBetweenPairs]
  | cons character rest inductionHypothesis =>
      obtain ⟨noPair, restWhole⟩ := whole_cons_iff.1 whole
      cases rest with
      | nil =>
          have differs : character ≠ mark := by simpa using clear
          exact fieldsBetweenPairs_cons (by simp [differs]) (inductionHypothesis restWhole (by simp))
      | cons second rest =>
          rw [List.getLast?_cons_cons] at clear
          exact fieldsBetweenPairs_cons (by simpa using noPair) (inductionHypothesis restWhole clear)

/-- Fields that neither hold a pair nor end with the mark can stand in front of each other. -/
theorem arePairFields_of_clear {fields : List (List Char)} (present : fields ≠ [])
    (clear : ∀ field ∈ fields, ¬[mark, mark] <:+: field ∧ field.getLast? ≠ some mark) :
    ArePairFields mark fields := by
  induction fields with
  | nil => contradiction
  | cons field following inductionHypothesis =>
      obtain ⟨⟨whole, fieldClear⟩, followingClear⟩ := List.forall_mem_cons.1 clear
      cases following with
      | nil => exact .last whole
      | cons next following => exact .ended whole fieldClear (inductionHypothesis (by simp) followingClear)

theorem ArePairFields.ne_nil {fields : List (List Char)} (areFields : ArePairFields mark fields) :
    fields ≠ [] := by
  cases areFields <;> simp

theorem ArePairFields.fieldsBetweenPairs_joinWith {fields : List (List Char)}
    (areFields : ArePairFields mark fields) :
    fieldsBetweenPairs mark (joinWith [mark, mark] fields) = fields := by
  induction areFields with
  | last whole => exact fieldsBetweenPairs_last whole
  | @ended field following whole clear rest inductionHypothesis =>
      obtain ⟨next, others, rfl⟩ := List.exists_cons_of_ne_nil rest.ne_nil
      rw [joinWith, List.append_assoc, List.cons_append, List.singleton_append,
        fieldsBetweenPairs_ended whole clear, inductionHypothesis]

/-- Where a pair stands in a text, the leftmost one has in front of it a field that it ends. -/
theorem whole_or_exists_ended (mark : Char) (text : List Char) :
    ¬[mark, mark] <:+: text ∨
      ∃ field rest, text = field ++ mark :: mark :: rest ∧ ¬[mark, mark] <:+: field ∧
        field.getLast? ≠ some mark := by
  induction text with
  | nil => exact .inl (by simp)
  | cons character rest inductionHypothesis =>
      by_cases isPair : character = mark ∧ rest.head? = some mark
      · obtain ⟨following, starts⟩ := List.head?_eq_some_iff.1 isPair.2
        exact .inr ⟨[], following, by simp [isPair.1, starts], by simp, by simp⟩
      rcases inductionHypothesis with whole | ⟨field, following, rfl, whole, clear⟩
      · exact .inl (whole_cons_iff.2 ⟨isPair, whole⟩)
      · refine .inr ⟨character :: field, following, rfl, whole_cons_iff.2 ⟨?_, whole⟩, ?_⟩
        · cases field with
          | nil => simp
          | cons first field => simpa using isPair
        · cases field with
          | nil => simpa using isPair
          | cons first field => simpa [List.getLast?_cons_cons] using clear

/-- What is cut at pairs are the fields between them, and the fields put together are the text. -/
theorem areFields_fieldsBetweenPairs (mark : Char) (text : List Char) :
    ArePairFields mark (fieldsBetweenPairs mark text) ∧
      joinWith [mark, mark] (fieldsBetweenPairs mark text) = text := by
  induction counted : text.length using Nat.strongRecOn generalizing text with
  | ind count inductionHypothesis =>
      rcases whole_or_exists_ended mark text with whole | ⟨field, rest, rfl, whole, clear⟩
      · rw [fieldsBetweenPairs_last whole]
        exact ⟨.last whole, rfl⟩
      · have shorter : rest.length < count := by
          rw [← counted, List.length_append, List.length_cons, List.length_cons]
          omega
        obtain ⟨areFields, joined⟩ := inductionHypothesis _ shorter rest rfl
        obtain ⟨next, others, split⟩ := List.exists_cons_of_ne_nil areFields.ne_nil
        rw [fieldsBetweenPairs_ended whole clear]
        refine ⟨.ended whole clear areFields, ?_⟩
        rw [split] at joined ⊢
        rw [joinWith, joined, List.append_assoc]
        rfl

end Pairs
/-! ### Lines -/

/-- Texts that are the lines of a text: each holds one line feed, at its end, except that the last
one may lack it. -/
inductive AreLines : List (List Char) → Prop where
  | nil : AreLines []
  | last {body : List Char} (visible : body ≠ []) (noFeed : '\n' ∉ body) : AreLines [body]
  | ended {body : List Char} {following : List (List Char)} (noFeed : '\n' ∉ body)
      (rest : AreLines following) : AreLines ((body ++ ['\n']) :: following)

theorem areLines_lines (text : List Char) : AreLines (lines text) := by
  induction text with
  | nil => exact .nil
  | cons character rest inductionHypothesis =>
      rw [lines]
      by_cases isFeed : character = '\n'
      · rw [if_pos isFeed, isFeed]
        exact @AreLines.ended [] _ (by simp) inductionHypothesis
      · rw [if_neg isFeed]
        have differs : '\n' ≠ character := fun equal => isFeed equal.symm
        cases linesOfRest : lines rest with
        | nil => exact .last (by simp) (by simpa using differs)
        | cons line following =>
            rw [linesOfRest] at inductionHypothesis
            cases inductionHypothesis with
            | last visible noFeed => exact .last (by simp) (by simp [differs, noFeed])
            | @ended body _ noFeed rest =>
                exact @AreLines.ended (character :: body) _ (by simp [differs, noFeed]) rest

theorem flatten_lines (text : List Char) : (lines text).flatten = text := by
  induction text with
  | nil => rfl
  | cons character rest inductionHypothesis =>
      rw [lines]
      by_cases isFeed : character = '\n'
      · rw [if_pos isFeed, isFeed, List.flatten_cons, inductionHypothesis]
        rfl
      · rw [if_neg isFeed]
        cases linesOfRest : lines rest with
        | nil =>
            rw [linesOfRest] at inductionHypothesis
            simp [← inductionHypothesis]
        | cons line following =>
            rw [linesOfRest] at inductionHypothesis
            simpa using inductionHypothesis

theorem lines_ended_append {body : List Char} (noFeed : '\n' ∉ body) (text : List Char) :
    lines (body ++ '\n' :: text) = (body ++ ['\n']) :: lines text := by
  induction body with
  | nil => simp [lines]
  | cons character rest inductionHypothesis =>
      obtain ⟨differs, noFeedInRest⟩ := not_or.1 (mt List.mem_cons.2 noFeed)
      rw [List.cons_append, lines, if_neg (Ne.symm differs), inductionHypothesis noFeedInRest]
      rfl

theorem lines_last {body : List Char} (visible : body ≠ []) (noFeed : '\n' ∉ body) :
    lines body = [body] := by
  induction body with
  | nil => contradiction
  | cons character rest inductionHypothesis =>
      obtain ⟨differs, noFeedInRest⟩ := not_or.1 (mt List.mem_cons.2 noFeed)
      rw [lines, if_neg (Ne.symm differs)]
      cases rest with
      | nil => rfl
      | cons next rest => rw [inductionHypothesis (by simp) noFeedInRest]

theorem AreLines.lines_flatten {texts : List (List Char)} (areLines : AreLines texts) :
    lines texts.flatten = texts := by
  induction areLines with
  | nil => rfl
  | last visible noFeed => simpa using lines_last visible noFeed
  | ended noFeed _ inductionHypothesis =>
      rw [List.flatten_cons, List.append_assoc, List.singleton_append,
        lines_ended_append noFeed, inductionHypothesis]

theorem lines_eq_nil_iff {text : List Char} : lines text = [] ↔ text = [] := by
  constructor
  · intro noLines
    rw [← flatten_lines text, noLines]
    rfl
  · intro empty
    rw [empty]
    rfl

/-- The lines of a text whose last line is ended come before the lines of what follows it. -/
theorem lines_append {first : List Char} (ended : first.getLast? = some '\n')
    (second : List Char) : lines (first ++ second) = lines first ++ lines second := by
  induction first with
  | nil => simp at ended
  | cons character rest inductionHypothesis =>
      cases rest with
      | nil =>
          have isFeed : character = '\n' := by simpa using ended
          simp [isFeed, lines]
      | cons next rest =>
          rw [List.getLast?_cons_cons] at ended
          rw [List.cons_append, lines, lines, inductionHypothesis ended]
          by_cases isFeed : character = '\n'
          · rw [if_pos isFeed, if_pos isFeed]
            rfl
          · rw [if_neg isFeed, if_neg isFeed]
            have someLine : lines (next :: rest) ≠ [] := by
              rw [Ne, lines_eq_nil_iff]
              simp
            obtain ⟨line, following, linesOfRest⟩ := List.exists_cons_of_ne_nil someLine
            rw [linesOfRest]
            rfl

end TraefikUpgrade.Text
