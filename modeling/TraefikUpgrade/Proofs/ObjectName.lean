import TraefikUpgrade.ObjectName
import TraefikUpgrade.Proofs.Text.Run

/-!
Contract: the normal form of a text as part of an object name.

Owns: texts with the same words, the characters of a normal form and where hyphens
stand in it, the texts with one normal form, which are those with the same words,
and the normal form of texts with a gap between them. A normal form has the words of its text, so it is
its own normal form.

Does not own: which texts become parts of names (`TraefikUpgrade.Conversion`).
-/

set_option autoImplicit false

namespace TraefikUpgrade.ObjectName

/-! ### Words -/

theorem areRuns_words (text : String) :
    Text.AreRuns Text.isAlphanumeric text.toList (words text) :=
  Text.areRuns_iff.2 rfl

/-- Two texts have the same sequence of maximal runs of letters and digits. -/
def SameWords (first second : String) : Prop :=
  ∃ found, Text.AreRuns Text.isAlphanumeric first.toList found ∧
    Text.AreRuns Text.isAlphanumeric second.toList found

theorem sameWords_iff {first second : String} :
    SameWords first second ↔ words first = words second := by
  constructor
  · rintro ⟨found, ofFirst, ofSecond⟩
    exact ofFirst.eq_runs.symm.trans ofSecond.eq_runs
  · intro same
    exact ⟨words first, areRuns_words first, same ▸ areRuns_words second⟩

instance (first second : String) : Decidable (SameWords first second) :=
  decidable_of_iff _ sameWords_iff.symm

theorem SameWords.symm {first second : String} (same : SameWords first second) :
    SameWords second first :=
  sameWords_iff.2 (sameWords_iff.1 same).symm

/-- The words of a text are the words of its normal form. -/
theorem areRuns_normalize (text : String) :
    Text.AreRuns Text.isAlphanumeric (normalize text).toList (words text) := by
  rw [normalize, String.toList_ofList]
  exact Text.areRuns_joinWith (by decide) (areRuns_words text).isRun

theorem words_normalize (text : String) : words (normalize text) = words text :=
  (areRuns_normalize text).eq_runs.symm

/-- Two texts have one normal form exactly when they have the same words. -/
theorem normalize_eq_iff {first second : String} :
    normalize first = normalize second ↔ words first = words second := by
  constructor
  · intro sameNormal
    rw [← words_normalize first, sameNormal, words_normalize second]
  · intro sameWords
    rw [normalize, normalize, sameWords]

/-! ### Characters -/

theorem mem_normalize {text : String} {character : Char}
    (member : character ∈ (normalize text).toList) :
    character = '-' ∨ Text.isAlphanumeric character = true := by
  unfold normalize at member
  rw [String.toList_ofList] at member
  rcases Text.mem_joinWith member with isHyphen | ⟨word, isWord, ofWord⟩
  · exact .inl (List.mem_singleton.1 isHyphen)
  · exact .inr (Text.keep_of_mem_runs isWord character ofWord)

/-- Letters, digits and hyphens, with each hyphen between two letters or digits. -/
structure IsNormalForm (text : String) : Prop where
  characters : ∀ character ∈ text.toList,
    character = '-' ∨ Text.isAlphanumeric character = true
  start : text.toList.head? ≠ some '-'
  finish : text.toList.getLast? ≠ some '-'
  single : ¬['-', '-'] <:+: text.toList

theorem isNormalForm_normalize (text : String) : IsNormalForm (normalize text) := by
  have outside : Text.isAlphanumeric '-' = false := by decide
  have areRuns := (areRuns_words text).isRun
  refine ⟨fun character => mem_normalize, ?_, ?_, ?_⟩
  all_goals rw [normalize, String.toList_ofList]
  · exact Text.head?_joinWith_ne outside areRuns
  · exact Text.getLast?_joinWith_ne outside areRuns
  · exact Text.whole_joinWith outside areRuns

/-! ### Texts put together -/

theorem normalize_eq_intercalate (text : String) :
    normalize text = "-".intercalate ((words text).map String.ofList) := by
  apply String.toList_injective
  rw [normalize, String.toList_ofList, Text.joinWith_eq_intercalate, String.toList_intercalate,
    List.map_map]
  simp [Function.comp_def]

theorem normalize_eq_empty_iff {text : String} : normalize text = "" ↔ words text = [] := by
  have noWords : words "" = [] := by decide
  rw [← noWords, ← normalize_eq_iff]
  rfl

theorem words_append_gap_append {gap : String} (someGap : gap ≠ "")
    (outside : ∀ character ∈ gap.toList, Text.isAlphanumeric character = false)
    (first second : String) : words (first ++ gap ++ second) = words first ++ words second := by
  unfold words
  rw [String.toList_append, String.toList_append]
  exact Text.runs_append_gap_append (by simpa using someGap) outside _ _

/-- A gap counts as one hyphen where something stands on both of its sides. -/
theorem normalize_append_gap_append {gap : String} (someGap : gap ≠ "")
    (outside : ∀ character ∈ gap.toList, Text.isAlphanumeric character = false)
    (first second : String) :
    normalize (first ++ gap ++ second) =
      if normalize first = "" then normalize second
      else if normalize second = "" then normalize first
      else normalize first ++ "-" ++ normalize second := by
  rw [normalize_eq_intercalate, words_append_gap_append someGap outside, List.map_append]
  by_cases noFirst : normalize first = ""
  · rw [if_pos noFirst, normalize_eq_empty_iff.1 noFirst, normalize_eq_intercalate]
    rfl
  · by_cases noSecond : normalize second = ""
    · rw [if_neg noFirst, if_pos noSecond, normalize_eq_empty_iff.1 noSecond, List.map_nil,
        List.append_nil, normalize_eq_intercalate]
    · rw [if_neg noFirst, if_neg noSecond, normalize_eq_intercalate first,
        normalize_eq_intercalate second]
      rw [normalize_eq_empty_iff, ← List.map_eq_nil_iff (f := String.ofList)] at noFirst noSecond
      exact String.intercalate_append_of_ne_nil noFirst noSecond

/-- Every text has one list of words, which are its maximal runs of letters and digits, and one normal
form, which holds their characters in order and nothing else but single hyphens between words. A
normal form stays as it is, two texts have one normal form exactly when they have the same words, and
a gap between two texts becomes a hyphen, unless nothing of one of them is left. -/
theorem normal_forms_are_canonical :
    (∀ text, IsNormalForm (normalize text) ∧
      (normalize text).toList.filter Text.isAlphanumeric =
        text.toList.filter Text.isAlphanumeric ∧
      normalize (normalize text) = normalize text) ∧
    (∀ text : String, ∃! found, Text.AreRuns Text.isAlphanumeric text.toList found) ∧
    (∀ (first second : String) (firstWords secondWords : List (List Char)),
      Text.AreRuns Text.isAlphanumeric first.toList firstWords →
      Text.AreRuns Text.isAlphanumeric second.toList secondWords →
      (normalize first = normalize second ↔ firstWords = secondWords)) ∧
    ∀ first gap second : String, gap ≠ "" →
      (∀ character ∈ gap.toList, Text.isAlphanumeric character = false) →
      normalize (first ++ gap ++ second) =
        if normalize first = "" then normalize second
        else if normalize second = "" then normalize first
        else normalize first ++ "-" ++ normalize second := by
  refine ⟨fun text => ⟨isNormalForm_normalize text, ?_, ?_⟩, ?_, ?_, ?_⟩
  · rw [(areRuns_normalize text).filter_eq_flatten, (areRuns_words text).filter_eq_flatten]
  · exact normalize_eq_iff.2 (words_normalize text)
  · exact fun text => ⟨words text, areRuns_words text, fun found => Text.AreRuns.eq_runs⟩
  · intro first second firstWords secondWords ofFirst ofSecond
    rw [ofFirst.eq_runs, ofSecond.eq_runs]
    exact normalize_eq_iff
  · exact fun first gap second someGap outside =>
      normalize_append_gap_append someGap outside first second

/-- A host with a path behind a gap, and another text with the words of the whole. -/
theorem normal_forms_are_canonical_hostPath :
    normalize ("日本.example" ++ "//~" ++ "v1") = "日本-example-v1" ∧
      normalize "/日本..example-v1/" = normalize "日本.example//~v1" := by
  obtain ⟨-, -, sameWords, gaps⟩ := normal_forms_are_canonical
  constructor
  · rw [gaps "日本.example" "//~" "v1" (by decide) (List.forall_iff_forall_mem.1 (by decide))]
    decide +kernel
  · refine (sameWords _ _ ["日本".toList, "example".toList, "v1".toList] _ ?_ ?_).2 rfl
    all_goals exact Text.areRuns_iff.2 (by decide +kernel)

end TraefikUpgrade.ObjectName
