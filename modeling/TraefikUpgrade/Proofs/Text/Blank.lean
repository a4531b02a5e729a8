import Mathlib.Data.List.DropRight
import TraefikUpgrade.Text.Blank

/-!
Contract: the laws of trimming.

Owns: what is left of a text without a run of characters at its start or its
end, the cut of a text behind such a run, and the texts with nothing to trim.

Does not own: which characters are blank.
-/

set_option autoImplicit false

namespace TraefikUpgrade.Text

theorem dropTrailing_eq_rdropWhile (drop : Char → Bool) (text : List Char) :
    dropTrailing drop text = text.rdropWhile drop := rfl

/-! ### Runs at the ends of a text -/

section Runs

variable {inRun : Char → Bool} {run rest : List Char}

theorem head?_dropWhile (inRun : Char → Bool) (text : List Char) :
    ∀ character ∈ (text.dropWhile inRun).head?, inRun character = false := by
  intro character isHead
  have stopped := List.head?_dropWhile_not inRun text
  rw [Option.mem_def.1 isHead] at stopped
  exact stopped

theorem dropWhile_eq_self (stopped : ∀ character ∈ rest.head?, inRun character = false) :
    rest.dropWhile inRun = rest := by
  cases rest with
  | nil => rfl
  | cons character rest => simp [stopped character rfl]

theorem dropWhile_run (isRun : ∀ character ∈ run, inRun character = true)
    (stopped : ∀ character ∈ rest.head?, inRun character = false) :
    (run ++ rest).dropWhile inRun = rest := by
  rw [List.dropWhile_append_of_pos isRun, dropWhile_eq_self stopped]

theorem takeWhile_run (isRun : ∀ character ∈ run, inRun character = true)
    (stopped : ∀ character ∈ rest.head?, inRun character = false) :
    (run ++ rest).takeWhile inRun = run := by
  rw [List.takeWhile_append_of_pos isRun]
  cases rest with
  | nil => simp
  | cons character rest => simp [stopped character rfl]

theorem dropTrailing_eq_self (stopped : ∀ character ∈ rest.getLast?, inRun character = false) :
    dropTrailing inRun rest = rest := by
  unfold dropTrailing
  rw [dropWhile_eq_self (by simpa using stopped), List.reverse_reverse]

theorem dropTrailing_append_run (isRun : ∀ character ∈ run, inRun character = true)
    (text : List Char) : dropTrailing inRun (text ++ run) = dropTrailing inRun text := by
  unfold dropTrailing
  rw [List.reverse_append, List.dropWhile_append_of_pos (by simpa using isRun)]

theorem getLast?_dropTrailing (inRun : Char → Bool) (text : List Char) :
    ∀ character ∈ (dropTrailing inRun text).getLast?, inRun character = false := by
  unfold dropTrailing
  rw [List.getLast?_reverse]
  exact head?_dropWhile inRun text.reverse

theorem exists_dropTrailing (inRun : Char → Bool) (text : List Char) :
    ∃ run, (∀ character ∈ run, inRun character = true) ∧ text = dropTrailing inRun text ++ run := by
  refine ⟨text.rtakeWhile inRun, ?_, ?_⟩
  · exact fun character member => List.mem_rtakeWhile_imp member
  · exact List.rdropWhile_append_rtakeWhile.symm

end Runs

/-! ### Trimming -/

theorem trim_eq_nil_iff {text : List Char} :
    trim text = [] ↔ ∀ character ∈ text, isBlank character = true := by
  unfold trim trimEnd trimStart
  rw [dropTrailing_eq_rdropWhile, List.rdropWhile_eq_nil_iff]
  constructor
  · intro restBlank character member
    rw [← List.takeWhile_append_dropWhile (p := isBlank) (l := text)] at member
    rcases List.mem_append.1 member with member | member
    · exact List.mem_takeWhile_imp member
    · exact restBlank character member
  · intro allBlank character member
    exact allBlank character ((List.dropWhile_sublist _).subset member)

/-- No blank stands at either end of a text. -/
structure IsTrimmed (text : List Char) : Prop where
  first : ∀ character ∈ text.head?, isBlank character = false
  last : ∀ character ∈ text.getLast?, isBlank character = false

theorem IsTrimmed.trim_eq {text : List Char} (trimmed : IsTrimmed text) : trim text = text := by
  unfold trim trimEnd trimStart
  rw [dropWhile_eq_self trimmed.first, dropTrailing_eq_self trimmed.last]

theorem isTrimmed_trim (text : List Char) : IsTrimmed (trim text) := by
  refine ⟨?_, getLast?_dropTrailing isBlank _⟩
  obtain ⟨run, -, cut⟩ := exists_dropTrailing isBlank (trimStart text)
  intro character isHead
  apply head?_dropWhile isBlank text character
  obtain ⟨rest, starts⟩ := List.head?_eq_some_iff.1 (Option.mem_def.1 isHead)
  have starts : dropTrailing isBlank (trimStart text) = character :: rest := starts
  rw [starts] at cut
  unfold trimStart at cut
  rw [cut]
  rfl

instance (text : List Char) : Decidable (IsTrimmed text) :=
  decidable_of_iff (trim text = text) ⟨fun same => same ▸ isTrimmed_trim text, IsTrimmed.trim_eq⟩

/-- Only blanks are cut off. -/
theorem exists_trim (text : List Char) :
    ∃ before after, (∀ character ∈ before, isBlank character = true) ∧
      (∀ character ∈ after, isBlank character = true) ∧ text = before ++ trim text ++ after := by
  obtain ⟨after, afterBlank, cut⟩ := exists_dropTrailing isBlank (trimStart text)
  refine ⟨text.takeWhile isBlank, after, ?_, afterBlank, ?_⟩
  · exact fun character member => List.mem_takeWhile_imp member
  · have cut : trimStart text = trim text ++ after := cut
    rw [List.append_assoc, ← cut]
    exact List.takeWhile_append_dropWhile.symm

/-- Blanks around a text do not count. -/
theorem trim_append {before after : List Char}
    (beforeBlank : ∀ character ∈ before, isBlank character = true)
    (afterBlank : ∀ character ∈ after, isBlank character = true) (text : List Char) :
    trim (before ++ text ++ after) = trim text := by
  unfold trim trimEnd trimStart
  rw [List.append_assoc, List.dropWhile_append_of_pos beforeBlank, List.dropWhile_append]
  by_cases allBlank : text.dropWhile isBlank = []
  · rw [allBlank, List.dropWhile_eq_nil_iff.2 afterBlank]
    simp
  · rw [if_neg (by simpa using allBlank), dropTrailing_append_run afterBlank]

end TraefikUpgrade.Text
