import Mathlib.Data.List.Basic
import TraefikUpgrade.Proofs.Text.Segment

/-!
Contract: the maximal runs of a class of characters in a text.

Owns: when texts are the maximal runs of a text, that every text has exactly one
list of them, and the runs of texts that are put together: a gap keeps the runs
on both of its sides apart, and runs joined by a mark between them are the runs
of what they are joined to.

Does not own: which characters are in a class.
-/

set_option autoImplicit false

namespace TraefikUpgrade.Text

/-- The maximal runs of a class of characters, in order. No character before a run or behind the
last one is in the class, and a run goes on for as long as the characters are in it. -/
inductive AreRuns (keep : Char → Bool) : List Char → List (List Char) → Prop where
  | none {gap : List Char} (outside : ∀ character ∈ gap, keep character = false) :
      AreRuns keep gap []
  | next {gap run rest : List Char} {following : List (List Char)}
      (outside : ∀ character ∈ gap, keep character = false)
      (present : run ≠ []) (inside : ∀ character ∈ run, keep character = true)
      (ended : ∀ character ∈ rest.head?, keep character = false)
      (later : AreRuns keep rest following) :
      AreRuns keep (gap ++ run ++ rest) (run :: following)

section Runs

variable {keep : Char → Bool} {mark : Char} {text gap run : List Char}
  {found : List (List Char)}

/-! ### Runs on both sides of a gap -/

theorem runs_append_cons (outside : keep mark = false) (first second : List Char) :
    runs keep (first ++ mark :: second) = runs keep first ++ runs keep second := by
  unfold runs
  rw [fields_eq_splitOnP, fields_eq_splitOnP, fields_eq_splitOnP,
    List.splitOnP_append_cons _ _ (by simp [outside]), List.filter_append]

theorem runs_gap_append (outside : ∀ character ∈ gap, keep character = false)
    (text : List Char) : runs keep (gap ++ text) = runs keep text := by
  induction gap with
  | nil => rfl
  | cons mark gap inductionHypothesis =>
      obtain ⟨markOutside, gapOutside⟩ := List.forall_mem_cons.1 outside
      have apart := runs_append_cons markOutside [] (gap ++ text)
      rwa [List.nil_append, inductionHypothesis gapOutside] at apart

theorem runs_append_gap_append (someGap : gap ≠ [])
    (outside : ∀ character ∈ gap, keep character = false) (first second : List Char) :
    runs keep (first ++ gap ++ second) = runs keep first ++ runs keep second := by
  obtain ⟨mark, others, rfl⟩ := List.exists_cons_of_ne_nil someGap
  obtain ⟨markOutside, othersOutside⟩ := List.forall_mem_cons.1 outside
  rw [List.append_assoc, List.cons_append, runs_append_cons markOutside,
    runs_gap_append othersOutside]

theorem runs_of_inside (present : run ≠ []) (inside : ∀ character ∈ run, keep character = true) :
    runs keep run = [run] := by
  unfold runs
  rw [fields_eq_splitOnP, List.splitOnP_eq_singleton (by simpa using inside)]
  simp [present]

theorem runs_append_of_ended (present : run ≠ [])
    (inside : ∀ character ∈ run, keep character = true) {rest : List Char}
    (ended : ∀ character ∈ rest.head?, keep character = false) :
    runs keep (run ++ rest) = run :: runs keep rest := by
  cases rest with
  | nil => rw [List.append_nil, runs_of_inside present inside]; rfl
  | cons mark rest =>
      have markOutside : keep mark = false := ended mark rfl
      have restRuns := runs_append_cons markOutside [] rest
      rw [List.nil_append] at restRuns
      rw [runs_append_cons markOutside, runs_of_inside present inside, restRuns]
      rfl

/-! ### The runs of a text -/

theorem AreRuns.eq_runs (areRuns : AreRuns keep text found) : found = runs keep text := by
  induction areRuns with
  | none outside =>
      have nothingBehind := runs_gap_append outside []
      rw [List.append_nil] at nothingBehind
      rw [nothingBehind]
      rfl
  | next outside present inside ended later inductionHypothesis =>
      rw [List.append_assoc, runs_gap_append outside, runs_append_of_ended present inside ended,
        inductionHypothesis]

/-- A character in front of a text lengthens its first run, makes a run of its own or belongs to the
gap before the first run. -/
theorem AreRuns.exists_cons (areRuns : AreRuns keep text found) (character : Char) :
    ∃ longer, AreRuns keep (character :: text) longer := by
  cases inClass : keep character with
  | false =>
      have prepend {gap : List Char} (outside : ∀ character ∈ gap, keep character = false) :
          ∀ other ∈ character :: gap, keep other = false :=
        List.forall_mem_cons.2 ⟨inClass, outside⟩
      cases areRuns with
      | none outside => exact ⟨_, .none (prepend outside)⟩
      | next outside present inside ended later =>
          exact ⟨_, .next (prepend outside) present inside ended later⟩
  | true =>
      have single (ended : ∀ character ∈ text.head?, keep character = false) :
          ∃ longer, AreRuns keep (character :: text) longer :=
        ⟨_, @AreRuns.next keep [] [character] text _ (by simp) (by simp) (by simpa using inClass)
          ended areRuns⟩
      cases areRuns with
      | none outside =>
          exact single fun other isHead => outside other (List.mem_of_mem_head? isHead)
      | @next gap run rest following outside present inside ended later =>
          cases gap with
          | nil =>
              exact ⟨_, @AreRuns.next keep [] (character :: run) rest _ outside (by simp)
                (List.forall_mem_cons.2 ⟨inClass, inside⟩) ended later⟩
          | cons mark gap => exact single (by simpa using outside mark List.mem_cons_self)

theorem areRuns_iff : AreRuns keep text found ↔ found = runs keep text := by
  refine ⟨AreRuns.eq_runs, ?_⟩
  have exists_areRuns : ∃ found, AreRuns keep text found := by
    induction text with
    | nil => exact ⟨[], .none (by simp)⟩
    | cons character rest inductionHypothesis =>
        obtain ⟨found, areRuns⟩ := inductionHypothesis
        exact areRuns.exists_cons character
  obtain ⟨all, areRuns⟩ := exists_areRuns
  rintro rfl
  rwa [← areRuns.eq_runs]

/-- The runs hold the characters of the class in their order. -/
theorem AreRuns.filter_eq_flatten (areRuns : AreRuns keep text found) :
    text.filter keep = found.flatten := by
  induction areRuns with
  | none outside => simpa using outside
  | @next gap run rest following outside present inside ended later inductionHypothesis =>
      have noneOfGap : gap.filter keep = [] := by simpa using outside
      have allOfRun : run.filter keep = run := by simpa using inside
      rw [List.filter_append, List.filter_append, noneOfGap, allOfRun, inductionHypothesis]
      rfl

theorem AreRuns.isRun (areRuns : AreRuns keep text found) :
    ∀ run ∈ found, run ≠ [] ∧ ∀ character ∈ run, keep character = true := by
  induction areRuns with
  | none outside => simp
  | next outside present inside ended later inductionHypothesis =>
      exact List.forall_mem_cons.2 ⟨⟨present, inside⟩, inductionHypothesis⟩

/-! ### Joined runs -/

/-- Runs that are joined by a mark outside their class are the runs of what they make. -/
theorem areRuns_joinWith (outside : keep mark = false)
    (areRuns : ∀ run ∈ found, run ≠ [] ∧ ∀ character ∈ run, keep character = true) :
    AreRuns keep (joinWith [mark] found) found := by
  rw [areRuns_iff]
  induction found with
  | nil => rfl
  | cons run following inductionHypothesis =>
      obtain ⟨⟨present, inside⟩, laterAreRuns⟩ := List.forall_mem_cons.1 areRuns
      cases following with
      | nil => exact (runs_of_inside present inside).symm
      | cons next others =>
          rw [joinWith, List.append_assoc, List.singleton_append, runs_append_cons outside,
            runs_of_inside present inside, ← inductionHypothesis laterAreRuns]
          rfl

section Joined

variable (outside : keep mark = false)
  (areRuns : ∀ run ∈ found, run ≠ [] ∧ ∀ character ∈ run, keep character = true)

include outside areRuns

theorem mark_not_mem_of_areRuns (isRun : run ∈ found) : mark ∉ run := by
  intro member
  have inside := (areRuns run isRun).2 mark member
  rw [outside] at inside
  cases inside

theorem head?_joinWith_ne : (joinWith [mark] found).head? ≠ some mark := by
  cases found with
  | nil => simp [joinWith]
  | cons run following =>
      have noMark := mark_not_mem_of_areRuns outside areRuns List.mem_cons_self
      obtain ⟨character, rest, rfl⟩ := List.exists_cons_of_ne_nil (areRuns run List.mem_cons_self).1
      have differs : character ≠ mark := fun same => noMark (same ▸ List.mem_cons_self)
      cases following <;> simpa [joinWith] using differs

theorem getLast?_joinWith_ne : (joinWith [mark] found).getLast? ≠ some mark := by
  induction found with
  | nil => simp [joinWith]
  | cons run following inductionHypothesis =>
      cases following with
      | nil =>
          have noMark := mark_not_mem_of_areRuns outside areRuns List.mem_cons_self
          exact fun isLast => noMark (List.mem_of_getLast? isLast)
      | cons next others =>
          have laterLast := inductionHypothesis (List.forall_mem_cons.1 areRuns).2
          have someLast : (joinWith [mark] (next :: others)).getLast?.isSome := by
            obtain ⟨character, rest, isNext⟩ :=
              List.exists_cons_of_ne_nil (areRuns next (by simp)).1
            cases others <;> simp [joinWith, isNext]
          rw [joinWith, List.getLast?_append, Option.or_of_isSome someLast]
          exact laterLast

theorem whole_joinWith : ¬[mark, mark] <:+: joinWith [mark] found := by
  induction found with
  | nil => simp [joinWith]
  | cons run following inductionHypothesis =>
      have noMark := mark_not_mem_of_areRuns outside areRuns List.mem_cons_self
      cases following with
      | nil => exact fun pair => noMark (pair.subset List.mem_cons_self)
      | cons next others =>
          have laterAreRuns := (List.forall_mem_cons.1 areRuns).2
          have laterHead := head?_joinWith_ne outside laterAreRuns
          rw [joinWith, List.append_assoc]
          refine whole_append_of_not_mem noMark (whole_cons_iff.2 ⟨?_, ?_⟩)
          · exact fun isPair => laterHead isPair.2
          · exact inductionHypothesis laterAreRuns

end Joined

end Runs

end TraefikUpgrade.Text
