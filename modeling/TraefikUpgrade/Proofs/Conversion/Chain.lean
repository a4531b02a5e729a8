import Mathlib.Data.List.Basic
import TraefikUpgrade.Conversion.Chain

/-!
Contract: what a run of calls makes of a chain.

Owns: the calls that build a chain, the run of a list of calls, the attempts
that a run turns into middlewares, which are the first ones of each suffix, and
where each reference of the result comes from. References and middlewares are
in lock-step: what the attempts have added to one list belongs to the other.

Does not own: which calls an Ingress makes
(`TraefikUpgrade.Proofs.Conversion.Specification`).
-/

set_option autoImplicit false

namespace TraefikUpgrade

/-! ### The first attempt of each suffix -/

namespace Attempt

/-- The attempts without those whose suffix an earlier attempt has. -/
def firstOfEachSuffix (attempts : List Attempt) : List Attempt :=
  attempts.eraseDupsBy fun later earlier => later.suffix == earlier.suffix

theorem firstOfEachSuffix_nil : firstOfEachSuffix [] = [] := rfl

theorem firstOfEachSuffix_cons (attempt : Attempt) (rest : List Attempt) :
    firstOfEachSuffix (attempt :: rest) =
      attempt :: firstOfEachSuffix (rest.filter fun later => later.suffix ≠ attempt.suffix) := by
  unfold firstOfEachSuffix
  rw [List.eraseDupsBy_cons]
  simp

private theorem find?_filter_suffix (excluded wanted : String) (attempts : List Attempt) :
    (attempts.filter fun attempt => attempt.suffix ≠ excluded).find?
        (fun attempt => attempt.suffix = wanted) =
      if excluded = wanted then none
      else attempts.find? fun attempt => attempt.suffix = wanted := by
  rw [List.find?_filter]
  by_cases same : excluded = wanted
  · rw [if_pos same, List.find?_eq_none]
    intro attempt _
    simp [same]
  · rw [if_neg same]
    congr 1
    funext attempt
    by_cases isWanted : attempt.suffix = wanted
    · simp [isWanted, Ne.symm same]
    · simp [isWanted]

/-- An attempt counts exactly when it is the first one with its suffix. -/
theorem mem_firstOfEachSuffix_iff {attempt : Attempt} :
    ∀ {attempts : List Attempt}, attempt ∈ firstOfEachSuffix attempts ↔
      attempts.find? (fun other => other.suffix = attempt.suffix) = some attempt
  | [] => by simp [firstOfEachSuffix_nil]
  | first :: rest => by
      rw [firstOfEachSuffix_cons, List.mem_cons, mem_firstOfEachSuffix_iff, find?_filter_suffix,
        List.find?_cons]
      by_cases same : first.suffix = attempt.suffix
      · rw [if_pos same, decide_eq_true same]
        simp [eq_comm]
      · have noEarlier : attempt ≠ first := fun equal => same (equal ▸ rfl)
        rw [if_neg same, decide_eq_false same, or_iff_right noEarlier]
termination_by attempts => attempts.length
decreasing_by exact Nat.lt_succ_of_le (List.length_filter_le _ _)

theorem mem_of_mem_firstOfEachSuffix {attempt : Attempt} {attempts : List Attempt}
    (isFirst : attempt ∈ firstOfEachSuffix attempts) : attempt ∈ attempts :=
  List.mem_of_find?_eq_some (mem_firstOfEachSuffix_iff.1 isFirst)

theorem firstOfEachSuffix_pairwise :
    ∀ attempts : List Attempt,
      (firstOfEachSuffix attempts).Pairwise fun first second => first.suffix ≠ second.suffix
  | [] => List.Pairwise.nil
  | first :: rest => by
      rw [firstOfEachSuffix_cons]
      refine List.Pairwise.cons ?_ (firstOfEachSuffix_pairwise _)
      intro other member
      have found := mem_of_mem_firstOfEachSuffix member
      have different : other.suffix ≠ first.suffix := by
        simpa using (List.mem_filter.1 found).2
      exact different.symm
termination_by attempts => attempts.length
decreasing_by exact Nat.lt_succ_of_le (List.length_filter_le _ _)

theorem suffixes_nodup (attempts : List Attempt) :
    ((firstOfEachSuffix attempts).map suffix).Nodup := by
  rw [List.Nodup, List.pairwise_map]
  exact firstOfEachSuffix_pairwise attempts

/-- Each suffix of an attempt is still there. -/
theorem mem_suffixes_iff {wanted : String} {attempts : List Attempt} :
    wanted ∈ (firstOfEachSuffix attempts).map suffix ↔ wanted ∈ attempts.map suffix := by
  constructor
  · intro member
    obtain ⟨attempt, isFirst, rfl⟩ := List.mem_map.1 member
    have isAttempt := mem_of_mem_firstOfEachSuffix isFirst
    exact List.mem_map_of_mem isAttempt
  · intro member
    obtain ⟨attempt, isAttempt, rfl⟩ := List.mem_map.1 member
    have found : (attempts.find? fun other => other.suffix = attempt.suffix).isSome := by
      rw [List.find?_isSome]
      exact ⟨attempt, isAttempt, decide_eq_true rfl⟩
    obtain ⟨first, isFirst⟩ := Option.isSome_iff_exists.1 found
    have sameSuffix : first.suffix = attempt.suffix := by simpa using List.find?_some isFirst
    rw [← sameSuffix] at isFirst ⊢
    exact List.mem_map_of_mem (mem_firstOfEachSuffix_iff.2 isFirst)

/-- Later attempts count unless an earlier one has their suffix. -/
theorem firstOfEachSuffix_append :
    ∀ first second : List Attempt, firstOfEachSuffix (first ++ second) =
      firstOfEachSuffix first ++
        firstOfEachSuffix (second.filter fun later => later.suffix ∉ first.map suffix)
  | [], second => by simp [firstOfEachSuffix_nil]
  | attempt :: first, second => by
      have sameRest : (second.filter fun later => later.suffix ≠ attempt.suffix).filter
            (fun later => later.suffix ∉
              (first.filter fun other => other.suffix ≠ attempt.suffix).map suffix) =
          second.filter fun later => later.suffix ∉ (attempt :: first).map suffix := by
        rw [List.filter_filter]
        refine List.filter_congr fun later _ => ?_
        by_cases same : later.suffix = attempt.suffix
        · simp [same]
        · simp only [same, List.mem_map, List.mem_filter, List.map_cons, List.mem_cons]
          grind
      rw [List.cons_append, firstOfEachSuffix_cons, firstOfEachSuffix_cons, List.filter_append,
        firstOfEachSuffix_append _ (second.filter _), sameRest, List.cons_append]
termination_by first => first.length
decreasing_by exact Nat.lt_succ_of_le (List.length_filter_le _ _)

/-- Attempts with different suffixes all count. -/
theorem firstOfEachSuffix_eq_self {attempts : List Attempt}
    (different : (attempts.map suffix).Nodup) : firstOfEachSuffix attempts = attempts := by
  induction attempts with
  | nil => rfl
  | cons attempt rest inductionHypothesis =>
      obtain ⟨notLater, restDifferent⟩ := List.nodup_cons.1 different
      have allKept : rest.filter (fun later => later.suffix ≠ attempt.suffix) = rest := by
        refine List.filter_eq_self.2 fun later isLater => decide_eq_true fun same => notLater ?_
        exact same ▸ List.mem_map_of_mem isLater
      rw [firstOfEachSuffix_cons, allKept, inductionHypothesis restDifferent]

/-- Attempts whose suffixes are there before them can be left out. -/
theorem firstOfEachSuffix_repeated {before repeated : List Attempt}
    (present : ∀ attempt ∈ repeated, attempt.suffix ∈ before.map suffix) (after : List Attempt) :
    firstOfEachSuffix (before ++ (repeated ++ after)) = firstOfEachSuffix (before ++ after) := by
  have noneKept : repeated.filter (fun later => later.suffix ∉ before.map suffix) = [] := by
    refine List.filter_eq_nil_iff.2 fun attempt isRepeated => ?_
    simpa using present attempt isRepeated
  rw [firstOfEachSuffix_append, firstOfEachSuffix_append, List.filter_append, noneKept,
    List.nil_append]

/-- Which suffixes count does not depend on the order of the attempts. -/
theorem suffixes_perm {first second : List Attempt}
    (sameSuffixes : ∀ wanted, wanted ∈ first.map suffix ↔ wanted ∈ second.map suffix) :
    ((firstOfEachSuffix first).map suffix).Perm ((firstOfEachSuffix second).map suffix) := by
  rw [List.perm_ext_iff_of_nodup (suffixes_nodup first) (suffixes_nodup second)]
  intro wanted
  rw [mem_suffixes_iff, mem_suffixes_iff]
  exact sameSuffixes wanted

/-- Where a suffix belongs to one attempt only, all attempts count, and each of them once. -/
theorem mem_firstOfEachSuffix_of_unique {attempts : List Attempt}
    (unique : ∀ first ∈ attempts, ∀ second ∈ attempts,
      first.suffix = second.suffix → first = second) {attempt : Attempt} :
    attempt ∈ firstOfEachSuffix attempts ↔ attempt ∈ attempts := by
  constructor
  · exact mem_of_mem_firstOfEachSuffix
  · intro isAttempt
    obtain ⟨first, isFirst, sameSuffix⟩ :=
      List.mem_map.1 (mem_suffixes_iff.2 (List.mem_map_of_mem isAttempt))
    have firstIsAttempt := mem_of_mem_firstOfEachSuffix isFirst
    rwa [← unique first firstIsAttempt attempt isAttempt sameSuffix]

end Attempt

/-! ### Names and references -/

namespace ChainOwner

/-- The middleware of an attempt. -/
def middleware (owner : ChainOwner) (attempt : Attempt) : Middleware :=
  Middleware.named owner.namespaceName (owner.middlewareName attempt.suffix) attempt.kind

/-- The reference to a middleware. -/
def referenceTo (owner : ChainOwner) (middleware : Middleware) : String :=
  owner.reference middleware.name

@[simp] theorem name_middleware (owner : ChainOwner) (attempt : Attempt) :
    (owner.middleware attempt).name = owner.middlewareName attempt.suffix := rfl

theorem middlewareName_injective (owner : ChainOwner) :
    Function.Injective owner.middlewareName := by
  intro first second equal
  apply String.toList_injective
  simpa [middlewareName] using congrArg String.toList equal

theorem toList_reference (owner : ChainOwner) (name : String) :
    (owner.reference name).toList =
      owner.namespaceName.toList ++ '-' :: name.toList ++ '@' :: owner.provider.toList := by
  have pieces : owner.reference name =
      owner.namespaceName ++ "-" ++ name ++ "@" ++ owner.provider := rfl
  simp [pieces]

theorem reference_injective (owner : ChainOwner) : Function.Injective owner.reference := by
  intro first second equal
  apply String.toList_injective
  have equalLists := congrArg String.toList equal
  simpa [toList_reference] using equalLists

end ChainOwner

/-! ### Runs of calls -/

namespace Chain

/-- What is asked of a chain while it is built. -/
inductive Call where
  | reference (text : String)
  | push (attempt : Attempt)
deriving DecidableEq, Repr

/-- The attempt of a call, if it makes one. -/
def Call.attempt? : Call → Option Attempt
  | .reference _ => none
  | .push attempt => some attempt

/-- The attempts of a list of calls, in order. -/
def attempted (calls : List Call) : List Attempt :=
  calls.filterMap Call.attempt?

/-- The chain after one call. -/
def step (owner : ChainOwner) (chain : Chain) : Call → Chain
  | .reference text => chain.addReference text
  | .push attempt => (push owner chain attempt).value

/-- The chain after a list of calls. -/
def run (owner : ChainOwner) : Chain → List Call → Chain
  | chain, [] => chain
  | chain, call :: rest => run owner (step owner chain call) rest

variable (owner : ChainOwner)

theorem step_push_of_hasName {chain : Chain} {attempt : Attempt}
    (taken : chain.hasName (owner.middlewareName attempt.suffix) = true) :
    step owner chain (.push attempt) = chain := by
  simp [step, push, taken]

theorem step_push_of_not_hasName {chain : Chain} {attempt : Attempt}
    (free : chain.hasName (owner.middlewareName attempt.suffix) = false) :
    step owner chain (.push attempt) =
      ⟨chain.references ++ [owner.referenceTo (owner.middleware attempt)],
        chain.middlewares ++ [owner.middleware attempt]⟩ := by
  simp only [step, push, free]
  rfl

theorem run_append (chain : Chain) (first second : List Call) :
    run owner chain (first ++ second) = run owner (run owner chain first) second := by
  induction first generalizing chain with
  | nil => rfl
  | cons call rest inductionHypothesis => exact inductionHypothesis (step owner chain call)

theorem pushAll_value (chain : Chain) (attempts : List Attempt) :
    (pushAll owner chain attempts).value = run owner chain (attempts.map .push) := by
  induction attempts generalizing chain with
  | nil => rfl
  | cons attempt rest inductionHypothesis =>
      rw [pushAll, Logged.value_bind, inductionHypothesis]
      rfl

/-! ### The middlewares of a run -/

/-- The attempts whose names no middleware of a chain has. -/
def untaken (chain : Chain) (attempts : List Attempt) : List Attempt :=
  attempts.filter fun attempt => !chain.hasName (owner.middlewareName attempt.suffix)

private theorem untaken_after_push {chain next : Chain} {attempt : Attempt}
    (added : next.middlewares = chain.middlewares ++ [owner.middleware attempt])
    (attempts : List Attempt) :
    untaken owner next attempts =
      (untaken owner chain attempts).filter fun later => later.suffix ≠ attempt.suffix := by
  unfold untaken
  rw [List.filter_filter]
  congr 1
  funext later
  have sameName : owner.middlewareName attempt.suffix = owner.middlewareName later.suffix ↔
      attempt.suffix = later.suffix := owner.middlewareName_injective.eq_iff
  simp [hasName, added, sameName, Bool.and_comm, eq_comm]

/-- A run adds the middlewares of the first attempt of each suffix whose name is free. -/
theorem middlewares_run (chain : Chain) (calls : List Call) :
    (run owner chain calls).middlewares =
      chain.middlewares ++
        (Attempt.firstOfEachSuffix (untaken owner chain (attempted calls))).map
          owner.middleware := by
  -- the chain is general, so that a name taken by the first call is taken for all others
  induction calls generalizing chain with
  | nil => simp [run, attempted, untaken, Attempt.firstOfEachSuffix_nil]
  | cons call rest inductionHypothesis =>
      rw [run, inductionHypothesis]
      cases call with
      | reference text => rfl
      | push attempt =>
          have attemptedCons : attempted (.push attempt :: rest) = attempt :: attempted rest := rfl
          rw [attemptedCons]
          cases taken : chain.hasName (owner.middlewareName attempt.suffix) with
          | true =>
              rw [step_push_of_hasName owner taken]
              simp [untaken, taken]
          | false =>
              rw [step_push_of_not_hasName owner taken, untaken_after_push owner rfl]
              have kept : untaken owner chain (attempt :: attempted rest) =
                  attempt :: untaken owner chain (attempted rest) := by
                simp [untaken, taken]
              rw [kept, Attempt.firstOfEachSuffix_cons]
              simp

theorem middlewares_run_empty (calls : List Call) :
    (run owner empty calls).middlewares =
      (Attempt.firstOfEachSuffix (attempted calls)).map owner.middleware := by
  rw [middlewares_run]
  simp [empty, untaken, hasName]

theorem names_nodup_run (calls : List Call) :
    ((run owner empty calls).middlewares.map Middleware.name).Nodup := by
  rw [middlewares_run_empty, List.map_map, List.Nodup, List.pairwise_map]
  refine (Attempt.firstOfEachSuffix_pairwise _).imp ?_
  intro first second different equal
  exact different (owner.middlewareName_injective equal)

/-! ### Where references come from -/

/-- What has added a reference to a chain. -/
inductive Origin where
  /-- It was given as it is. -/
  | given
  /-- It came with a middleware. -/
  | generated
deriving DecidableEq, Repr

def Call.origin : Call → Origin
  | .reference _ => .given
  | .push _ => .generated

/-- The references that each call of a run adds, with what has added them. -/
def added : Chain → List Call → List (Origin × String)
  | _, [] => []
  | chain, call :: rest =>
      ((step owner chain call).references.drop chain.references.length).map (Prod.mk call.origin) ++
        added (step owner chain call) rest

/-- The references of one origin. -/
def ofOrigin (origin : Origin) (references : List (Origin × String)) : List String :=
  (references.filter fun reference => reference.1 = origin).map Prod.snd

theorem ofOrigin_append (origin : Origin) (first second : List (Origin × String)) :
    ofOrigin origin (first ++ second) = ofOrigin origin first ++ ofOrigin origin second := by
  simp [ofOrigin]

theorem ofOrigin_same (origin : Origin) (references : List String) :
    ofOrigin origin (references.map (Prod.mk origin)) = references := by
  unfold ofOrigin
  rw [List.filter_map]
  simp [Function.comp_def]

theorem ofOrigin_other {origin other : Origin} (different : other ≠ origin)
    (references : List String) : ofOrigin origin (references.map (Prod.mk other)) = [] := by
  simp [ofOrigin, different]

/-- A call leaves the references as they are or adds one at the end. A reference that comes with a
middleware is the reference to it. -/
theorem step_references (chain : Chain) (call : Call) :
    ∃ new : List String,
      (step owner chain call).references = chain.references ++ new ∧
      (step owner chain call).middlewares.map owner.referenceTo =
        chain.middlewares.map owner.referenceTo ++
          ofOrigin .generated (new.map (Prod.mk call.origin)) := by
  cases call with
  | reference text =>
      refine ⟨[text], rfl, ?_⟩
      rw [Call.origin, ofOrigin_other (by decide)]
      simp [step, addReference]
  | push attempt =>
      cases taken : chain.hasName (owner.middlewareName attempt.suffix) with
      | true => exact ⟨[], by simp [step_push_of_hasName owner taken, ofOrigin]⟩
      | false =>
          refine ⟨[owner.referenceTo (owner.middleware attempt)], ?_⟩
          rw [Call.origin, ofOrigin_same]
          simp [step_push_of_not_hasName owner taken]

/-- The references of a run are those that its calls add, and the generated ones among them are the
references to its middlewares. -/
theorem references_run (chain : Chain) (calls : List Call) :
    (run owner chain calls).references =
        chain.references ++ (added owner chain calls).map Prod.snd ∧
      (run owner chain calls).middlewares.map owner.referenceTo =
        chain.middlewares.map owner.referenceTo ++
          ofOrigin .generated (added owner chain calls) := by
  induction calls generalizing chain with
  | nil => simp [run, added, ofOrigin]
  | cons call rest inductionHypothesis =>
      obtain ⟨new, references, middlewares⟩ := step_references owner chain call
      obtain ⟨restReferences, restMiddlewares⟩ := inductionHypothesis (step owner chain call)
      rw [run, added, restReferences, restMiddlewares, references, middlewares, ofOrigin_append]
      simp [Function.comp_def]

theorem run_empty_references (references : List String) :
    run owner empty (references.map .reference) = ⟨references, []⟩ := by
  have collected (chain : Chain) : run owner chain (references.map .reference) =
      ⟨chain.references ++ references, chain.middlewares⟩ := by
    induction references generalizing chain with
    | nil => simp [run]
    | cons reference rest inductionHypothesis =>
        rw [List.map_cons, run, inductionHypothesis]
        simp [step, addReference]
  exact collected empty

/-- A run that only makes attempts adds nothing but references to middlewares. -/
theorem added_pushes (chain : Chain) (attempts : List Attempt) :
    (added owner chain (attempts.map .push)).map Prod.snd =
      ofOrigin .generated (added owner chain (attempts.map .push)) := by
  have allGenerated : ∀ reference ∈ added owner chain (attempts.map .push),
      reference.1 = Origin.generated := by
    induction attempts generalizing chain with
    | nil => simp [added]
    | cons attempt rest inductionHypothesis =>
        intro reference member
        rw [List.map_cons, added, List.mem_append] at member
        rcases member with new | old
        · obtain ⟨text, _, rfl⟩ := List.mem_map.1 new
          rfl
        · exact inductionHypothesis _ _ old
  unfold ofOrigin
  rw [List.filter_eq_self.2 fun reference member => decide_eq_true (allGenerated reference member)]

/-- The references that are given before any attempt come first, and then those to the
middlewares. -/
theorem references_run_empty (given : List String) (attempts : List Attempt) :
    (run owner empty (given.map .reference ++ attempts.map .push)).references =
      given ++
        (run owner empty (given.map .reference ++ attempts.map .push)).middlewares.map
          owner.referenceTo := by
  rw [run_append, run_empty_references]
  obtain ⟨references, middlewares⟩ := references_run owner ⟨given, []⟩ (attempts.map .push)
  rw [references, middlewares, added_pushes]
  simp

/-! ### The order of the middlewares -/

theorem sortedMiddlewares_perm (chain : Chain) :
    chain.sortedMiddlewares.Perm chain.middlewares :=
  List.mergeSort_perm _ _

theorem sortedMiddlewares_pairwise {chain : Chain}
    (nodup : (chain.middlewares.map Middleware.name).Nodup) :
    chain.sortedMiddlewares.Pairwise fun first second => first.name < second.name := by
  have ascending : chain.sortedMiddlewares.Pairwise fun first second =>
      decide (first.name ≤ second.name) = true := by
    apply List.pairwise_mergeSort
    · intro first second third firstLe secondLe
      simp only [decide_eq_true_eq] at firstLe secondLe ⊢
      exact String.le_trans firstLe secondLe
    · intro first second
      simpa using String.le_total first.name second.name
  have different : chain.sortedMiddlewares.Pairwise fun first second =>
      first.name ≠ second.name := by
    rw [← List.pairwise_map]
    exact (((sortedMiddlewares_perm chain).map Middleware.name).nodup_iff).2 nodup
  refine (ascending.and different).imp ?_
  rintro first second ⟨firstLe, differ⟩
  refine String.not_le.1 fun secondLe => differ ?_
  exact String.le_antisymm (of_decide_eq_true firstLe) secondLe

section Reordered

variable {first second : Chain} (nodup : (first.middlewares.map Middleware.name).Nodup)

include nodup

/-- The names of the sorted middlewares do not depend on the order in which they came. -/
theorem names_sortedMiddlewares_eq
    (perm : (first.middlewares.map Middleware.name).Perm (second.middlewares.map Middleware.name)) :
    first.sortedMiddlewares.map Middleware.name = second.sortedMiddlewares.map Middleware.name := by
  have firstAscending := sortedMiddlewares_pairwise nodup
  have secondAscending := sortedMiddlewares_pairwise (perm.nodup_iff.1 nodup)
  rw [← List.pairwise_map] at firstAscending secondAscending
  refine List.Perm.eq_of_pairwise ?_ firstAscending secondAscending ?_
  · exact fun name other _ _ below above => absurd above (String.lt_asymm below)
  · exact ((sortedMiddlewares_perm first).map _).trans
      (perm.trans ((sortedMiddlewares_perm second).map _).symm)

theorem sortedMiddlewares_eq_of_perm (perm : first.middlewares.Perm second.middlewares) :
    first.sortedMiddlewares = second.sortedMiddlewares := by
  have secondNodup := (perm.map Middleware.name).nodup_iff.1 nodup
  refine List.Perm.eq_of_pairwise ?_ (sortedMiddlewares_pairwise nodup)
    (sortedMiddlewares_pairwise secondNodup) ?_
  · exact fun middleware other _ _ below above => absurd above (String.lt_asymm below)
  · exact (sortedMiddlewares_perm first).trans (perm.trans (sortedMiddlewares_perm second).symm)

end Reordered

end Chain

end TraefikUpgrade
