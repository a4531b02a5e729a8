import TraefikUpgrade.Proofs.Conversion.Reference

/-!
Contract: when the suffix of one attempt ends with the suffix of another one.

Owns: the parts of a text between hyphens, how the suffixes of attempts begin in
terms of parts, and what stands in front of a suffix that another suffix ends
with: only a suffix that is made for a route can end with another one, and what
stands in front then begins like the suffix of a route.

Does not own: whose attempts they are
(`TraefikUpgrade.Proofs.Manifest.Uniqueness`).
-/

set_option autoImplicit false

namespace TraefikUpgrade.Conversion

open Kubernetes (Ingress)

/-! ### Parts between hyphens -/

/-- The parts of a text between hyphens; there is always one more than there are hyphens. -/
def parts (text : String) : List String :=
  (text.toList.splitOn '-').map String.ofList

theorem parts_append_hyphen (first second : String) :
    parts (first ++ "-" ++ second) = parts first ++ parts second := by
  have characters : (first ++ "-" ++ second).toList = first.toList ++ '-' :: second.toList := by
    simp
  unfold parts
  rw [characters, ← List.map_append]
  exact congrArg _ (List.splitOnP_append_cons _ _ (by simp))

theorem parts_ne_nil (text : String) : parts text ≠ [] := by
  unfold parts
  rw [Ne, List.map_eq_nil_iff]
  exact List.splitOnP_ne_nil _ _

theorem intercalate_parts (text : String) : "-".intercalate (parts text) = text := by
  apply String.toList_injective
  unfold parts
  rw [String.toList_intercalate, List.map_map]
  simp [Function.comp_def]

/-- A text is another one, or begins with it and goes on after a hyphen. -/
def StartsWithParts (start text : String) : Prop :=
  text = start ∨ ∃ rest, text = start ++ "-" ++ rest

theorem startsWithParts_of_parts {start text : String} {rest : List String}
    (starts : parts text = parts start ++ rest) : StartsWithParts start text := by
  have joined := intercalate_parts text
  rw [starts] at joined
  by_cases nothingMore : rest = []
  · rw [nothingMore, List.append_nil, intercalate_parts] at joined
    exact .inl joined.symm
  · rw [String.intercalate_append_of_ne_nil (parts_ne_nil start) nothingMore,
      intercalate_parts] at joined
    exact .inr ⟨_, joined.symm⟩

/-! ### The parts of suffixes -/

/-- A suffix that an attempt can have: a fixed one, or one that is made for a host and a path. -/
def IsSuffix (suffix : String) : Prop :=
  suffix ∈ generalSuffixes ∨
    ∃ start ∈ routeSuffixes, ∃ host path, suffix = Specification.suffixOf start host path

theorem startsWithParts_suffixOf (start host path : String) :
    StartsWithParts start (Specification.suffixOf start host path) := by
  unfold Specification.suffixOf
  by_cases nothingLeft : ObjectName.normalize (host ++ path) = ""
  · rw [if_pos nothingLeft]
    exact .inl rfl
  · rw [if_neg nothingLeft]
    exact .inr ⟨_, rfl⟩

theorem StartsWithParts.parts_eq {start text : String} (starts : StartsWithParts start text) :
    ∃ rest, parts text = parts start ++ rest := by
  rcases starts with rfl | ⟨rest, rfl⟩
  · exact ⟨[], (List.append_nil _).symm⟩
  · exact ⟨parts rest, parts_append_hyphen start rest⟩

/-- The first parts of suffixes. -/
def leadingParts : List String :=
  ["auth", "headers", "whitelist", "request", "redirect", "strip", "replace"]

theorem head_parts_of_isSuffix {suffix : String} (isSuffix : IsSuffix suffix) :
    ∃ first ∈ leadingParts, ∃ rest, parts suffix = first :: rest := by
  have headOfGeneral : ∀ general ∈ generalSuffixes,
      ∃ first ∈ leadingParts, parts general = first :: (parts general).tail := by
    decide +kernel
  have headOfRoute : ∀ start ∈ routeSuffixes,
      ∃ first ∈ leadingParts, parts start = first :: (parts start).tail := by
    decide +kernel
  rcases isSuffix with isGeneral | ⟨start, isStart, host, path, rfl⟩
  · obtain ⟨first, isLeading, cut⟩ := headOfGeneral suffix isGeneral
    exact ⟨first, isLeading, _, cut⟩
  · obtain ⟨first, isLeading, cut⟩ := headOfRoute start isStart
    obtain ⟨rest, starts⟩ := (startsWithParts_suffixOf start host path).parts_eq
    rw [cut] at starts
    exact ⟨first, isLeading, _, starts⟩

/-! ### A suffix that ends with another one -/

theorem not_leading_after_first :
    ∀ whole ∈ generalSuffixes ++ routeSuffixes, ∀ part ∈ (parts whole).tail,
      part ∉ leadingParts := by
  decide +kernel

/-- Only the first part of a fixed suffix can begin a suffix. -/
theorem front_eq_nil_of_append {whole : String} {front behind : List String} {first : String}
    (isWhole : whole ∈ generalSuffixes ++ routeSuffixes) (isLeading : first ∈ leadingParts)
    (cut : parts whole = front ++ first :: behind) : front = [] := by
  cases front with
  | nil => rfl
  | cons part front =>
      refine absurd isLeading (not_leading_after_first whole isWhole first ?_)
      rw [cut]
      simp

/-- What stands in front of a suffix at the end of another one begins like the suffix of a route. -/
theorem startsWithParts_of_ends {front suffix whole : String} (isWhole : IsSuffix whole)
    (isSuffix : IsSuffix suffix) (ends : whole = front ++ "-" ++ suffix) :
    ∃ start ∈ routeSuffixes, StartsWithParts start front ∧ StartsWithParts start whole := by
  obtain ⟨first, isLeading, behind, suffixParts⟩ := head_parts_of_isSuffix isSuffix
  have wholeParts : parts whole = parts front ++ first :: behind := by
    rw [ends, parts_append_hyphen, suffixParts]
  rcases isWhole with isGeneral | ⟨start, isStart, host, path, isMade⟩
  · have noFront := front_eq_nil_of_append (List.mem_append_left _ isGeneral) isLeading wholeParts
    exact absurd noFront (parts_ne_nil front)
  · have starts := startsWithParts_suffixOf start host path
    rw [← isMade] at starts
    obtain ⟨rest, startParts⟩ := starts.parts_eq
    refine ⟨start, isStart, ?_, starts⟩
    rw [wholeParts] at startParts
    -- the start of the whole reaches into the suffix, or it ends before the suffix begins
    rcases List.append_eq_append_iff.1 startParts with
      ⟨between, inStart, inSuffix⟩ | ⟨rest, inFront, _⟩
    · cases between with
      | nil =>
          have sameParts : parts front = parts start ++ [] := by simpa using inStart.symm
          exact startsWithParts_of_parts sameParts
      | cons part between =>
          obtain rfl : first = part := (List.cons.inj inSuffix).1
          have noFront := front_eq_nil_of_append (List.mem_append_right _ isStart) isLeading inStart
          exact absurd noFront (parts_ne_nil front)
    · exact startsWithParts_of_parts inFront

end TraefikUpgrade.Conversion
