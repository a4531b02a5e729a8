import TraefikUpgrade.Proofs.Conversion.Dependence
import TraefikUpgrade.Proofs.Conversion.Suffix

/-!
Contract: which attempts of an Ingress have one suffix.

Owns: the attempts in which no route has a part and those of the routes, when
the suffixes of two routes are the same, and which attempts count: all of the
first kind, and of the others the first one of each suffix. Where routes have
different normal forms, a suffix belongs to one attempt only.

Does not own: the parts of a suffix (`TraefikUpgrade.Proofs.Conversion.Suffix`).
-/

set_option autoImplicit false

namespace TraefikUpgrade.Conversion

open Kubernetes (Ingress)

/-! ### Suffixes of routes -/

theorem start_eq_of_head {start other : String} (isStart : start ∈ routeSuffixes)
    (isOther : other ∈ routeSuffixes) (sameHead : (parts start).head? = (parts other).head?) :
    start = other := by
  have distinct : ∀ start ∈ routeSuffixes, ∀ other ∈ routeSuffixes,
      (parts start).head? = (parts other).head? → start = other := by decide +kernel
  exact distinct start isStart other isOther sameHead

theorem head?_parts_suffixOf (start host path : String) :
    (parts (Specification.suffixOf start host path)).head? = (parts start).head? := by
  obtain ⟨rest, starts⟩ := (startsWithParts_suffixOf start host path).parts_eq
  obtain ⟨first, others, cut⟩ := List.exists_cons_of_ne_nil (parts_ne_nil start)
  rw [starts, cut]
  rfl

/-- A longer text is no shorter one, so a suffix shows whether anything is left of a route. -/
theorem append_hyphen_ne (start normal : String) : start ++ "-" ++ normal ≠ start := by
  intro equal
  have lengths := congrArg (fun text => text.toList.length) equal
  simp at lengths

theorem normalize_eq_of_suffixOf_eq {start host path otherHost otherPath : String}
    (same : Specification.suffixOf start host path =
      Specification.suffixOf start otherHost otherPath) :
    ObjectName.normalize (host ++ path) = ObjectName.normalize (otherHost ++ otherPath) := by
  unfold Specification.suffixOf at same
  by_cases nothingLeft : ObjectName.normalize (host ++ path) = ""
  · by_cases otherNothingLeft : ObjectName.normalize (otherHost ++ otherPath) = ""
    · rw [nothingLeft, otherNothingLeft]
    · rw [if_pos nothingLeft, if_neg otherNothingLeft] at same
      exact absurd same.symm (append_hyphen_ne start _)
  · by_cases otherNothingLeft : ObjectName.normalize (otherHost ++ otherPath) = ""
    · rw [if_neg nothingLeft, if_pos otherNothingLeft] at same
      exact absurd same (append_hyphen_ne start _)
    · rw [if_neg nothingLeft, if_neg otherNothingLeft] at same
      apply String.toList_injective
      simpa using congrArg String.toList same

/-- Two suffixes of routes are the same exactly when they start alike and the routes have one
normal form. -/
theorem suffixOf_eq_iff {start other : String} (isStart : start ∈ routeSuffixes)
    (isOther : other ∈ routeSuffixes) {host path otherHost otherPath : String} :
    Specification.suffixOf start host path = Specification.suffixOf other otherHost otherPath ↔
      start = other ∧
        ObjectName.normalize (host ++ path) = ObjectName.normalize (otherHost ++ otherPath) := by
  constructor
  · intro same
    have sameHead : (parts start).head? = (parts other).head? := by
      rw [← head?_parts_suffixOf start host path, same, head?_parts_suffixOf]
    obtain rfl := start_eq_of_head isStart isOther sameHead
    exact ⟨rfl, normalize_eq_of_suffixOf_eq same⟩
  · rintro ⟨rfl, sameNormal⟩
    unfold Specification.suffixOf
    rw [sameNormal]

/-- No suffix of a route is a fixed one, although a fixed one can begin it. -/
theorem suffixOf_not_mem_generalSuffixes {start : String} (isStart : start ∈ routeSuffixes)
    (host path : String) : Specification.suffixOf start host path ∉ generalSuffixes := by
  have notBegun : ∀ start ∈ routeSuffixes, ∀ general ∈ generalSuffixes,
      ¬parts start <+: parts general := by decide +kernel
  intro isGeneral
  obtain ⟨rest, starts⟩ := (startsWithParts_suffixOf start host path).parts_eq
  exact notBegun start isStart _ isGeneral ⟨rest, starts.symm⟩

/-! ### Attempts of one suffix -/

/-- The attempts in which no route has a part. -/
def generalAttempts (ingress : Ingress) : List Attempt :=
  Specification.auth ingress ++ Specification.headers ingress ++ Specification.whitelist ingress ++
    Specification.requestModifier ingress ++ Specification.redirect ingress

/-- The attempts for a list of routes. -/
def attemptsFor (ingress : Ingress) (routes : List Route) : List Attempt :=
  routes.flatMap fun route => Specification.ofPath ingress route.host route.path

variable (ingress : Ingress)

theorem attempts_eq :
    Specification.attempts ingress =
      generalAttempts ingress ++ attemptsFor ingress ingress.routes := by
  rw [attempts_routes, Specification.ofAnnotations_value]
  rfl

theorem suffixes_attemptIf (condition : Prop) [Decidable condition] (suffix : String)
    (kind : MiddlewareKind) :
    ((Specification.attemptIf condition suffix kind).map Attempt.suffix).Sublist [suffix] := by
  unfold Specification.attemptIf
  by_cases holds : condition
  · rw [if_pos holds]
    exact .refl _
  · rw [if_neg holds]
    exact List.nil_sublist _

theorem suffixes_requestModifier :
    ((Specification.requestModifier ingress).map Attempt.suffix).Sublist ["request-modifier"] := by
  unfold Specification.requestModifier
  split
  · exact suffixes_attemptIf _ _ _
  · exact List.nil_sublist _

theorem suffixes_generalAttempts :
    ((generalAttempts ingress).map Attempt.suffix).Sublist generalSuffixes := by
  unfold generalAttempts
  simp only [List.map_append]
  exact ((((suffixes_attemptIf _ "auth" _).append (suffixes_attemptIf _ "headers" _)).append
    (suffixes_attemptIf _ "whitelist" _)).append (suffixes_requestModifier ingress)).append
      (suffixes_attemptIf _ "redirect" _)

theorem suffixes_generalAttempts_nodup :
    ((generalAttempts ingress).map Attempt.suffix).Nodup :=
  (suffixes_generalAttempts ingress).nodup (by decide)

theorem suffixes_ofPath (host path : String) :
    ((Specification.ofPath ingress host path).map Attempt.suffix).Sublist
      (routeSuffixes.map fun start => Specification.suffixOf start host path) := by
  unfold Specification.ofPath
  simp only [List.map_append]
  exact ((suffixes_attemptIf _ (Specification.suffixOf "strip-prefix" host path) _).append
    (suffixes_attemptIf _ (Specification.suffixOf "replace-path" host path) _)).append
      (suffixes_attemptIf _ (Specification.suffixOf "redirect-app-root" host path) _)

theorem suffixes_ofPath_nodup (host path : String) :
    ((Specification.ofPath ingress host path).map Attempt.suffix).Nodup := by
  refine (suffixes_ofPath ingress host path).nodup ?_
  refine (List.nodup_map_iff_inj_on (by decide)).2 fun start isStart other isOther same => ?_
  exact ((suffixOf_eq_iff isStart isOther).1 same).1

variable {ingress}

theorem suffix_of_mem_attemptsFor {routes : List Route} {attempt : Attempt}
    (member : attempt ∈ attemptsFor ingress routes) :
    ∃ route ∈ routes, attempt ∈ Specification.ofPath ingress route.host route.path ∧
      ∃ start ∈ routeSuffixes,
        attempt.suffix = Specification.suffixOf start route.host route.path := by
  obtain ⟨route, isRoute, ofPath⟩ := List.mem_flatMap.1 member
  exact ⟨route, isRoute, ofPath, suffix_of_mem_ofPath ofPath⟩

theorem suffix_not_mem_general {routes : List Route} {attempt : Attempt}
    (member : attempt ∈ attemptsFor ingress routes) :
    attempt.suffix ∉ (generalAttempts ingress).map Attempt.suffix := by
  obtain ⟨route, -, -, start, isStart, isSuffix⟩ := suffix_of_mem_attemptsFor member
  intro isGeneral
  have isFixed := (suffixes_generalAttempts ingress).subset isGeneral
  rw [isSuffix] at isFixed
  exact suffixOf_not_mem_generalSuffixes isStart _ _ isFixed

/-- No route takes anything from the attempts in which no route has a part, nor from others. -/
theorem firstOfEachSuffix_attempts (ingress : Ingress) :
    Attempt.firstOfEachSuffix (Specification.attempts ingress) =
      generalAttempts ingress ++
        Attempt.firstOfEachSuffix (attemptsFor ingress ingress.routes) := by
  have allKept : (attemptsFor ingress ingress.routes).filter (fun attempt =>
      attempt.suffix ∉ (generalAttempts ingress).map Attempt.suffix) =
        attemptsFor ingress ingress.routes :=
    List.filter_eq_self.2 fun attempt member => decide_eq_true (suffix_not_mem_general member)
  rw [attempts_eq, Attempt.firstOfEachSuffix_append,
    Attempt.firstOfEachSuffix_eq_self (suffixes_generalAttempts_nodup ingress), allKept]

/-- No two different routes of an Ingress have the same normal form. -/
def HasDistinctNormalForms (ingress : Ingress) : Prop :=
  ∀ first ∈ ingress.routes, ∀ second ∈ ingress.routes,
    ObjectName.normalize first.hostPath = ObjectName.normalize second.hostPath → first = second

instance : Decidable (HasDistinctNormalForms ingress) := by
  unfold HasDistinctNormalForms
  infer_instance

/-- Where routes have different normal forms, a suffix belongs to one attempt only. -/
theorem attempt_eq_of_suffix_eq (distinct : HasDistinctNormalForms ingress) :
    ∀ first ∈ attemptsFor ingress ingress.routes, ∀ second ∈ attemptsFor ingress ingress.routes,
      first.suffix = second.suffix → first = second := by
  intro first isFirst second isSecond same
  obtain ⟨firstRoute, isRoute, ofFirst, start, isStart, firstSuffix⟩ :=
    suffix_of_mem_attemptsFor isFirst
  obtain ⟨secondRoute, isOtherRoute, ofSecond, other, isOther, secondSuffix⟩ :=
    suffix_of_mem_attemptsFor isSecond
  have sameNormal := ((suffixOf_eq_iff isStart isOther).1
    (firstSuffix.symm.trans (same.trans secondSuffix))).2
  obtain rfl := distinct firstRoute isRoute secondRoute isOtherRoute sameNormal
  exact List.inj_on_of_nodup_map (suffixes_ofPath_nodup ingress _ _) ofFirst ofSecond same

end TraefikUpgrade.Conversion
