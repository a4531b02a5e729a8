import TraefikUpgrade.Proofs.Conversion.Outcome

/-!
Contract: when the conversion of an Ingress fails, and with which error.

Owns: the two faults of an Ingress in terms of the texts of its annotations and
of the paths of its rules, and that they are what stops a conversion.

Does not own: what the rule type resolves to (`TraefikUpgrade.Proofs.RuleType`),
and what becomes of the document of such an Ingress
(`TraefikUpgrade.Proofs.Manifest.Failure`).
-/

set_option autoImplicit false

namespace TraefikUpgrade.Conversion

open Annotation
open Kubernetes (Ingress IngressRule)
open Specification (text rules IsHandled)

variable (configuration : Configuration) (ingress : Ingress)

/-- What is wrong with an Ingress that cannot be converted. -/
inductive IsFault : ConversionError → Prop where
  /-- The rule type is not empty and none of the known ones. -/
  | unknownRuleType {name : String} (isRuleType : text ingress Key.ruleType = name)
      (someName : name ≠ "") (unknown : name ∉ RuleType.names) :
      IsFault (.invalidRuleType name)
  /-- The rule type replaces paths, and a path of a rule with an HTTP part is to be rewritten. -/
  | rewritesReplacedPath {rule : IngressRule} {paths : List Kubernetes.HttpPath}
      {path : Kubernetes.HttpPath} {pathText : String}
      (replaces : text ingress Key.ruleType = "ReplacePath")
      (rewrites : text ingress Key.rewriteTarget ≠ "")
      (isRule : rule ∈ rules ingress) (hasHttp : rule.http = some paths) (isPath : path ∈ paths)
      (hasText : path.path = some pathText) (someText : pathText ≠ "") :
      IsFault .rewriteTargetWithReplacePath

theorem mem_routes_iff {route : Route} :
    route ∈ ingress.routes ↔
      ∃ rule ∈ rules ingress, ∃ paths, rule.http = some paths ∧
        ∃ path ∈ paths, route = ⟨rule.host.getD "", path.path.getD ""⟩ := by
  have routesEq := Specification.flatMap_routes ingress fun route => [route]
  rw [List.flatMap_singleton'] at routesEq
  rw [routesEq, List.mem_flatMap]
  refine exists_congr fun rule => and_congr_right fun _ => ?_
  rw [List.mem_flatMap]
  cases rule.http with
  | none => simp
  | some paths => simp

theorem isConflicting_iff {ruleType : RuleType} {route : Route}
    (resolved : (RuleType.ofAnnotations ingress.annotations).value = .ok ruleType) :
    Attempt.isConflicting ingress.annotations ruleType route = true ↔
      text ingress Key.ruleType = "ReplacePath" ∧ text ingress Key.rewriteTarget ≠ "" ∧
        route.path ≠ "" := by
  unfold Attempt.isConflicting
  rw [Annotations.contains_eq, Specification.text_eq, Specification.text_eq,
    ← RuleType.matcher_of_ofAnnotations resolved]
  simp [and_assoc]

theorem any_isConflicting_iff {ruleType : RuleType}
    (resolved : (RuleType.ofAnnotations ingress.annotations).value = .ok ruleType) :
    ingress.routes.any (Attempt.isConflicting ingress.annotations ruleType) = true ↔
      IsFault ingress .rewriteTargetWithReplacePath := by
  rw [List.any_eq_true]
  constructor
  · rintro ⟨route, isRoute, conflicts⟩
    obtain ⟨rule, isRule, paths, hasHttp, path, isPath, rfl⟩ := (mem_routes_iff ingress).1 isRoute
    obtain ⟨replaces, rewrites, someText⟩ := (isConflicting_iff ingress resolved).1 conflicts
    dsimp only at someText
    cases hasText : path.path with
    | none => simp [hasText] at someText
    | some pathText =>
        rw [hasText, Option.getD_some] at someText
        exact .rewritesReplacedPath replaces rewrites isRule hasHttp isPath hasText someText
  · intro fault
    cases fault with
    | @rewritesReplacedPath rule paths path pathText replaces rewrites isRule hasHttp isPath hasText
        someText =>
        refine ⟨⟨rule.host.getD "", path.path.getD ""⟩, ?_, ?_⟩
        · exact (mem_routes_iff ingress).2 ⟨rule, isRule, paths, hasHttp, path, isPath, rfl⟩
        · refine (isConflicting_iff ingress resolved).2 ⟨replaces, rewrites, ?_⟩
          rw [hasText]
          exact someText

theorem isFault_invalidRuleType_iff {name : String} :
    IsFault ingress (.invalidRuleType name) ↔
      (RuleType.ofAnnotations ingress.annotations).value = .error (.invalidRuleType name) := by
  rw [RuleType.ofAnnotations_eq_error_iff, ConversionError.invalidRuleType.injEq]
  constructor
  · rintro ⟨isRuleType, someName, unknown⟩
    have isText : name = ingress.annotations.text Key.ruleType :=
      isRuleType.symm.trans (Specification.text_eq _ _)
    exact ⟨isText, isText ▸ someName, isText ▸ unknown⟩
  · rintro ⟨isText, someName, unknown⟩
    rw [← Specification.text_eq] at isText someName unknown
    exact .unknownRuleType isText.symm (isText ▸ someName) (isText ▸ unknown)

/-- The fault that stops a conversion is the fault of the Ingress. It has at most one, since a rule
type that replaces paths is a known one. -/
theorem fault?_eq_some_iff {error : ConversionError} :
    fault? ingress = some error ↔ IsFault ingress error := by
  unfold fault?
  cases resolved : (RuleType.ofAnnotations ingress.annotations).value with
  | error fault =>
      obtain ⟨rfl, -, unknown⟩ := (RuleType.ofAnnotations_eq_error_iff _).1 resolved
      cases error with
      | invalidRuleType name =>
          rw [isFault_invalidRuleType_iff, resolved]
          simp
      | rewriteTargetWithReplacePath =>
          -- the other fault takes a known rule type
          have knownType : ¬IsFault ingress .rewriteTargetWithReplacePath := by
            rintro (_ | ⟨replaces⟩)
            rw [← Specification.text_eq, replaces] at unknown
            exact unknown (by decide)
          simp [knownType]
  | ok ruleType =>
      dsimp only
      cases error with
      | invalidRuleType name =>
          rw [isFault_invalidRuleType_iff, resolved]
          split
          · simp
          · simp
      | rewriteTargetWithReplacePath =>
          rw [← any_isConflicting_iff ingress resolved]
          by_cases conflict :
              ingress.routes.any (Attempt.isConflicting ingress.annotations ruleType) = true
          · rw [if_pos conflict]
            simp [conflict]
          · rw [if_neg conflict]
            simp [conflict]

/-- A conversion fails exactly when the class of the Ingress is handled and the Ingress has a
fault, and then the error names the fault. -/
theorem convert_eq_error_iff {error : ConversionError} :
    (convert configuration ingress).value = .error error ↔
      IsHandled configuration ingress ∧ IsFault ingress error := by
  rw [convert_value, ← Specification.foreignClass?_eq_none_iff, ← fault?_eq_some_iff]
  by_cases handled : foreignClass? configuration ingress.annotations = none
  · rw [if_pos handled]
    cases fault? ingress with
    | none => simp
    | some fault => simp [handled]
  · rw [if_neg handled]
    simp [handled]

end TraefikUpgrade.Conversion
