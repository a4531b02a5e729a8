import TraefikUpgrade.Proofs.Directive.Condition
import TraefikUpgrade.RuleType

/-!
Contract: what the text of the rule type annotation resolves to.

Owns: the names of the rule types, the texts that are no rule type, and the
rule type of every other text.

Does not own: where the resolved rule type is used
(`TraefikUpgrade.Proofs.Conversion.Specification`).
-/

set_option autoImplicit false

namespace TraefikUpgrade.RuleType

open Annotation

/-- The names of all rule types. -/
def names : List String :=
  ["Path", "PathPrefix", "PathStrip", "PathPrefixStrip", "ReplacePath"]

theorem named?_eq_none_iff {name : String} : named? name = none ↔ name ∉ names := by
  unfold named? names
  split
  case h_6 => simp_all
  all_goals simp

theorem matcher_of_named {name : String} {ruleType : RuleType}
    (named : named? name = some ruleType) :
    ruleType.matcher = .replacePath ↔ name = "ReplacePath" := by
  unfold named? at named
  split at named
  case h_6 => cases named
  all_goals
    cases named
    decide

variable (annotations : Annotations)

theorem ofAnnotations_value :
    (ofAnnotations annotations).value =
      if annotations.text Key.ruleType = "" then .ok default
      else
        match named? (annotations.text Key.ruleType) with
        | none => .error (.invalidRuleType (annotations.text Key.ruleType))
        | some ruleType => .ok ruleType := by
  unfold ofAnnotations
  rw [Annotations.value?_eq]
  by_cases noRuleType : annotations.text Key.ruleType = ""
  · rw [if_pos noRuleType, if_pos noRuleType]
    rfl
  · rw [if_neg noRuleType, if_neg noRuleType]
    dsimp only
    cases named? (annotations.text Key.ruleType) with
    | none => rfl
    | some ruleType => rfl

theorem ofAnnotations_eq_error_iff {error : ConversionError} :
    (ofAnnotations annotations).value = .error error ↔
      error = .invalidRuleType (annotations.text Key.ruleType) ∧
        annotations.text Key.ruleType ≠ "" ∧ annotations.text Key.ruleType ∉ names := by
  rw [ofAnnotations_value, ← named?_eq_none_iff]
  by_cases noRuleType : annotations.text Key.ruleType = ""
  · simp [noRuleType]
  · rw [if_neg noRuleType]
    cases named? (annotations.text Key.ruleType) with
    | none => simp [noRuleType, eq_comm]
    | some ruleType => simp

section Resolved

variable {annotations} {ruleType : RuleType}
  (resolved : (ofAnnotations annotations).value = .ok ruleType)

include resolved

/-- A resolved rule type has the name that the annotation gives, unless the annotation is empty. -/
theorem default_or_named :
    (annotations.text Key.ruleType = "" ∧ ruleType = default) ∨
      named? (annotations.text Key.ruleType) = some ruleType := by
  rw [ofAnnotations_value] at resolved
  by_cases noRuleType : annotations.text Key.ruleType = ""
  · rw [if_pos noRuleType] at resolved
    cases resolved
    exact .inl ⟨noRuleType, rfl⟩
  · rw [if_neg noRuleType] at resolved
    cases named : named? (annotations.text Key.ruleType) with
    | none => simp [named] at resolved
    | some other =>
        rw [named] at resolved
        cases resolved
        exact .inr rfl

theorem matcher_of_ofAnnotations :
    ruleType.matcher = .replacePath ↔ annotations.text Key.ruleType = "ReplacePath" := by
  rcases default_or_named resolved with ⟨noRuleType, rfl⟩ | named
  · rw [noRuleType]
    decide
  · exact matcher_of_named named

end Resolved

end TraefikUpgrade.RuleType
