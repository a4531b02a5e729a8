import TraefikUpgrade.Annotation.Key
import TraefikUpgrade.Annotation.Reading

/-!
Contract: the rule type annotation.

Owns: the rule types that match a path, what each of them means for a router,
the errors that stop the conversion of an Ingress, and the resolution of the
annotation.

Does not own: where the resolved rule type is used (`TraefikUpgrade.Conversion`).
-/

set_option autoImplicit false

namespace TraefikUpgrade

inductive ConversionError where
  | invalidRuleType (text : String)
  | rewriteTargetWithReplacePath
deriving DecidableEq, Repr

def ConversionError.message : ConversionError → String
  | .invalidRuleType text => s!"cannot use non-matcher rule: {Text.quoted text}"
  | .rewriteTargetWithReplacePath =>
      s!"{Annotation.Key.rewriteTarget} must not be used together with annotation {Text.quoted Annotation.Key.ruleType} set to ReplacePath"

inductive PathMatcher where
  | path
  | pathPrefix
  | replacePath
deriving DecidableEq, Repr

/-- What a rule type means: a matcher, and whether the matched path is stripped. -/
structure RuleType where
  matcher : PathMatcher
  stripsPath : Bool
deriving DecidableEq, Repr

namespace RuleType

/-- The rule type of a resource that names none. -/
def default : RuleType :=
  ⟨.pathPrefix, false⟩

def named? : String → Option RuleType
  | "Path" => some ⟨.path, false⟩
  | "PathPrefix" => some ⟨.pathPrefix, false⟩
  | "PathStrip" => some ⟨.path, true⟩
  | "PathPrefixStrip" => some ⟨.pathPrefix, true⟩
  | "ReplacePath" => some ⟨.replacePath, false⟩
  | _ => none

private def deprecationWarning : LogRecord :=
  ⟨.warn, s!"Using ReplacePath as {Annotation.Key.ruleType} will be deprecated in the future. Please use the {Annotation.Key.requestModifier} annotation instead"⟩

/-- The rule type that the annotations ask for. -/
def ofAnnotations (annotations : Annotations) : Logged (Except ConversionError RuleType) :=
  match annotations.value? Annotation.Key.ruleType with
  | none => pure (.ok default)
  | some text =>
      match named? text with
      | none => pure (.error (.invalidRuleType text))
      | some ruleType =>
          ⟨.ok ruleType, if ruleType.matcher = .replacePath then [deprecationWarning] else []⟩

end RuleType

end TraefikUpgrade
