import TraefikUpgrade.Conversion.Convert
import TraefikUpgrade.Proofs.Conversion.Chain
import TraefikUpgrade.Proofs.Directive.Condition
import TraefikUpgrade.Proofs.RuleType

/-!
Contract: what the conversion of an Ingress gives, said without the conversion.

Owns: the attempts of an Ingress as one list, each with its middleware and under
its condition on the texts of the annotations and on the host and path of a rule;
the references and middlewares that follow from the list, and the annotations
that follow from the references; and the agreement of the attempts that the
conversion makes with the list.

Does not own: the order in which the conversion looks at the annotations, and
the records that it leaves (`TraefikUpgrade.Conversion`).
-/

set_option autoImplicit false

namespace TraefikUpgrade.Conversion

open Annotation
open Kubernetes (Ingress IngressRule)

/-- An annotation of an Ingress as it stands there, even if it is empty. -/
def storedAnnotation (ingress : Ingress) (key : String) : Option String :=
  ingress.annotations.map.bind fun map => map.get? key

namespace Specification

variable (configuration : Configuration) (ingress : Ingress)

/-- The text of an annotation of an Ingress, empty when it is missing. -/
def text (key : String) : String :=
  storedAnnotation ingress key |>.getD ""

theorem text_eq (key : String) : text ingress key = ingress.annotations.text key :=
  (Annotations.text_eq _ _).symm

/-- An annotation spells true. -/
def isSet (key : String) : Bool :=
  text ingress key ∈ ["1", "t", "T", "TRUE", "true", "True"]

theorem isSet_eq (key : String) : isSet ingress key = ingress.annotations.flag key false := by
  rw [Bool.eq_iff_iff, Annotations.flag_eq_true_iff, isSet, text_eq, decide_eq_true_iff]

/-- The class of the Ingress is not set, or the marker occurs in it. -/
def IsHandled : Prop :=
  text ingress Key.ingressClass = "" ∨
    configuration.ingressClassMarker.toList <:+: (text ingress Key.ingressClass).toList

/-! ### Attempts -/

/-- One attempt if a condition holds. -/
def attemptIf (condition : Prop) [Decidable condition] (suffix : String)
    (kind : MiddlewareKind) : List Attempt :=
  if condition then [⟨suffix, kind⟩] else []

def auth : List Attempt :=
  attemptIf
    ((text ingress Key.authType).toList.map Char.toLower = "basic".toList ∧
      text ingress Key.authSecret ≠ "")
    "auth"
    (.basicAuth
      { secret := text ingress Key.authSecret
        removeHeader := isSet ingress Key.authRemoveHeader
        headerField :=
          if text ingress Key.authHeaderField = "" then none
          else some (text ingress Key.authHeaderField) })

def headers : List Attempt :=
  attemptIf (Directive.YieldsHeader ingress.annotations) "headers"
    (.headers (Directive.headerSettings ingress.annotations).value)

/-- Some entry of the source range is not blank. -/
def HasSourceRange : Prop :=
  ∃ entry ∈ (text ingress Key.whitelistSourceRange).toList.splitOn ',',
    ∃ character ∈ entry, Text.isBlank character = false

theorem hasSourceRange_iff :
    HasSourceRange ingress ↔
      Annotations.listEntries (text ingress Key.whitelistSourceRange) ≠ [] := by
  rw [Ne, Annotations.listEntries_eq_nil_iff]
  unfold HasSourceRange
  simp

instance : Decidable (HasSourceRange ingress) :=
  decidable_of_iff _ (hasSourceRange_iff ingress).symm

def whitelist : List Attempt :=
  attemptIf (HasSourceRange ingress) "whitelist"
    (.ipWhiteList
      { sourceRange := Annotations.listEntries (text ingress Key.whitelistSourceRange)
        ipStrategy :=
          if isSet ingress Key.whitelistXForwardedFor then some ⟨some 1, none⟩ else none })

def requestModifier : List Attempt :=
  match RequestModifier.parse (text ingress Key.requestModifier) with
  | .ok kind => attemptIf (text ingress Key.requestModifier ≠ "") "request-modifier" kind
  | .error _ => []

def redirect : List Attempt :=
  attemptIf
    (text ingress Key.appRoot = "" ∧ text ingress Key.redirectRegex ≠ "" ∧
      text ingress Key.redirectReplacement ≠ "")
    "redirect"
    (.redirectRegex
      { regex := text ingress Key.redirectRegex
        replacement := text ingress Key.redirectReplacement
        permanent := isSet ingress Key.redirectPermanent })

/-- The rule types that strip the path they match. -/
def strippingRuleTypes : List String :=
  ["PathStrip", "PathPrefixStrip"]

/-- The suffix of a middleware for a host and a path. -/
def suffixOf (start host path : String) : String :=
  if ObjectName.normalize (host ++ path) = "" then start
  else start ++ "-" ++ ObjectName.normalize (host ++ path)

/-- A text without the slashes that it ends with. -/
def withoutSlashesBehind (text : String) : String :=
  String.ofList (text.toList.rdropWhile (· = '/'))

/-- A text without the slashes that it starts with. -/
def withoutSlashesBefore (text : String) : String :=
  String.ofList (text.toList.dropWhile (· = '/'))

/-- The attempts for one path of a rule. -/
def ofPath (host path : String) : List Attempt :=
  attemptIf (path ≠ "" ∧ text ingress Key.ruleType ∈ strippingRuleTypes)
      (suffixOf "strip-prefix" host path) (.stripPrefix [path]) ++
    attemptIf (path ≠ "" ∧ text ingress Key.rewriteTarget ≠ "")
      (suffixOf "replace-path" host path)
      (.replacePathRegex
        { regex := "^" ++ path ++ "(.*)"
          replacement := withoutSlashesBehind (text ingress Key.rewriteTarget) ++ "$1" }) ++
    attemptIf (text ingress Key.appRoot ≠ "" ∧ (path = "" ∨ path = "/"))
      (suffixOf "redirect-app-root" host path)
      (.redirectRegex
        { regex := host ++ "/$"
          replacement := withoutSlashesBehind host ++ "/" ++
            withoutSlashesBefore (text ingress Key.appRoot)
          permanent := isSet ingress Key.redirectPermanent })

/-- The attempts for the paths of a rule; there are none without an HTTP part. -/
def ofRule (rule : IngressRule) : List Attempt :=
  match rule.http with
  | none => []
  | some paths => paths.flatMap fun path => ofPath ingress (rule.host.getD "") (path.path.getD "")

/-- The rules of an Ingress, of which there are none without a specification. -/
def rules : List IngressRule :=
  match ingress.spec with
  | none => []
  | some spec => spec.rules.getD []

/-- All attempts of an Ingress in their order. -/
def attempts : List Attempt :=
  auth ingress ++ headers ingress ++ whitelist ingress ++ requestModifier ingress ++
    redirect ingress ++ (rules ingress).flatMap (ofRule ingress)

/-! ### The result -/

/-- The reference that the configuration adds in front, if the Ingress redirects to HTTPS. -/
def leadingReferences : List String :=
  if text ingress Key.sslRedirect = "" then [] else [configuration.sslRedirectMiddleware]

/-- The namespace of the middlewares, which is the one of their Ingress if it has one. -/
def middlewareNamespace : String :=
  ingress.metadata.namespaceName.getD configuration.defaultNamespace

/-- The name of a middleware: that of its Ingress, which may have none, and a suffix. -/
def middlewareName (suffix : String) : String :=
  ingress.metadata.name.getD "" ++ "-" ++ suffix

/-- The references to the middlewares of an Ingress. -/
def generatedReferences : List String :=
  (Attempt.firstOfEachSuffix (attempts ingress)).map fun attempt =>
    middlewareNamespace configuration ingress ++ "-" ++ middlewareName ingress attempt.suffix ++
      "@" ++ configuration.middlewareProvider

def references : List String :=
  leadingReferences configuration ingress ++ generatedReferences configuration ingress

/-- The middlewares of an Ingress in the order of the attempts. -/
def middlewares : List Middleware :=
  (Attempt.firstOfEachSuffix (attempts ingress)).map fun attempt =>
    { metadata :=
        { name := some (middlewareName ingress attempt.suffix)
          namespaceName := some (middlewareNamespace configuration ingress) }
      kind := attempt.kind }

/-- How an Ingress is after a conversion that finds some references for it: the annotations of its
router have the references, if there are any, and the entry points, if it names any, and everything
else is as it was. -/
structure IsAnnotated (ingress : Ingress) (references : List String) (converted : Ingress) :
    Prop where
  spec : converted.spec = ingress.spec
  status : converted.status = ingress.status
  /-- All metadata but the annotations stays. -/
  metadata :
    { converted.metadata with annotations := ingress.metadata.annotations } = ingress.metadata
  /-- An annotation map is neither made nor removed. -/
  annotationMap :
    converted.metadata.annotations.isSome = ingress.metadata.annotations.isSome
  annotations : ∀ key, storedAnnotation converted key =
    if key = Key.routerMiddlewares ∧ references ≠ [] then some (",".intercalate references)
    else if key = Key.routerEntryPoints ∧ text ingress Key.frontendEntryPoints ≠ "" then
      some (text ingress Key.frontendEntryPoints)
    else storedAnnotation ingress key

/-! ### The class of an Ingress -/

theorem foreignClass?_eq_none_iff :
    foreignClass? configuration ingress.annotations = none ↔ IsHandled configuration ingress := by
  unfold foreignClass? IsHandled
  rw [Annotations.value?_eq, text_eq]
  by_cases noClass : ingress.annotations.text Key.ingressClass = ""
  · simp [noClass]
  · simp [noClass, Option.filter, Text.hasInfix_iff]

instance : Decidable (IsHandled configuration ingress) :=
  decidable_of_iff _ (foreignClass?_eq_none_iff configuration ingress)

/-! ### Names -/

theorem middlewareNamespace_eq :
    middlewareNamespace configuration ingress = namespaceName configuration ingress := rfl

theorem middlewareName_eq (suffix : String) :
    middlewareName ingress suffix = name ingress ++ "-" ++ suffix := rfl

/-! ### Agreement on the attempts -/

private theorem ofKind_ite (condition : Prop) [Decidable condition] (suffix : String)
    (kind : MiddlewareKind) :
    Attempt.ofKind suffix (if condition then some kind else none) =
      attemptIf condition suffix kind := by
  unfold attemptIf
  by_cases holds : condition
  · rw [if_pos holds, if_pos holds]
    rfl
  · rw [if_neg holds, if_neg holds]
    rfl

private theorem whitelist_eq :
    Attempt.ofKind "whitelist" (Directive.ipWhiteList ingress.annotations) =
      whitelist ingress := by
  rw [Directive.ipWhiteList_eq, ofKind_ite, ← text_eq, ← isSet_eq]
  unfold whitelist attemptIf
  exact if_congr (hasSourceRange_iff ingress).symm rfl rfl

private theorem requestModifier_eq (resource : String) :
    Attempt.ofKind "request-modifier"
        (Attempt.requestModifier ingress.annotations resource).value =
      requestModifier ingress := by
  unfold Attempt.requestModifier requestModifier
  rw [Annotations.value?_eq, text_eq]
  by_cases noModifier : ingress.annotations.text Key.requestModifier = ""
  · cases RequestModifier.parse (ingress.annotations.text Key.requestModifier) with
    | ok kind => simp [noModifier, attemptIf, Attempt.ofKind]
    | error error => simp [noModifier, Attempt.ofKind]
  · rw [if_neg noModifier]
    cases parsed : RequestModifier.parse (ingress.annotations.text Key.requestModifier) with
    | ok kind => simp [parsed, noModifier, attemptIf, Attempt.ofKind]
    | error error => simp [parsed, Attempt.ofKind]

private theorem redirect_eq (resource : String) :
    Attempt.ofKind "redirect" (Attempt.redirect ingress.annotations resource).value =
      redirect ingress := by
  unfold Attempt.redirect redirect
  simp only [text_eq, isSet_eq]
  rw [Annotations.contains_eq]
  by_cases noRoot : ingress.annotations.text Key.appRoot = ""
  · simp only [noRoot, ne_eq, not_true_eq_false, decide_false, Bool.false_eq_true, if_false, true_and]
    rw [Directive.redirect_value, ofKind_ite]
  · simp [noRoot, attemptIf, Attempt.ofKind]

theorem ofAnnotations_value (resource : String) :
    (Attempt.ofAnnotations ingress.annotations resource).value =
      auth ingress ++ headers ingress ++ whitelist ingress ++ requestModifier ingress ++
        redirect ingress := by
  unfold Attempt.ofAnnotations
  simp only [Logged.value_bind, Logged.value_pure]
  rw [Directive.basicAuth_value, Directive.headers_value, ofKind_ite, ofKind_ite, whitelist_eq,
    requestModifier_eq, redirect_eq]
  unfold auth headers
  simp only [text_eq, isSet_eq, Annotations.value?_eq]

/-! ### The rule type -/

private theorem stripsPath_of_named {name : String} {ruleType : RuleType}
    (named : RuleType.named? name = some ruleType) :
    ruleType.stripsPath = decide (name ∈ strippingRuleTypes) := by
  unfold RuleType.named? at named
  split at named
  case h_6 => cases named
  all_goals
    cases named
    decide

theorem stripsPath_of_ruleType {annotations : Annotations} {ruleType : RuleType}
    (resolved : (RuleType.ofAnnotations annotations).value = .ok ruleType) :
    ruleType.stripsPath = decide (annotations.text Key.ruleType ∈ strippingRuleTypes) := by
  rcases RuleType.default_or_named resolved with ⟨noRuleType, rfl⟩ | named
  · rw [noRuleType]
    decide
  · exact stripsPath_of_named named

theorem suffixFor_eq (start host path : String) :
    Attempt.suffixFor start (Route.hostPath ⟨host, path⟩) = suffixOf start host path := by
  unfold Attempt.suffixFor suffixOf Route.hostPath
  simp

theorem withoutTrailingSlashes_eq (text : String) :
    Directive.withoutTrailingSlashes text = withoutSlashesBehind text := rfl

theorem withoutLeadingSlashes_eq (text : String) :
    Directive.withoutLeadingSlashes text = withoutSlashesBefore text := rfl

theorem ofRoute_eq {ruleType : RuleType} (host path : String)
    (resolved : (RuleType.ofAnnotations ingress.annotations).value = .ok ruleType) :
    Attempt.ofRoute ingress.annotations ruleType ⟨host, path⟩ = ofPath ingress host path := by
  have strip : Attempt.stripPrefix ruleType ⟨host, path⟩ =
      attemptIf (path ≠ "" ∧ text ingress Key.ruleType ∈ strippingRuleTypes)
        (suffixOf "strip-prefix" host path) (.stripPrefix [path]) := by
    unfold Attempt.stripPrefix attemptIf
    rw [stripsPath_of_ruleType resolved, suffixFor_eq]
    exact if_congr (by simp [text_eq, and_comm]) rfl rfl
  have rewrite : Attempt.rewriteTarget ingress.annotations ⟨host, path⟩ =
      attemptIf (path ≠ "" ∧ text ingress Key.rewriteTarget ≠ "")
        (suffixOf "replace-path" host path)
        (.replacePathRegex ⟨"^" ++ path ++ "(.*)",
          withoutSlashesBehind (text ingress Key.rewriteTarget) ++ "$1"⟩) := by
    unfold Attempt.rewriteTarget attemptIf Directive.rewriteTarget
    rw [Annotations.value?_eq, suffixFor_eq, text_eq, ← withoutTrailingSlashes_eq]
    by_cases noTarget : ingress.annotations.text Key.rewriteTarget = ""
    · simp [noTarget]
    · by_cases noPath : path = ""
      · simp [noTarget, noPath]
      · simp [noTarget, noPath]
  unfold Attempt.ofRoute Attempt.appRoot ofPath
  rw [strip, rewrite, suffixFor_eq, Directive.appRoot_eq, ofKind_ite, withoutTrailingSlashes_eq,
    withoutLeadingSlashes_eq, text_eq ingress Key.appRoot, isSet_eq]

theorem flatMap_routes {Target : Type} (attemptsOf : Route → List Target) :
    ingress.routes.flatMap attemptsOf =
      (rules ingress).flatMap fun rule =>
        (rule.http.getD []).flatMap fun path =>
          attemptsOf ⟨rule.host.getD "", path.path.getD ""⟩ := by
  unfold Ingress.routes rules
  rw [List.flatMap_assoc]
  cases ingress.spec with
  | none => rfl
  | some spec => simp [List.flatMap_map]

/-- Without a conflicting route, the attempts of all routes are those of the rules. -/
theorem ofRoutes_eq {ruleType : RuleType}
    (resolved : (RuleType.ofAnnotations ingress.annotations).value = .ok ruleType)
    (noConflict : ingress.routes.any (Attempt.isConflicting ingress.annotations ruleType) = false) :
    Attempt.ofRoutes ingress.annotations ruleType ingress.routes =
      (rules ingress).flatMap (ofRule ingress) := by
  have allRoutes : ingress.routes.takeWhile (fun route =>
      !Attempt.isConflicting ingress.annotations ruleType route) = ingress.routes := by
    rw [List.takeWhile_eq_self_iff]
    intro route member
    rw [List.any_eq_false] at noConflict
    simpa using noConflict route member
  unfold Attempt.ofRoutes
  rw [allRoutes, flatMap_routes]
  refine congrArg (List.flatMap · (rules ingress)) (funext fun rule => ?_)
  unfold ofRule
  cases rule.http with
  | none => rfl
  | some paths => simp only [Option.getD_some, ofRoute_eq ingress _ _ resolved]

end Specification

end TraefikUpgrade.Conversion
