import TraefikUpgrade.Directive.Basic
import TraefikUpgrade.Directive.Headers
import TraefikUpgrade.Kubernetes.Ingress
import TraefikUpgrade.ObjectName
import TraefikUpgrade.RequestModifier
import TraefikUpgrade.RuleType

/-!
Contract: the middlewares that an Ingress asks for.

Owns: attempts, which are kinds of middleware with the suffixes of their names,
and which attempts the annotations and the routes of an Ingress make, in their
order: first those that no route has a part in, then those of each route.

Does not own: which attempts make middlewares when names repeat
(`TraefikUpgrade.Conversion.Chain`).
-/

set_option autoImplicit false

namespace TraefikUpgrade

open Annotation
open Kubernetes (Ingress)

/-- A middleware to be made, and what its name ends with. -/
structure Attempt where
  suffix : String
  kind : MiddlewareKind
deriving DecidableEq, Repr

/-- A host and a path of a rule, empty where the rule names none. -/
structure Route where
  host : String
  path : String
deriving DecidableEq, Repr

def Route.hostPath (route : Route) : String :=
  route.host ++ route.path

/-- The routes of the rules with an HTTP part, in order. -/
def Kubernetes.Ingress.routes (ingress : Ingress) : List Route :=
  let rules := (ingress.spec.bind fun spec => spec.rules).getD []
  rules.flatMap fun rule =>
    (rule.http.getD []).map fun path => ⟨rule.host.getD "", path.path.getD ""⟩

namespace Attempt

/-- The start of a suffix and the normal form of a text after it, if anything is left of it. -/
def suffixFor (start text : String) : String :=
  let normal := ObjectName.normalize text
  if normal.isEmpty then start else start ++ "-" ++ normal

def ofKind (suffix : String) (kind : Option MiddlewareKind) : List Attempt :=
  match kind with
  | none => []
  | some kind => [⟨suffix, kind⟩]

/-- The middleware of the request modifier; one that cannot be read is skipped. -/
def requestModifier (annotations : Annotations) (resource : String) :
    Logged (Option MiddlewareKind) :=
  match annotations.value? Key.requestModifier with
  | none => pure none
  | some text =>
      match RequestModifier.parse text with
      | .ok kind => pure (some kind)
      | .error error =>
          ⟨none, [⟨.warn, s!"{resource}: Invalid {Key.requestModifier}: {error.message}, skipping"⟩]⟩

/-- The redirect, which gives way to an application root. -/
def redirect (annotations : Annotations) (resource : String) :
    Logged (Option MiddlewareKind) :=
  if annotations.contains Key.appRoot then pure none
  else Directive.redirect annotations resource

/-- The attempts in which no route has a part. -/
def ofAnnotations (annotations : Annotations) (resource : String) : Logged (List Attempt) := do
  let auth ← Directive.basicAuth annotations resource
  let headers ← Directive.headers annotations
  let whitelist := Directive.ipWhiteList annotations
  let modifier ← requestModifier annotations resource
  let redirect ← redirect annotations resource
  return ofKind "auth" auth ++ ofKind "headers" headers ++ ofKind "whitelist" whitelist ++
    ofKind "request-modifier" modifier ++ ofKind "redirect" redirect

def stripPrefix (ruleType : RuleType) (route : Route) : List Attempt :=
  if ruleType.stripsPath && !route.path.isEmpty then
    [⟨suffixFor "strip-prefix" route.hostPath, Directive.stripPrefix route.path⟩]
  else []

def rewriteTarget (annotations : Annotations) (route : Route) : List Attempt :=
  match annotations.value? Key.rewriteTarget with
  | some target =>
      if route.path.isEmpty then []
      else
        [⟨suffixFor "replace-path" route.hostPath,
          Directive.rewriteTarget route.path target⟩]
  | none => []

def appRoot (annotations : Annotations) (route : Route) : List Attempt :=
  ofKind (suffixFor "redirect-app-root" route.hostPath)
    (Directive.appRoot annotations route.host route.path)

def ofRoute (annotations : Annotations) (ruleType : RuleType) (route : Route) : List Attempt :=
  stripPrefix ruleType route ++ rewriteTarget annotations route ++ appRoot annotations route

/-- Whether a route is to be rewritten although the rule type replaces paths, which cannot be. -/
def isConflicting (annotations : Annotations) (ruleType : RuleType) (route : Route) : Bool :=
  ruleType.matcher = .replacePath && annotations.contains Key.rewriteTarget &&
    !route.path.isEmpty

/-- The attempts of the routes before the first conflicting one. -/
def ofRoutes (annotations : Annotations) (ruleType : RuleType) (routes : List Route) :
    List Attempt :=
  (routes.takeWhile fun route => !isConflicting annotations ruleType route).flatMap
    (ofRoute annotations ruleType)

end Attempt

end TraefikUpgrade
