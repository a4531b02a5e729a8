import TraefikUpgrade.Annotation.Key
import TraefikUpgrade.Annotation.Reading
import TraefikUpgrade.Middleware.Basic

/-!
Contract: what the annotations of one directive become.

Owns: for each directive of Traefik 1.x the middleware that its annotations
stand for, or none when the directive is absent or cannot be used, with a
warning in the latter case. A warning starts with the resource it is about.

Does not own: the order of the directives and the names of their middlewares
(`TraefikUpgrade.Conversion`), and the headers (`TraefikUpgrade.Directive.Headers`).
-/

set_option autoImplicit false

namespace TraefikUpgrade.Directive

open Annotation

/-- Basic authentication; other kinds of authentication have to be migrated by hand. -/
def basicAuth (annotations : Annotations) (resource : String) :
    Logged (Option MiddlewareKind) :=
  match annotations.value? Key.authType with
  | none => pure none
  | some authType =>
      if authType.toList.map Char.toLower = "basic".toList then
        match annotations.value? Key.authSecret with
        | none =>
            ⟨none, [⟨.warn, s!"{resource}: {Key.authType} is {authType} but {Key.authSecret} is not set, skipping"⟩]⟩
        | some secret =>
            pure (some (.basicAuth
              { secret
                removeHeader := annotations.flag Key.authRemoveHeader false
                headerField := annotations.value? Key.authHeaderField }))
      else
        ⟨none, [⟨.warn, s!"{resource}: The annotation {Key.authType}={authType} on Ingress must be converted manually. See https://docs.traefik.io/middlewares/overview/"⟩]⟩

/-- The white list of client addresses. Behind a trusted proxy the rightmost forwarded address
is the client's. -/
def ipWhiteList (annotations : Annotations) : Option MiddlewareKind := do
  let sourceRange ← annotations.list? Key.whitelistSourceRange
  return .ipWhiteList
    { sourceRange
      ipStrategy :=
        if annotations.flag Key.whitelistXForwardedFor false then some ⟨some 1, none⟩ else none }

/-- The redirect by a regex and its replacement, which are of use only together. -/
def redirect (annotations : Annotations) (resource : String) :
    Logged (Option MiddlewareKind) :=
  match annotations.value? Key.redirectRegex, annotations.value? Key.redirectReplacement with
  | some regex, some replacement =>
      pure (some (.redirectRegex
        ⟨regex, replacement, annotations.flag Key.redirectPermanent false⟩))
  | none, none => pure none
  | _, _ =>
      ⟨none, [⟨.warn, s!"{resource}: {Key.redirectRegex} and {Key.redirectReplacement} must be set together, skipping"⟩]⟩

def stripPrefix (path : String) : MiddlewareKind :=
  .stripPrefix [path]

def isSlash (character : Char) : Bool :=
  character = '/'

def withoutTrailingSlashes (text : String) : String :=
  String.ofList (Text.dropTrailing isSlash text.toList)

def withoutLeadingSlashes (text : String) : String :=
  String.ofList (text.toList.dropWhile isSlash)

/-- The path is replaced by the target, and what follows the path is kept. -/
def rewriteTarget (path target : String) : MiddlewareKind :=
  .replacePathRegex ⟨"^" ++ path ++ "(.*)", withoutTrailingSlashes target ++ "$1"⟩

/-- The redirect from the root of a host to the root of the application. -/
def appRoot (annotations : Annotations) (host path : String) : Option MiddlewareKind := do
  let root ← annotations.value? Key.appRoot
  if path.isEmpty || path = "/" then
    some (.redirectRegex
      { regex := if path.isEmpty then host ++ "/$" else host ++ path ++ "$"
        replacement :=
          withoutTrailingSlashes (host ++ path) ++ "/" ++ withoutLeadingSlashes root
        permanent := annotations.flag Key.redirectPermanent false })
  else none

end TraefikUpgrade.Directive
