import TraefikUpgrade.Annotation.Key
import TraefikUpgrade.Annotation.Reading
import TraefikUpgrade.Middleware.Basic

/-!
Contract: the header annotations as one middleware.

Owns: which annotation sets which field of the headers middleware, and when
there is no such middleware. A flag is set only when it is true, a text, list
or map only when it has something in it, the age of strict transport security
only when it is positive.

Does not own: the readings of annotation values (`TraefikUpgrade.Annotation.Reading`).
-/

set_option autoImplicit false

namespace TraefikUpgrade.Directive

open Annotation

def trueOrUnset (annotations : Annotations) (key : String) : Option Bool :=
  if annotations.flag key false then some true else none

def seconds? (annotations : Annotations) (key : String) : Option Int :=
  (some (annotations.integer key 0)).filter fun seconds => 0 < seconds

def headerSettings (annotations : Annotations) : Logged Headers := do
  let customRequestHeaders ← annotations.headerMap Key.customRequestHeaders
  let customResponseHeaders ← annotations.headerMap Key.customResponseHeaders
  let sslProxyHeaders ← annotations.headerMap Key.sslProxyHeaders
  return {
    customRequestHeaders
    customResponseHeaders
    allowedHosts := annotations.list? Key.allowedHosts
    hostsProxyHeaders := annotations.list? Key.proxyHeaders
    sslTemporaryRedirect := trueOrUnset annotations Key.sslTemporaryRedirect
    sslHost := annotations.value? Key.sslHost
    sslProxyHeaders
    sslForceHost := trueOrUnset annotations Key.sslForceHost
    stsSeconds := seconds? annotations Key.hstsMaxAge
    stsIncludeSubdomains := trueOrUnset annotations Key.hstsIncludeSubdomains
    stsPreload := trueOrUnset annotations Key.hstsPreload
    forceStsHeader := trueOrUnset annotations Key.forceHsts
    frameDeny := trueOrUnset annotations Key.frameDeny
    customFrameOptionsValue := annotations.value? Key.customFrameOptionsValue
    contentTypeNosniff := trueOrUnset annotations Key.contentTypeNosniff
    browserXssFilter := trueOrUnset annotations Key.browserXssFilter
    customBrowserXssValue := annotations.value? Key.customBrowserXssValue
    contentSecurityPolicy := annotations.value? Key.contentSecurityPolicy
    publicKey := annotations.value? Key.publicKey
    referrerPolicy := annotations.value? Key.referrerPolicy
    isDevelopment := trueOrUnset annotations Key.isDevelopment }

/-- The headers middleware, if any of its fields is set. -/
def headers (annotations : Annotations) : Logged (Option MiddlewareKind) := do
  let settings ← headerSettings annotations
  return if settings = Headers.unset then none else some (.headers settings)

end TraefikUpgrade.Directive
