/-!
Contract: the annotation keys that the upgrade knows.

Owns: the text of each key, and the keys that have no automatic equivalent,
each with the hint for migrating it by hand, in the order in which they are
reported.

Does not own: the meaning of a key's value (`TraefikUpgrade.Directive`).
-/

set_option autoImplicit false

namespace TraefikUpgrade.Annotation.Key

def ingressClass : String := "kubernetes.io/ingress.class"

/-! Keys of the router, old and new. -/

def frontendEntryPoints : String := "traefik.ingress.kubernetes.io/frontend-entry-points"
def routerEntryPoints : String := "traefik.ingress.kubernetes.io/router.entrypoints"
def routerMiddlewares : String := "traefik.ingress.kubernetes.io/router.middlewares"
def ruleType : String := "traefik.ingress.kubernetes.io/rule-type"
def requestModifier : String := "traefik.ingress.kubernetes.io/request-modifier"
def rewriteTarget : String := "ingress.kubernetes.io/rewrite-target"
def appRoot : String := "traefik.ingress.kubernetes.io/app-root"

/-! Keys of redirects. -/

def sslRedirect : String := "ingress.kubernetes.io/ssl-redirect"
def redirectEntryPoint : String := "traefik.ingress.kubernetes.io/redirect-entry-point"
def redirectPermanent : String := "traefik.ingress.kubernetes.io/redirect-permanent"
def redirectRegex : String := "traefik.ingress.kubernetes.io/redirect-regex"
def redirectReplacement : String := "traefik.ingress.kubernetes.io/redirect-replacement"

/-! Keys of authentication. -/

def authType : String := "ingress.kubernetes.io/auth-type"
def authSecret : String := "ingress.kubernetes.io/auth-secret"
def authHeaderField : String := "ingress.kubernetes.io/auth-header-field"
def authRemoveHeader : String := "ingress.kubernetes.io/auth-remove-header"
def authRealm : String := "ingress.kubernetes.io/auth-realm"

/-! Keys of headers. -/

def customRequestHeaders : String := "ingress.kubernetes.io/custom-request-headers"
def customResponseHeaders : String := "ingress.kubernetes.io/custom-response-headers"
def allowedHosts : String := "ingress.kubernetes.io/allowed-hosts"
def proxyHeaders : String := "ingress.kubernetes.io/proxy-headers"
def sslTemporaryRedirect : String := "ingress.kubernetes.io/ssl-temporary-redirect"
def sslHost : String := "ingress.kubernetes.io/ssl-host"
def sslProxyHeaders : String := "ingress.kubernetes.io/ssl-proxy-headers"
def sslForceHost : String := "ingress.kubernetes.io/ssl-force-host"
def hstsMaxAge : String := "ingress.kubernetes.io/hsts-max-age"
def hstsIncludeSubdomains : String := "ingress.kubernetes.io/hsts-include-subdomains"
def hstsPreload : String := "ingress.kubernetes.io/hsts-preload"
def forceHsts : String := "ingress.kubernetes.io/force-hsts"
def frameDeny : String := "ingress.kubernetes.io/frame-deny"
def customFrameOptionsValue : String := "ingress.kubernetes.io/custom-frame-options-value"
def contentTypeNosniff : String := "ingress.kubernetes.io/content-type-nosniff"
def browserXssFilter : String := "ingress.kubernetes.io/browser-xss-filter"
def customBrowserXssValue : String := "ingress.kubernetes.io/custom-browser-xss-value"
def contentSecurityPolicy : String := "ingress.kubernetes.io/content-security-policy"
def publicKey : String := "ingress.kubernetes.io/public-key"
def referrerPolicy : String := "ingress.kubernetes.io/referrer-policy"
def isDevelopment : String := "ingress.kubernetes.io/is-development"

/-! Keys of the address white list. -/

def whitelistSourceRange : String := "ingress.kubernetes.io/whitelist-source-range"
def whitelistXForwardedFor : String := "ingress.kubernetes.io/whitelist-x-forwarded-for"

/-- The keys without an automatic equivalent, each with what to do instead. -/
def unsupported : List (String × String) :=
  [ ("traefik.ingress.kubernetes.io/error-pages",
      "See https://docs.traefik.io/middlewares/errorpages/"),
    ("traefik.ingress.kubernetes.io/buffering",
      "See https://docs.traefik.io/middlewares/buffering/"),
    ("traefik.ingress.kubernetes.io/circuit-breaker-expression",
      "See https://docs.traefik.io/middlewares/circuitbreaker/"),
    ("traefik.ingress.kubernetes.io/max-conn-amount",
      "See https://docs.traefik.io/middlewares/inflightreq/"),
    ("traefik.ingress.kubernetes.io/max-conn-extractor-func",
      "See https://docs.traefik.io/middlewares/inflightreq/"),
    ("traefik.ingress.kubernetes.io/responseforwarding-flushinterval",
      "See https://docs.traefik.io/providers/kubernetes-crd/"),
    ("traefik.ingress.kubernetes.io/load-balancer-method",
      "See https://docs.traefik.io/providers/kubernetes-crd/"),
    (authRealm, "See https://docs.traefik.io/middlewares/basicauth/"),
    ("traefik.ingress.kubernetes.io/service-weights",
      "See https://docs.traefik.io/providers/kubernetes-crd/"),
    ("ingress.kubernetes.io/protocol",
      "set traefik.ingress.kubernetes.io/service.serversscheme on Service resource"),
    ("traefik.ingress.kubernetes.io/preserve-host",
      "set traefik.ingress.kubernetes.io/service.passhostheader on Service resource"),
    (redirectEntryPoint, "See https://docs.traefik.io/middlewares/redirectscheme/"),
    ("traefik.ingress.kubernetes.io/rate-limit",
      "See https://docs.traefik.io/middlewares/ratelimit/"),
    ("traefik.ingress.kubernetes.io/priority",
      "set traefik.ingress.kubernetes.io/router.priority"),
    ("traefik.ingress.kubernetes.io/affinity",
      "set traefik.ingress.kubernetes.io/service.sticky.cookie on Service resource"),
    ("traefik.ingress.kubernetes.io/session-cookie-name",
      "set traefik.ingress.kubernetes.io/service.sticky.cookie.name on Service resource"),
    ("ingress.kubernetes.io/pass-client-tls-cert",
      "See https://docs.traefik.io/middlewares/passtlsclientcert/") ]

end TraefikUpgrade.Annotation.Key
