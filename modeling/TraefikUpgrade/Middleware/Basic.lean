import TraefikUpgrade.Text.Map

/-!
Contract: the kinds of Traefik 2.x middleware and their settings.

Owns: the settings of each kind, unset fields apart from set ones, and the sum
of the kinds.

Does not own: the Middleware resource and its written form
(`TraefikUpgrade.Middleware.Resource`), and which annotations make which kind
(`TraefikUpgrade.Directive`).
-/

set_option autoImplicit false

namespace TraefikUpgrade

structure BasicAuth where
  secret : String
  removeHeader : Bool
  headerField : Option String
deriving DecidableEq, Repr

/-- The settings of the headers middleware, each of them optional. -/
structure Headers where
  customRequestHeaders : Option TextMap := none
  customResponseHeaders : Option TextMap := none
  allowedHosts : Option (List String) := none
  hostsProxyHeaders : Option (List String) := none
  sslTemporaryRedirect : Option Bool := none
  sslHost : Option String := none
  sslProxyHeaders : Option TextMap := none
  sslForceHost : Option Bool := none
  stsSeconds : Option Int := none
  stsIncludeSubdomains : Option Bool := none
  stsPreload : Option Bool := none
  forceStsHeader : Option Bool := none
  frameDeny : Option Bool := none
  customFrameOptionsValue : Option String := none
  contentTypeNosniff : Option Bool := none
  browserXssFilter : Option Bool := none
  customBrowserXssValue : Option String := none
  contentSecurityPolicy : Option String := none
  publicKey : Option String := none
  referrerPolicy : Option String := none
  isDevelopment : Option Bool := none
deriving DecidableEq, Repr

def Headers.unset : Headers := {}

/-- Which address of a forwarded request counts as the client's. -/
structure IpStrategy where
  depth : Option Int
  excludedIps : Option (List String)
deriving DecidableEq, Repr

structure IpWhiteList where
  sourceRange : List String
  ipStrategy : Option IpStrategy
deriving DecidableEq, Repr

structure RedirectRegex where
  regex : String
  replacement : String
  permanent : Bool
deriving DecidableEq, Repr

structure ReplacePathRegex where
  regex : String
  replacement : String
deriving DecidableEq, Repr

/-- What a middleware does to requests or responses. -/
inductive MiddlewareKind where
  | basicAuth (settings : BasicAuth)
  | headers (settings : Headers)
  | ipWhiteList (settings : IpWhiteList)
  | redirectRegex (settings : RedirectRegex)
  | replacePath (path : String)
  | replacePathRegex (settings : ReplacePathRegex)
  | addPrefix (added : String)
  | stripPrefix (prefixes : List String)
deriving DecidableEq, Repr

end TraefikUpgrade
