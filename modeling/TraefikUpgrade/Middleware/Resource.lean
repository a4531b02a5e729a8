import TraefikUpgrade.Kubernetes.ObjectMeta
import TraefikUpgrade.Middleware.Basic
import TraefikUpgrade.Yaml.Document
import TraefikUpgrade.Yaml.Writer

/-!
Contract: the Middleware resource.

Owns: the resource, the written form of each kind of middleware, in which the
kind is the only key of the specification and unset settings are left out, and
the reading of a resource. A specification may hold further keys; the first one
that names a kind counts.

Does not own: the settings of the kinds (`TraefikUpgrade.Middleware.Basic`).
-/

set_option autoImplicit false

namespace TraefikUpgrade

open Yaml (Content Value)
open Kubernetes

structure Middleware where
  metadata : ObjectMeta
  kind : MiddlewareKind
deriving DecidableEq, Repr

namespace MiddlewareKind

/-! Writing. -/

/-- A flag that is written only when it is true. -/
def writtenIfTrue (name : String) (flag : Bool) : Fields :=
  if flag then [(name, .bool true)] else []

def ofBasicAuth (settings : BasicAuth) : Value :=
  ofFields (
    written "secret" (.string settings.secret) ++
    writtenIfTrue "removeHeader" settings.removeHeader ++
    writtenIfSet "headerField" .string settings.headerField)

def ofHeaders (settings : Headers) : Value :=
  ofFields (
    writtenIfSet "customRequestHeaders" ofTextMap settings.customRequestHeaders ++
    writtenIfSet "customResponseHeaders" ofTextMap settings.customResponseHeaders ++
    writtenIfSet "allowedHosts" ofTexts settings.allowedHosts ++
    writtenIfSet "hostsProxyHeaders" ofTexts settings.hostsProxyHeaders ++
    writtenIfSet "sslTemporaryRedirect" .bool settings.sslTemporaryRedirect ++
    writtenIfSet "sslHost" .string settings.sslHost ++
    writtenIfSet "sslProxyHeaders" ofTextMap settings.sslProxyHeaders ++
    writtenIfSet "sslForceHost" .bool settings.sslForceHost ++
    writtenIfSet "stsSeconds" .integer settings.stsSeconds ++
    writtenIfSet "stsIncludeSubdomains" .bool settings.stsIncludeSubdomains ++
    writtenIfSet "stsPreload" .bool settings.stsPreload ++
    writtenIfSet "forceSTSHeader" .bool settings.forceStsHeader ++
    writtenIfSet "frameDeny" .bool settings.frameDeny ++
    writtenIfSet "customFrameOptionsValue" .string settings.customFrameOptionsValue ++
    writtenIfSet "contentTypeNosniff" .bool settings.contentTypeNosniff ++
    writtenIfSet "browserXssFilter" .bool settings.browserXssFilter ++
    writtenIfSet "customBrowserXSSValue" .string settings.customBrowserXssValue ++
    writtenIfSet "contentSecurityPolicy" .string settings.contentSecurityPolicy ++
    writtenIfSet "publicKey" .string settings.publicKey ++
    writtenIfSet "referrerPolicy" .string settings.referrerPolicy ++
    writtenIfSet "isDevelopment" .bool settings.isDevelopment)

def ofIpStrategy (strategy : IpStrategy) : Value :=
  ofFields (
    writtenIfSet "depth" .integer strategy.depth ++
    writtenIfSet "excludedIPs" ofTexts strategy.excludedIps)

def ofIpWhiteList (settings : IpWhiteList) : Value :=
  ofFields (
    written "sourceRange" (ofTexts settings.sourceRange) ++
    writtenIfSet "ipStrategy" ofIpStrategy settings.ipStrategy)

def ofRedirectRegex (settings : RedirectRegex) : Value :=
  ofFields (
    written "regex" (.string settings.regex) ++
    written "replacement" (.string settings.replacement) ++
    writtenIfTrue "permanent" settings.permanent)

def ofReplacePathRegex (settings : ReplacePathRegex) : Value :=
  ofFields (
    written "regex" (.string settings.regex) ++
    written "replacement" (.string settings.replacement))

def key : MiddlewareKind → String
  | .basicAuth _ => "basicAuth"
  | .headers _ => "headers"
  | .ipWhiteList _ => "ipWhiteList"
  | .redirectRegex _ => "redirectRegex"
  | .replacePath _ => "replacePath"
  | .replacePathRegex _ => "replacePathRegex"
  | .addPrefix _ => "addPrefix"
  | .stripPrefix _ => "stripPrefix"

def settings : MiddlewareKind → Value
  | .basicAuth settings => ofBasicAuth settings
  | .headers settings => ofHeaders settings
  | .ipWhiteList settings => ofIpWhiteList settings
  | .redirectRegex settings => ofRedirectRegex settings
  | .replacePath path => ofFields (written "path" (.string path))
  | .replacePathRegex settings => ofReplacePathRegex settings
  | .addPrefix added => ofFields (written "prefix" (.string added))
  | .stripPrefix prefixes => ofFields (written "prefixes" (ofTexts prefixes))

def toValue (kind : MiddlewareKind) : Value :=
  ofFields (written kind.key kind.settings)

/-! Reading. -/

/-- A flag that is false when it is not there. It cannot be null. -/
def flagOrFalse (fields : Fields) (name : String) : Option Bool :=
  match fields.get? name with
  | none => some false
  | some value => bool? value

def basicAuth? (value : Value) : Option MiddlewareKind := do
  let fields ← record? .refused ["secret", "removeHeader", "headerField"] 1 value
  return .basicAuth {
    secret := ← fields.required "secret" Value.text?
    removeHeader := ← flagOrFalse fields "removeHeader"
    headerField := ← fields.optional "headerField" Value.text? }

def headersNames : List String :=
  ["customRequestHeaders", "customResponseHeaders", "allowedHosts", "hostsProxyHeaders",
    "sslTemporaryRedirect", "sslHost", "sslProxyHeaders", "sslForceHost", "stsSeconds",
    "stsIncludeSubdomains", "stsPreload", "forceSTSHeader", "frameDeny",
    "customFrameOptionsValue", "contentTypeNosniff", "browserXssFilter",
    "customBrowserXSSValue", "contentSecurityPolicy", "publicKey", "referrerPolicy",
    "isDevelopment"]

def headers? (value : Value) : Option MiddlewareKind := do
  let fields ← record? .refused headersNames 0 value
  let map (name : String) := fields.optional name (textMap? .refused)
  let texts (name : String) := fields.optional name (texts? .refused)
  let text (name : String) := fields.optional name Value.text?
  let flag (name : String) := fields.optional name bool?
  return .headers {
    customRequestHeaders := ← map "customRequestHeaders"
    customResponseHeaders := ← map "customResponseHeaders"
    allowedHosts := ← texts "allowedHosts"
    hostsProxyHeaders := ← texts "hostsProxyHeaders"
    sslTemporaryRedirect := ← flag "sslTemporaryRedirect"
    sslHost := ← text "sslHost"
    sslProxyHeaders := ← map "sslProxyHeaders"
    sslForceHost := ← flag "sslForceHost"
    stsSeconds := ← fields.optional "stsSeconds" int64?
    stsIncludeSubdomains := ← flag "stsIncludeSubdomains"
    stsPreload := ← flag "stsPreload"
    forceStsHeader := ← flag "forceSTSHeader"
    frameDeny := ← flag "frameDeny"
    customFrameOptionsValue := ← text "customFrameOptionsValue"
    contentTypeNosniff := ← flag "contentTypeNosniff"
    browserXssFilter := ← flag "browserXssFilter"
    customBrowserXssValue := ← text "customBrowserXSSValue"
    contentSecurityPolicy := ← text "contentSecurityPolicy"
    publicKey := ← text "publicKey"
    referrerPolicy := ← text "referrerPolicy"
    isDevelopment := ← flag "isDevelopment" }

def ipStrategy? (value : Value) : Option IpStrategy := do
  let fields ← record? .refused ["depth", "excludedIPs"] 0 value
  return {
    depth := ← fields.optional "depth" int64?
    excludedIps := ← fields.optional "excludedIPs" (texts? .refused) }

def ipWhiteList? (value : Value) : Option MiddlewareKind := do
  let fields ← record? .refused ["sourceRange", "ipStrategy"] 1 value
  return .ipWhiteList {
    sourceRange := ← fields.required "sourceRange" (texts? .refused)
    ipStrategy := ← fields.optional "ipStrategy" ipStrategy? }

def redirectRegex? (value : Value) : Option MiddlewareKind := do
  let fields ← record? .refused ["regex", "replacement", "permanent"] 2 value
  return .redirectRegex {
    regex := ← fields.required "regex" Value.text?
    replacement := ← fields.required "replacement" Value.text?
    permanent := ← flagOrFalse fields "permanent" }

def replacePathRegex? (value : Value) : Option MiddlewareKind := do
  let fields ← record? .refused ["regex", "replacement"] 2 value
  return .replacePathRegex {
    regex := ← fields.required "regex" Value.text?
    replacement := ← fields.required "replacement" Value.text? }

def replacePath? (value : Value) : Option MiddlewareKind := do
  let fields ← record? .refused ["path"] 1 value
  return .replacePath (← fields.required "path" Value.text?)

def addPrefix? (value : Value) : Option MiddlewareKind := do
  let fields ← record? .refused ["prefix"] 1 value
  return .addPrefix (← fields.required "prefix" Value.text?)

def stripPrefix? (value : Value) : Option MiddlewareKind := do
  let fields ← record? .refused ["prefixes"] 1 value
  return .stripPrefix (← fields.required "prefixes" (texts? .refused))

/-- The reading of the settings under a key, if the key names a kind. -/
def reading? (key : String) : Option (Value → Option MiddlewareKind) :=
  match key with
  | "basicAuth" => some basicAuth?
  | "headers" => some headers?
  | "ipWhiteList" => some ipWhiteList?
  | "redirectRegex" => some redirectRegex?
  | "replacePath" => some replacePath?
  | "replacePathRegex" => some replacePathRegex?
  | "addPrefix" => some addPrefix?
  | "stripPrefix" => some stripPrefix?
  | _ => none

/-- The kind of the first entry whose key names one. -/
def ofEntries? : List (Value × Value) → Option MiddlewareKind
  | [] => none
  | (.string key, value) :: rest =>
      match reading? key with
      | some read => read value
      | none => ofEntries? rest
  | _ :: rest => ofEntries? rest

mutual

/-- Whether no part of a value has a tag. -/
def hasNoTag : Value → Bool
  | .tagged _ _ => false
  | .sequence items => itemsHaveNoTag items
  | .mapping entries => entriesHaveNoTag entries
  | _ => true

def itemsHaveNoTag : List Value → Bool
  | [] => true
  | item :: rest => hasNoTag item && itemsHaveNoTag rest

def entriesHaveNoTag : List (Value × Value) → Bool
  | [] => true
  | (key, value) :: rest => hasNoTag key && hasNoTag value && entriesHaveNoTag rest

end

/-- The kind of a specification, in which nothing may have a tag. -/
def ofValue? (value : Value) : Option MiddlewareKind :=
  match value with
  | .mapping entries => if entriesHaveNoTag entries then ofEntries? entries else none
  | _ => none

end MiddlewareKind

namespace Middleware

def apiVersion : String := "traefik.containo.us/v1alpha1"

def resourceKind : String := "Middleware"

/-- The middleware of the kind with a name in a namespace. -/
def named (namespaceName name : String) (kind : MiddlewareKind) : Middleware where
  metadata := { name := some name, namespaceName := some namespaceName }
  kind := kind

/-- The name, empty when it is not set. -/
def name (middleware : Middleware) : String :=
  middleware.metadata.name.getD ""

/-- The namespace, empty when it is not set. -/
def namespaceName (middleware : Middleware) : String :=
  middleware.metadata.namespaceName.getD ""

def toValue (middleware : Middleware) : Value :=
  ofFields (
    written "apiVersion" (.string apiVersion) ++
    written "kind" (.string resourceKind) ++
    written "metadata" middleware.metadata.toValue ++
    written "spec" middleware.kind.toValue)

def render (middleware : Middleware) : String :=
  Yaml.render middleware.toValue

/-- The middleware that a value stands for, whatever version and kind the value names. -/
def ofValue? (value : Value) : Option Middleware := do
  let fields ← (object? .refused value).filter fun fields => fields.distinct ["metadata", "spec"]
  return {
    metadata := ← fields.required "metadata" (ObjectMeta.ofValue? .refused)
    kind := ← fields.required "spec" MiddlewareKind.ofValue? }

/-- The content of the one entry with the key. -/
def entry? (key : String) (entries : List (Content × Content)) : Option Content :=
  match entries.filter fun entry => Shape.scalarText? entry.1 = some key with
  | [(_, content)] => some content
  | _ => none

/-- The middleware that content stands for, where scalars in the metadata stand for their texts and
entries that a middleware does not have are not read. -/
def ofContent? : Content → Option Middleware
  | .mapping _ entries =>
      if entries.all fun entry => (Shape.scalarText? entry.1).isSome then do
        let metadata ← ObjectMeta.shape.read? (← entry? "metadata" entries)
        let specification ← (← entry? "spec" entries).value?
        return {
          metadata := ← ObjectMeta.ofValue? .refused metadata
          kind := ← MiddlewareKind.ofValue? specification }
      else none
  | _ => none

/-- The middleware that a document stands for. Where the document as it is stands for none, the
scalars in its metadata may stand for their texts. -/
def ofText? (text : String) : Option Middleware :=
  (Yaml.parse text).bind ofValue? <|>
    (Yaml.content? text).bind fun content => content.bind ofContent?

end Middleware

end TraefikUpgrade
