import TraefikUpgrade.Yaml.Document

/-!
Contract: the settings of a run.

Owns: the settings with their defaults, and the reading of a configuration
document. Every setting has to be a text; keys that name no setting are
ignored, and of a repeated key the last entry counts.

Does not own: where the document is found (`TraefikUpgrade.Program`).
-/

set_option autoImplicit false

namespace TraefikUpgrade

open Yaml (Content TagRole)

structure Configuration where
  /-- What the ingress class of an Ingress has to contain. -/
  ingressClassMarker : String
  /-- The reference to the middleware that redirects to HTTPS. -/
  sslRedirectMiddleware : String
  /-- The provider in references to generated middlewares. -/
  middlewareProvider : String
  /-- The namespace of an Ingress that names none. -/
  defaultNamespace : String
deriving DecidableEq, Repr

inductive ConfigurationError where
  /-- The setting with the key is no text. -/
  | notText (key : String)
  /-- The document is no mapping from keys to values. -/
  | malformed
deriving DecidableEq, Repr

def ConfigurationError.message : ConfigurationError → String
  | .notText key => s!"the setting {key} is not a text"
  | .malformed => "the configuration is not a mapping of settings"

namespace Configuration

def default : Configuration where
  ingressClassMarker := "traefik"
  sslRedirectMiddleware := "ssl-redirect@file"
  middlewareProvider := "kubernetescrd"
  defaultNamespace := "default"

inductive ScalarReading where
  | text (value : String)
  | other
deriving DecidableEq, Repr

/-- The reading of a scalar; none where its text does not fit its tag. Integers of any recognised
size are read. -/
def scalarReading? (tag : Option String) (plain : Bool) (text : String) :
    Option ScalarReading :=
  let untagged : ScalarReading :=
    if plain && Yaml.Scalar.plainValue? text ≠ some (.string text) then .other else .text text
  match TagRole.ofTag? tag with
  | some .untagged => some untagged
  | some (.core .integer) =>
      ((Yaml.Scalar.integer? text.toList).filter Yaml.Scalar.isRecognisedInteger).map fun _ =>
        .other
  | some (.core tag) => (tag.value? text).map fun _ => .other
  | some .foreign => some (.text text)
  | _ => some .other

def key? : Content → Option String
  | .scalar _ _ text => some text
  | _ => none

mutual

def isReadable : Content → Bool
  | .scalar tag plain text => (scalarReading? tag plain text).isSome
  | .sequence _ items => areReadable items
  | .mapping _ entries => areReadableEntries entries

def areReadable : List Content → Bool
  | [] => true
  | item :: rest => isReadable item && areReadable rest

def areReadableEntries : List (Content × Content) → Bool
  | [] => true
  | (key, value) :: rest =>
      (key? key).isSome && isReadable value && areReadableEntries rest

end

/-- The value of a key; of several entries the last one counts. -/
def lookup? (key : String) (entries : List (Content × Content)) : Option Content :=
  (entries.reverse.find? fun entry => key? entry.1 = some key).map Prod.snd

/-- The setting with the key, or its default when the key is not there. -/
def setting (entries : List (Content × Content)) (key fallback : String) :
    Except ConfigurationError String :=
  match lookup? key entries with
  | none => .ok fallback
  | some (.scalar tag plain text) =>
      match scalarReading? tag plain text with
      | some (.text value) => .ok value
      | _ => .error (.notText key)
  | some _ => .error (.notText key)

/-- The configuration that the entries of a document make; the settings are read in the order of
their keys. -/
def ofEntries (entries : List (Content × Content)) : Except ConfigurationError Configuration :=
  if areReadableEntries entries then do
    let defaultNamespace ← setting entries "defaultNamespace" default.defaultNamespace
    let ingressClassMarker ← setting entries "ingressClassMarker" default.ingressClassMarker
    let middlewareProvider ← setting entries "middlewareProvider" default.middlewareProvider
    let sslRedirectMiddleware ←
      setting entries "sslRedirectMiddleware" default.sslRedirectMiddleware
    return { ingressClassMarker, sslRedirectMiddleware, middlewareProvider, defaultNamespace }
  else .error .malformed

/-- The configuration that a document makes. A document without content sets nothing. -/
def ofText (text : String) : Except ConfigurationError Configuration :=
  match Yaml.content? text with
  | none => .error .malformed
  | some none => .ok default
  | some (some (.scalar _ _ "")) => .ok default
  | some (some (.mapping _ entries)) => ofEntries entries
  | some (some _) => .error .malformed

end Configuration

end TraefikUpgrade
