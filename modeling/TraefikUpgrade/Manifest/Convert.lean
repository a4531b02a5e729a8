import TraefikUpgrade.Conversion.Convert
import TraefikUpgrade.Manifest.Document
import TraefikUpgrade.ResourceList

/-!
Contract: the conversion of a manifest.

Owns: what each document of a manifest becomes. A list gives its Ingresses up
as documents of their own. An Ingress becomes its converted form followed by
its middlewares; one that cannot be converted, and everything that is no
Ingress, stays as it stands, and a record says so.

Does not own: the conversion of an Ingress (`TraefikUpgrade.Conversion.Convert`).
-/

set_option autoImplicit false

namespace TraefikUpgrade.Manifest

open Kubernetes (Ingress)

def documentsOf (conversion : Conversion) : List String :=
  Yaml.render conversion.ingress.toValue :: conversion.middlewares.map Middleware.render

def convertIngress (configuration : Configuration) (document : String) (ingress : Ingress) :
    Logged (List String) := do
  match ← Conversion.convert configuration ingress with
  | .ok conversion => return documentsOf conversion
  | .error error =>
      Logged.log .error
        s!"{Conversion.resource configuration ingress}: {error.message}. The Ingress is kept unconverted"
      return [document]

/-- What a document becomes that is no list. -/
def convertDocument (configuration : Configuration) (document : String) :
    Logged (List String) :=
  match Resource.ofText document with
  | .unreadable reason =>
      ⟨[document],
        [⟨.warn, s!"Failed to read a document, it is kept as is: {reason.message}"⟩]⟩
  | .other type =>
      ⟨[document], [⟨.info, s!"Skip {type.kind} ({type.apiVersion}): not an Ingress"⟩]⟩
  | .legacyIngress legacy => convertIngress configuration document legacy.toCurrent
  | .ingress current => convertIngress configuration document current

/-- What the documents of a list become, each on its own, one after the other. -/
def convertEach (convert : String → Logged (List String)) :
    List String → Logged (List String)
  | [] => pure []
  | document :: rest => do
      let converted ← convert document
      let following ← convertEach convert rest
      return converted ++ following

def convertFragment (configuration : Configuration) (document : String) :
    Logged (List String) := do
  convertEach (convertDocument configuration) (← ResourceList.extract document)

/-- The documents that a manifest becomes. -/
def convertedDocuments (configuration : Configuration) (content : String) :
    Logged (List String) :=
  convertEach (convertFragment configuration) (split content)

def convert (configuration : Configuration) (content : String) : Logged String := do
  return join (← convertedDocuments configuration content)

end TraefikUpgrade.Manifest
