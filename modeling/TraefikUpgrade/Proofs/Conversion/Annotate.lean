import TraefikUpgrade.Conversion.Convert
import TraefikUpgrade.Proofs.Text.Map

/-!
Contract: what an Ingress is after annotations of it are set.

Owns: the values of its annotations, when setting an annotation changes
nothing, and what the annotations of a router leave as it is.

Does not own: which annotations are set (`TraefikUpgrade.Conversion.Convert`).
-/

set_option autoImplicit false

namespace TraefikUpgrade.Conversion

open Kubernetes (Ingress)

variable (ingress : Ingress) (key value : String)

theorem get?_annotate (wanted : String) :
    (annotate ingress key value).annotations.map.bind (fun map => map.get? wanted) =
      if wanted = key then some value
      else ingress.annotations.map.bind fun map => map.get? wanted := by
  unfold annotate Ingress.annotations
  rw [Option.bind_some, TextMap.get?_insert]
  cases ingress.metadata.annotations with
  | none => rfl
  | some map => rfl

variable {ingress key value}

theorem annotate_eq_self
    (present : ingress.annotations.map.bind (fun map => map.get? key) = some value) :
    annotate ingress key value = ingress := by
  obtain ⟨map, isMap, isValue⟩ := Option.bind_eq_some_iff.1 present
  have isAnnotations : ingress.metadata.annotations = some map := isMap
  have unchanged : some ((ingress.metadata.annotations.getD TextMap.empty).insert key value) =
      ingress.metadata.annotations := by
    rw [isAnnotations, Option.getD_some, TextMap.insert_eq_self isValue]
  unfold annotate
  simp only [unchanged]

/-! ### The annotations of a router -/

/-- Whatever does not look at the annotations is the same before and after a conversion. -/
theorem blind_ofChain {Part : Type} (part : Ingress → Part)
    (blind : ∀ other key value, part (annotate other key value) = part other)
    (ingress : Ingress) (complete : Chain) :
    part (ofChain ingress complete).ingress = part ingress := by
  have ofEntryPoints : part (withEntryPoints ingress) = part ingress := by
    unfold withEntryPoints
    cases ingress.annotations.value? Annotation.Key.frontendEntryPoints with
    | none => rfl
    | some entryPoints => exact blind _ _ _
  unfold ofChain withReferences
  by_cases noReferences : complete.references = []
  · simp [noReferences, ofEntryPoints]
  · simp [noReferences, blind, ofEntryPoints]

end TraefikUpgrade.Conversion
