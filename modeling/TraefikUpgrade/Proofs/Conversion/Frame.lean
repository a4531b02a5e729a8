import TraefikUpgrade.Proofs.Conversion.Annotate
import TraefikUpgrade.Proofs.Conversion.Outcome

/-!
Contract: what a conversion leaves of an Ingress as it is.

Owns: the two annotations that a conversion may set, with their values; that
everything else of an Ingress stays, as the specification has it; and that an
Ingress without annotations stays as a whole, since every middleware, every
reference and the entry points come from an annotation.

Does not own: which references there are
(`TraefikUpgrade.Proofs.Conversion.Specification`).
-/

set_option autoImplicit false

namespace TraefikUpgrade.Conversion

open Annotation
open Kubernetes (Ingress)
open Specification (text IsHandled)

/-! ### The annotations of a router -/

section Stored

variable (ingress : Ingress) (key : String)

theorem storedAnnotation_annotate (set value : String) :
    storedAnnotation (annotate ingress set value) key =
      if key = set then some value else storedAnnotation ingress key :=
  get?_annotate ingress set value key

theorem storedAnnotation_withEntryPoints :
    storedAnnotation (withEntryPoints ingress) key =
      if key = Key.routerEntryPoints ∧ text ingress Key.frontendEntryPoints ≠ "" then
        some (text ingress Key.frontendEntryPoints)
      else storedAnnotation ingress key := by
  unfold withEntryPoints
  rw [Annotations.value?_eq, Specification.text_eq]
  by_cases noEntryPoints : ingress.annotations.text Key.frontendEntryPoints = ""
  · simp [noEntryPoints]
  · simp [noEntryPoints, storedAnnotation_annotate]

theorem storedAnnotation_withReferences (references : List String) :
    storedAnnotation (withReferences ingress references) key =
      if key = Key.routerMiddlewares ∧ references ≠ [] then some (",".intercalate references)
      else storedAnnotation ingress key := by
  unfold withReferences
  by_cases noReferences : references = []
  · simp [noReferences]
  · simp [noReferences, storedAnnotation_annotate, joinReferences_eq]

/-- A conversion touches no annotation but those of the router. -/
theorem storedAnnotation_ofChain (complete : Chain) :
    storedAnnotation (ofChain ingress complete).ingress key =
      if key = Key.routerMiddlewares ∧ complete.references ≠ [] then
        some (",".intercalate complete.references)
      else if key = Key.routerEntryPoints ∧ text ingress Key.frontendEntryPoints ≠ "" then
        some (text ingress Key.frontendEntryPoints)
      else storedAnnotation ingress key := by
  unfold ofChain
  rw [storedAnnotation_withReferences, storedAnnotation_withEntryPoints]

end Stored

/-! ### Ingresses without annotations -/

section Unannotated

variable {ingress : Ingress} (noAnnotations : ingress.metadata.annotations = none)

include noAnnotations

theorem annotations_of_unannotated : ingress.annotations = ⟨none⟩ :=
  congrArg Annotations.mk noAnnotations

theorem text_of_unannotated (key : String) : text ingress key = "" := by
  rw [Specification.text_eq, annotations_of_unannotated noAnnotations]
  rfl

theorem fault?_of_unannotated : fault? ingress = none := by
  have noConflict : ingress.routes.any (Attempt.isConflicting ⟨none⟩ RuleType.default) = false :=
    List.any_eq_false.2 fun _ _ => nofun
  unfold fault?
  rw [annotations_of_unannotated noAnnotations]
  change (if ingress.routes.any (Attempt.isConflicting ⟨none⟩ RuleType.default) then _ else _) = _
  rw [noConflict]
  rfl

theorem attempts_of_unannotated : Specification.attempts ingress = [] := by
  have noPath (host path : String) : Specification.ofPath ingress host path = [] := by
    unfold Specification.ofPath Specification.attemptIf
    simp [text_of_unannotated noAnnotations, Specification.strippingRuleTypes]
  have noRule (rule : Kubernetes.IngressRule) : Specification.ofRule ingress rule = [] := by
    unfold Specification.ofRule
    cases rule.http with
    | none => rfl
    | some paths => simp [noPath]
  have noGeneral : (Attempt.ofAnnotations ⟨none⟩ "").value = [] := by decide +kernel
  rw [← annotations_of_unannotated noAnnotations, Specification.ofAnnotations_value] at noGeneral
  unfold Specification.attempts
  rw [noGeneral]
  simp [noRule]

theorem chain_of_unannotated (configuration : Configuration) :
    chain configuration ingress = Chain.empty := by
  unfold chain calls Specification.leadingReferences
  rw [attempts_of_unannotated noAnnotations, if_pos (text_of_unannotated noAnnotations _)]
  rfl

theorem ofChain_of_unannotated (configuration : Configuration) :
    ofChain ingress (chain configuration ingress) = ⟨ingress, []⟩ := by
  have noEntryPoints : withEntryPoints ingress = ingress := by
    unfold withEntryPoints
    rw [annotations_of_unannotated noAnnotations]
    rfl
  unfold ofChain
  rw [noEntryPoints, chain_of_unannotated noAnnotations]
  simp [withReferences, Chain.empty, Chain.sortedMiddlewares]

theorem convert_of_unannotated (configuration : Configuration) :
    (convert configuration ingress).value = .ok ⟨ingress, []⟩ := by
  refine convert_eq_ok_iff.2 (.inl ⟨?_, fault?_of_unannotated noAnnotations, ?_⟩)
  · exact .inl (text_of_unannotated noAnnotations _)
  · exact (ofChain_of_unannotated noAnnotations configuration).symm

end Unannotated

/-! ### The annotated Ingress -/

section Annotated

variable {ingress : Ingress}

/-- Setting an annotation leaves a map where there is one. -/
theorem isSome_annotations_ofChain (hasMap : ingress.metadata.annotations.isSome = true)
    (complete : Chain) :
    (ofChain ingress complete).ingress.metadata.annotations.isSome = true := by
  have ofEntryPoints : (withEntryPoints ingress).metadata.annotations.isSome = true := by
    unfold withEntryPoints
    split
    · rfl
    · exact hasMap
  unfold ofChain withReferences
  split
  · exact ofEntryPoints
  · rfl

/-- The complete chain sets no annotation where there is no map, since it is empty then. -/
theorem isSome_annotations_chain (configuration : Configuration) (ingress : Ingress) :
    (ofChain ingress (chain configuration ingress)).ingress.metadata.annotations.isSome =
      ingress.metadata.annotations.isSome := by
  cases annotations : ingress.metadata.annotations with
  | none => rw [ofChain_of_unannotated annotations, annotations]
  | some map =>
      have hasMap : ingress.metadata.annotations.isSome = true := congrArg Option.isSome annotations
      exact isSome_annotations_ofChain hasMap _

/-- The complete chain of an Ingress writes the specified references and leaves everything else. -/
theorem isAnnotated_ofChain (configuration : Configuration) (ingress : Ingress) :
    Specification.IsAnnotated ingress (Specification.references configuration ingress)
      (ofChain ingress (chain configuration ingress)).ingress where
  spec := blind_ofChain Ingress.spec (fun _ _ _ => rfl) ingress _
  status := blind_ofChain Ingress.status (fun _ _ _ => rfl) ingress _
  metadata := blind_ofChain
    (fun other => { other.metadata with annotations := ingress.metadata.annotations })
    (fun _ _ _ => rfl) ingress _
  annotationMap := isSome_annotations_chain configuration ingress
  annotations key := by rw [storedAnnotation_ofChain, references_chain]

end Annotated

/-! ### The frame -/

/-- What a conversion leaves of an Ingress, and what it sets. -/
structure KeepsFrame (configuration : Configuration) (ingress : Ingress)
    (conversion : Conversion) : Prop where
  spec : conversion.ingress.spec = ingress.spec
  status : conversion.ingress.status = ingress.status
  /-- All metadata but the annotations stays. -/
  metadata :
    { conversion.ingress.metadata with annotations := ingress.metadata.annotations } =
      ingress.metadata
  otherAnnotations : ∀ key, key ≠ Key.routerEntryPoints → key ≠ Key.routerMiddlewares →
    storedAnnotation conversion.ingress key = storedAnnotation ingress key
  entryPoints : storedAnnotation conversion.ingress Key.routerEntryPoints =
    if IsHandled configuration ingress ∧ text ingress Key.frontendEntryPoints ≠ "" then
      some (text ingress Key.frontendEntryPoints)
    else storedAnnotation ingress Key.routerEntryPoints
  middlewares : storedAnnotation conversion.ingress Key.routerMiddlewares =
    if IsHandled configuration ingress ∧ Specification.references configuration ingress ≠ [] then
      some (",".intercalate (Specification.references configuration ingress))
    else storedAnnotation ingress Key.routerMiddlewares
  /-- An annotation map is neither made nor removed. -/
  annotationMap :
    conversion.ingress.metadata.annotations.isSome = ingress.metadata.annotations.isSome

variable {configuration : Configuration} {ingress : Ingress} {conversion : Conversion}

/-- An Ingress without annotations, or of a class that is not handled, is not converted. -/
theorem convert_of_untouched
    (untouched : ingress.metadata.annotations = none ∨ ¬IsHandled configuration ingress) :
    (convert configuration ingress).value = .ok ⟨ingress, []⟩ := by
  rcases untouched with noAnnotations | notHandled
  · exact convert_of_unannotated noAnnotations configuration
  · exact convert_eq_ok_iff.2 (.inr ⟨notHandled, rfl⟩)

theorem keepsFrame_of_converted
    (converted : (convert configuration ingress).value = .ok conversion) :
    KeepsFrame configuration ingress conversion := by
  have otherKeys : Key.routerEntryPoints ≠ Key.routerMiddlewares := by decide +kernel
  rcases convert_eq_ok_iff.1 converted with ⟨handled, -, rfl⟩ | ⟨notHandled, rfl⟩
  · have annotated := isAnnotated_ofChain configuration ingress
    exact
      { spec := annotated.spec
        status := annotated.status
        metadata := annotated.metadata
        otherAnnotations := fun key noEntryPoints noMiddlewares => by
          simp [annotated.annotations, noEntryPoints, noMiddlewares]
        entryPoints := by simp [annotated.annotations, otherKeys, handled]
        middlewares := by simp [annotated.annotations, otherKeys.symm, handled]
        annotationMap := annotated.annotationMap }
  · exact
      { spec := rfl
        status := rfl
        metadata := rfl
        otherAnnotations := fun _ _ _ => rfl
        entryPoints := by simp [notHandled]
        middlewares := by simp [notHandled]
        annotationMap := rfl }

/-- A conversion sets the annotations of the router and leaves everything else as it is. Without
annotations, and when its class is not handled, an Ingress stays as a whole. -/
theorem conversion_keeps_frame (configuration : Configuration) (ingress : Ingress) :
    (∀ conversion, (convert configuration ingress).value = .ok conversion →
      KeepsFrame configuration ingress conversion) ∧
    (ingress.metadata.annotations = none ∨ ¬IsHandled configuration ingress →
      (convert configuration ingress).value = .ok ⟨ingress, []⟩) :=
  ⟨fun _ converted => keepsFrame_of_converted converted, convert_of_untouched⟩

/-- An Ingress of another controller, with entry points that are not for its router. -/
def foreignIngress : Ingress where
  metadata :=
    { annotations := some (TextMap.ofList [
        (Key.ingressClass, "nginx"),
        (Key.frontendEntryPoints, "http")]) }
  spec := none
  status := none

theorem conversion_keeps_frame_guarded :
    Specification.references .default guardedIngress ≠ [] ∧
      KeepsFrame .default guardedIngress
        (ofChain guardedIngress (chain .default guardedIngress)) ∧
      ¬IsHandled .default foreignIngress ∧
      (convert .default foreignIngress).value = .ok ⟨foreignIngress, []⟩ := by
  have someReferences : Specification.references .default guardedIngress ≠ [] := by
    decide +kernel
  have notHandled : ¬IsHandled .default foreignIngress := by decide +kernel
  have framed := (conversion_keeps_frame .default guardedIngress).1 _ converted_guarded
  have unchanged := (conversion_keeps_frame .default foreignIngress).2 (.inr notHandled)
  exact ⟨someReferences, framed, notHandled, unchanged⟩

end TraefikUpgrade.Conversion
