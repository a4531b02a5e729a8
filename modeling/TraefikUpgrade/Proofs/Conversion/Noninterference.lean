import Mathlib.Logic.Relation
import TraefikUpgrade.Proofs.Conversion.Dependence

/-!
Contract: what has no say in the middlewares of an Ingress.

Owns: the outcomes of two conversions that count as the same, the changes of an
Ingress that are neutral, and the law that Ingresses which agree on their names,
directives and routes have the same outcome, whatever else they hold.

Does not own: how the result is made of directives and routes
(`TraefikUpgrade.Proofs.Conversion.Specification`).
-/

set_option autoImplicit false

namespace TraefikUpgrade.Conversion

open Annotation
open Kubernetes (Ingress IngressRule IngressSpec IngressStatus HttpPath ObjectMeta)
open Specification (IsHandled)

/-! ### Outcomes -/

/-- A list of references is the one that is specified for an Ingress, and its conversion has written
them, with commas between them, to the annotation of the router for middlewares. -/
structure IsReferenceList (configuration : Configuration) (ingress : Ingress)
    (conversion : Conversion) (references : List String) : Prop where
  specified : Specification.references configuration ingress = references
  written : Specification.IsAnnotated ingress references conversion.ingress

/-- Two conversions fail for the same reason, or make the same middlewares and, if the class is
handled, the same references to them. -/
inductive SameOutcome (configuration : Configuration) (first second : Ingress) : Prop where
  | failed {error : ConversionError}
      (firstFailed : (convert configuration first).value = .error error)
      (secondFailed : (convert configuration second).value = .error error)
  | converted {firstConversion secondConversion : Conversion}
      (firstConverted : (convert configuration first).value = .ok firstConversion)
      (secondConverted : (convert configuration second).value = .ok secondConversion)
      (middlewares : firstConversion.middlewares = secondConversion.middlewares)
      (references : IsHandled configuration first → ∃ references,
        IsReferenceList configuration first firstConversion references ∧
        IsReferenceList configuration second secondConversion references)

section Outcomes

variable {configuration : Configuration} {first second : Ingress}

theorem isReferenceList_ofChain (configuration : Configuration) (ingress : Ingress) :
    IsReferenceList configuration ingress (ofChain ingress (chain configuration ingress))
      (chain configuration ingress).references := by
  rw [references_chain]
  exact ⟨rfl, isAnnotated_ofChain configuration ingress⟩

/-- Two Ingresses of which both or none are handled, and which have the same fault if any, both
fail, are both converted by their chains, or both stay as they are. -/
theorem convert_cases
    (sameClass : IsHandled configuration first ↔ IsHandled configuration second)
    (sameFault : fault? first = fault? second) :
    (∃ error, (convert configuration first).value = .error error ∧
        (convert configuration second).value = .error error) ∨
      (IsHandled configuration first ∧
        (convert configuration first).value = .ok (ofChain first (chain configuration first)) ∧
        (convert configuration second).value = .ok (ofChain second (chain configuration second))) ∨
      (¬IsHandled configuration first ∧
        (convert configuration first).value = .ok ⟨first, []⟩ ∧
        (convert configuration second).value = .ok ⟨second, []⟩) := by
  by_cases handled : IsHandled configuration first
  · have secondHandled := sameClass.1 handled
    cases fault : fault? first with
    | some error =>
        have secondFault : fault? second = some error := sameFault ▸ fault
        exact .inl ⟨error, convert_eq_error_of_fault? handled fault,
          convert_eq_error_of_fault? secondHandled secondFault⟩
    | none =>
        have secondFaultless : fault? second = none := sameFault ▸ fault
        exact .inr (.inl ⟨handled, convert_eq_ok_iff.2 (.inl ⟨handled, fault, rfl⟩),
          convert_eq_ok_iff.2 (.inl ⟨secondHandled, secondFaultless, rfl⟩)⟩)
  · exact .inr (.inr ⟨handled, convert_eq_ok_iff.2 (.inr ⟨handled, rfl⟩),
      convert_eq_ok_iff.2 (.inr ⟨mt sameClass.2 handled, rfl⟩)⟩)

/-- The class, the fault and the chain decide the outcome. -/
theorem sameOutcome_of_sameChain
    (sameClass : IsHandled configuration first ↔ IsHandled configuration second)
    (sameFault : fault? first = fault? second)
    (sameChain : chain configuration first = chain configuration second) :
    SameOutcome configuration first second := by
  rcases convert_cases sameClass sameFault with
    ⟨error, firstFailed, secondFailed⟩ | ⟨-, firstConverted, secondConverted⟩ |
      ⟨notHandled, firstKept, secondKept⟩
  · exact .failed firstFailed secondFailed
  · refine .converted firstConverted secondConverted ?_ fun _ => ?_
    · exact congrArg Chain.sortedMiddlewares sameChain
    · refine ⟨_, isReferenceList_ofChain configuration first, ?_⟩
      rw [sameChain]
      exact isReferenceList_ofChain configuration second
  · exact .converted firstKept secondKept rfl fun handled => absurd handled notHandled

end Outcomes

/-! ### Agreement -/

namespace Agree

variable {configuration : Configuration} {first second third : Ingress}

theorem refl (ingress : Ingress) : Agree configuration ingress ingress :=
  ⟨⟨rfl, rfl, fun _ _ => rfl⟩, rfl⟩

theorem symm (agree : Agree configuration first second) : Agree configuration second first where
  name := agree.name.symm
  namespaceName := agree.namespaceName.symm
  directives key isDirective := (agree.directives key isDirective).symm
  routes := agree.routes.symm

theorem trans (agree : Agree configuration first second)
    (agreeNext : Agree configuration second third) : Agree configuration first third where
  name := agree.name.trans agreeNext.name
  namespaceName := agree.namespaceName.trans agreeNext.namespaceName
  directives key isDirective :=
    (agree.directives key isDirective).trans (agreeNext.directives key isDirective)
  routes := agree.routes.trans agreeNext.routes

theorem sameOutcome (agree : Agree configuration first second) :
    SameOutcome configuration first second :=
  sameOutcome_of_sameChain agree.isHandled_iff agree.sameFault (chain_congr agree)

end Agree

/-! ### Neutral changes -/

/-- The annotations of the router, and those without an automatic equivalent. -/
def neutralKeys : List String :=
  Key.routerEntryPoints :: Key.routerMiddlewares :: Key.unsupported.map Prod.fst

/-- A change of one part of an Ingress that is no directive and no route. -/
inductive IsNeutralChange : Ingress → Ingress → Prop where
  /-- Labels and all other metadata but the name, the namespace and the annotations. -/
  | metadata (ingress : Ingress) (changed : ObjectMeta)
      (sameName : changed.name = ingress.metadata.name)
      (sameNamespace : changed.namespaceName = ingress.metadata.namespaceName)
      (sameAnnotations : changed.annotations = ingress.metadata.annotations) :
      IsNeutralChange ingress { ingress with metadata := changed }
  | annotations (ingress : Ingress) (changed : Option TextMap)
      (kept : ∀ key ∉ neutralKeys, (changed.bind fun map => map.get? key) =
        ingress.metadata.annotations.bind fun map => map.get? key) :
      IsNeutralChange ingress
        { ingress with metadata := { ingress.metadata with annotations := changed } }
  | status (ingress : Ingress) (changed : Option IngressStatus) :
      IsNeutralChange ingress { ingress with status := changed }
  /-- The default backend, TLS, and the class that stands in the specification. -/
  | spec (ingress : Ingress) (original changed : IngressSpec)
      (isSpec : ingress.spec = some original) (sameRules : changed.rules = original.rules) :
      IsNeutralChange ingress { ingress with spec := some changed }
  /-- A further rule without an HTTP part. -/
  | rule (ingress : Ingress) (original : IngressSpec) (before after : List IngressRule)
      (host : Option String) (isSpec : ingress.spec = some original)
      (areRules : original.rules = some (before ++ after)) :
      IsNeutralChange ingress
        { ingress with
          spec := some { original with rules := some (before ++ ⟨host, none⟩ :: after) } }
  /-- The backend of a path, with its service and port, and the type of the path. -/
  | path (ingress : Ingress) (original : IngressSpec) (before after : List IngressRule)
      (host : Option String) (earlier later : List HttpPath) (path changed : HttpPath)
      (isSpec : ingress.spec = some original)
      (areRules : original.rules =
        some (before ++ ⟨host, some (earlier ++ path :: later)⟩ :: after))
      (samePath : changed.path = path.path) :
      IsNeutralChange ingress
        { ingress with
          spec := some { original with
            rules := some (before ++ ⟨host, some (earlier ++ changed :: later)⟩ :: after) } }

/-- Setting an annotation of the router, or one without an automatic equivalent, is neutral. -/
theorem isNeutralChange_annotate (ingress : Ingress) {key : String} (isNeutral : key ∈ neutralKeys)
    (value : String) : IsNeutralChange ingress (annotate ingress key value) := by
  refine .annotations ingress _ fun other notNeutral => ?_
  have different : other ≠ key := fun same => notNeutral (same ▸ isNeutral)
  have stored := get?_annotate ingress key value other
  rwa [if_neg different] at stored

/-- No directive is among the annotations that are neutral. -/
theorem not_mem_neutralKeys {key : String} (isDirective : key ∈ directiveKeys) :
    key ∉ neutralKeys := by
  have disjoint : ∀ key ∈ directiveKeys, key ∉ neutralKeys := by decide +kernel
  exact disjoint key isDirective

theorem agree_of_isNeutralChange {configuration : Configuration} {first second : Ingress}
    (change : IsNeutralChange first second) : Agree configuration first second := by
  cases change with
  | metadata changed sameName sameNamespace sameAnnotations =>
      have sameDirectives : first.annotations =
          ({ first with metadata := changed } : Ingress).annotations :=
        congrArg Annotations.mk sameAnnotations.symm
      refine ⟨⟨?_, ?_, fun key _ => congrArg (Annotations.value? · key) sameDirectives⟩, rfl⟩
      · exact congrArg (Option.getD · "") sameName.symm
      · exact congrArg (Option.getD · configuration.defaultNamespace) sameNamespace.symm
  | annotations changed kept =>
      refine ⟨⟨rfl, rfl, fun key isDirective => ?_⟩, rfl⟩
      exact congrArg (Option.filter _) (kept key (not_mem_neutralKeys isDirective)).symm
  | status changed => exact ⟨⟨rfl, rfl, fun _ _ => rfl⟩, rfl⟩
  | spec original changed isSpec sameRules =>
      refine ⟨⟨rfl, rfl, fun _ _ => rfl⟩, ?_⟩
      simp [Ingress.routes, isSpec, sameRules]
  | rule original before after host isSpec areRules =>
      refine ⟨⟨rfl, rfl, fun _ _ => rfl⟩, ?_⟩
      simp [Ingress.routes, isSpec, areRules]
  | path original before after host earlier later path changed isSpec areRules samePath =>
      refine ⟨⟨rfl, rfl, fun _ _ => rfl⟩, ?_⟩
      simp [Ingress.routes, isSpec, areRules, samePath]

/-- After any number of neutral changes, also of some that are taken back, Ingresses agree. -/
theorem agree_of_neutralChanges {configuration : Configuration} {first second : Ingress}
    (changes : Relation.EqvGen IsNeutralChange first second) :
    Agree configuration first second := by
  induction changes with
  | rel first second change => exact agree_of_isNeutralChange change
  | refl ingress => exact .refl ingress
  | symm first second _ inductionHypothesis => exact inductionHypothesis.symm
  | trans first second third _ _ agree agreeNext => exact agree.trans agreeNext

/-- Ingresses that agree on their names, directives and routes have the same outcome, and nothing
else has a say in it. -/
theorem neutral_parts_do_not_interfere (configuration : Configuration) (first second : Ingress) :
    (Agree configuration first second → SameOutcome configuration first second) ∧
    (Relation.EqvGen IsNeutralChange first second → SameOutcome configuration first second) :=
  ⟨Agree.sameOutcome, fun changes => (agree_of_neutralChanges changes).sameOutcome⟩

/-- The guarded Ingress with a status, and with references that another router wrote. -/
def publishedIngress : Ingress :=
  annotate { guardedIngress with status := some ⟨none⟩ } Key.routerMiddlewares "old@file"

theorem neutral_parts_do_not_interfere_published :
    publishedIngress ≠ guardedIngress ∧ (Specification.references .default guardedIngress).length = 2 ∧
      Agree .default guardedIngress publishedIngress ∧
      Relation.EqvGen IsNeutralChange guardedIngress publishedIngress ∧
      SameOutcome .default guardedIngress publishedIngress ∧
      SameOutcome .default publishedIngress guardedIngress := by
  have evaluated : publishedIngress ≠ guardedIngress ∧
      (Specification.references .default guardedIngress).length = 2 := by decide +kernel
  have changes : Relation.EqvGen IsNeutralChange guardedIngress publishedIngress := by
    refine .trans _ _ _ (.rel _ _ (.status guardedIngress (some ⟨none⟩))) (.rel _ _ ?_)
    exact isNeutralChange_annotate _ (by simp [neutralKeys]) _
  have agree : Agree .default guardedIngress publishedIngress := agree_of_neutralChanges changes
  have ofChanges := neutral_parts_do_not_interfere .default guardedIngress publishedIngress
  have ofAgreement := neutral_parts_do_not_interfere .default publishedIngress guardedIngress
  exact ⟨evaluated.1, evaluated.2, agree, changes, ofChanges.2 changes, ofAgreement.1 agree.symm⟩

end TraefikUpgrade.Conversion
