import TraefikUpgrade.Proofs.Conversion.Dependence

/-!
Contract: converting a converted Ingress changes nothing and reports the same.

Owns: what the records of a conversion depend on, which is what its result
depends on and the annotations without an automatic equivalent; that a
conversion leaves all of these as they are; and the law that follows.

Does not own: why the result is the same
(`TraefikUpgrade.Proofs.Conversion.Dependence`).
-/

set_option autoImplicit false

namespace TraefikUpgrade.Conversion

open Annotation
open Kubernetes (Ingress)

/-! ### What is reported -/

/-- Two annotation maps have the same ones of the annotations without an automatic equivalent. -/
def AgreeOnUnsupported (first second : Annotations) : Prop :=
  ∀ entry ∈ Key.unsupported, first.contains entry.1 = second.contains entry.1

/-- The records that a chain leaves once the rule type is resolved. -/
def chainRecords (configuration : Configuration) (ingress : Ingress) : List LogRecord :=
  match (RuleType.ofAnnotations ingress.annotations).value with
  | .error _ => []
  | .ok ruleType =>
      ((initialChain configuration ingress.annotations).pushAll (owner configuration ingress)
        ((Attempt.ofAnnotations ingress.annotations (resource configuration ingress)).value ++
          Attempt.ofRoutes ingress.annotations ruleType ingress.routes)).records

/-- The records of a handled Ingress in the order in which they come. -/
theorem convertHandled_records (configuration : Configuration) (ingress : Ingress) :
    (convertHandled configuration ingress).records =
      unsupportedWarnings ingress.annotations (resource configuration ingress) ++
        ((Attempt.ofAnnotations ingress.annotations (resource configuration ingress)).records ++
          ((RuleType.ofAnnotations ingress.annotations).records ++
            chainRecords configuration ingress)) := by
  unfold convertHandled chainRecords
  simp only [Logged.records_bind]
  cases (RuleType.ofAnnotations ingress.annotations).value with
  | error error => rfl
  | ok ruleType =>
      -- the last step leaves no record, whether there is a conflict or not
      simp only [Logged.records_bind]
      split
      · simp
      · simp

section Agreement

variable {configuration : Configuration} {first second : Ingress}

theorem resource_congr (agree : AgreeOffRoutes configuration first second) :
    resource configuration first = resource configuration second := by
  unfold resource
  rw [agree.namespaceName, agree.name]

theorem unsupportedWarnings_congr {first second : Annotations}
    (agree : AgreeOnUnsupported first second) (resource : String) :
    unsupportedWarnings first resource = unsupportedWarnings second resource := by
  unfold unsupportedWarnings
  rw [List.filter_congr agree]

theorem initialChain_congr (agree : AgreeOnDirectives first.annotations second.annotations) :
    initialChain configuration first.annotations =
      initialChain configuration second.annotations := by
  unfold initialChain Annotations.contains
  rw [agree Key.sslRedirect (by simp)]

theorem ofRoutes_congr (agree : AgreeOnDirectives first.annotations second.annotations)
    (ruleType : RuleType) (routes : List Route) :
    Attempt.ofRoutes first.annotations ruleType routes =
      Attempt.ofRoutes second.annotations ruleType routes := by
  have ofRoute : Attempt.ofRoute first.annotations ruleType =
      Attempt.ofRoute second.annotations ruleType := by
    funext route
    unfold Attempt.ofRoute Attempt.rewriteTarget Attempt.appRoot Directive.appRoot
    rw [agree Key.rewriteTarget (by simp), agree Key.appRoot (by simp),
      flag_congr (agree Key.redirectPermanent (by simp))]
  unfold Attempt.ofRoutes
  rw [isConflicting_congr agree, ofRoute]

/-- Ingresses that agree, also on what cannot be converted, are reported on in the same way. -/
theorem convert_records_congr (agree : Agree configuration first second)
    (unsupported : AgreeOnUnsupported first.annotations second.annotations) :
    (convert configuration first).records = (convert configuration second).records := by
  have sameResource := resource_congr agree.toAgreeOffRoutes
  have sameChain : chainRecords configuration first = chainRecords configuration second := by
    unfold chainRecords
    rw [ruleType_congr agree.directives, sameResource, agree.routes,
      owner_congr agree.toAgreeOffRoutes, initialChain_congr agree.directives,
      ofAnnotations_congr agree.directives]
    simp only [ofRoutes_congr agree.directives]
  unfold convert
  rw [foreignClass?_congr agree.toAgreeOffRoutes, sameResource]
  cases foreignClass? configuration second.annotations with
  | some foreign => rfl
  | none =>
      dsimp only
      rw [convertHandled_records, convertHandled_records, sameChain, sameResource,
        unsupportedWarnings_congr unsupported, ofAnnotations_congr agree.directives,
        ruleType_congr agree.directives]

end Agreement

/-! ### Converted Ingresses -/

section Converted

variable {configuration : Configuration} {ingress : Ingress} {conversion : Conversion}

theorem agreeOnUnsupported_ofChain (complete : Chain) :
    AgreeOnUnsupported (ofChain ingress complete).ingress.annotations ingress.annotations := by
  have routerKeys : ∀ entry ∈ Key.unsupported,
      entry.1 ≠ Key.routerEntryPoints ∧ entry.1 ≠ Key.routerMiddlewares := by decide +kernel
  intro entry isUnsupported
  obtain ⟨noEntryPoints, noMiddlewares⟩ := routerKeys entry isUnsupported
  unfold Annotations.contains
  rw [value?_ofChain ingress complete noEntryPoints noMiddlewares]

/-- A conversion leaves everything as it is that conversions and their records depend on. -/
theorem agree_of_converted (converted : (convert configuration ingress).value = .ok conversion) :
    Agree configuration conversion.ingress ingress ∧
      AgreeOnUnsupported conversion.ingress.annotations ingress.annotations := by
  rcases convert_eq_ok_iff.1 converted with ⟨-, -, rfl⟩ | ⟨-, rfl⟩
  · exact ⟨agree_ofChain configuration ingress _, agreeOnUnsupported_ofChain _⟩
  · exact ⟨⟨⟨rfl, rfl, fun _ _ => rfl⟩, rfl⟩, fun _ _ => rfl⟩

/-- Converting the Ingress of a conversion gives the conversion, with the same records: the
annotations of the router are read by nothing, and writing them once more changes nothing. -/
theorem conversion_is_idempotent
    (converted : (convert configuration ingress).value = .ok conversion) :
    (convert configuration conversion.ingress).value = .ok conversion ∧
      (convert configuration conversion.ingress).records =
        (convert configuration ingress).records := by
  obtain ⟨agree, unsupported⟩ := agree_of_converted converted
  exact ⟨convert_conversion converted, convert_records_congr agree unsupported⟩

end Converted

/-- An Ingress with entry points, a rate limit that cannot be converted, and two paths whose
middlewares have one name. -/
def crowdedIngress : Ingress where
  metadata :=
    { name := some "shop"
      annotations := some (TextMap.ofList [
        (Key.frontendEntryPoints, "http,https"),
        ("traefik.ingress.kubernetes.io/rate-limit", "100"),
        (Key.sslRedirect, "true"),
        (Key.rewriteTarget, "/"),
        (Key.routerMiddlewares, "old@file")]) }
  spec := some
    { defaultBackend := none
      ingressClassName := none
      rules := some [⟨none, some [⟨.unset, some "/cart", ""⟩, ⟨.unset, some "/cart/", ""⟩]⟩]
      tls := none }
  status := none

theorem conversion_is_idempotent_crowded :
    ∃ conversion,
      (convert .default crowdedIngress).value = .ok conversion ∧
      conversion.ingress ≠ crowdedIngress ∧ conversion.middlewares.length = 1 ∧
      (convert .default conversion.ingress).value = .ok conversion ∧
      (convert .default conversion.ingress).records = (convert .default crowdedIngress).records := by
  let result := ofChain crowdedIngress (chain .default crowdedIngress)
  have evaluated : (convert .default crowdedIngress).value = .ok result ∧
      result.ingress ≠ crowdedIngress ∧ result.middlewares.length = 1 := by decide +kernel
  exact ⟨result, evaluated.1, evaluated.2.1, evaluated.2.2, conversion_is_idempotent evaluated.1⟩

end TraefikUpgrade.Conversion
