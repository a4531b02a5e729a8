import TraefikUpgrade.Proofs.Conversion.Frame

/-!
Contract: the conversion of an Ingress meets its specification.

Owns: the agreement of every conversion of a handled Ingress with the specified
middlewares, their order, and the specified annotations.

Does not own: the specification (`TraefikUpgrade.Proofs.Conversion.Specification`),
and which conversions succeed (`TraefikUpgrade.Proofs.Conversion.Failure`).
-/

set_option autoImplicit false

namespace TraefikUpgrade.Conversion

open Annotation
open Kubernetes (Ingress)

/-- A handled Ingress that is converted becomes what the specification says: the annotations of its
router name the specified references, and its middlewares are the specified ones in the order of
their names. -/
theorem convert_meets_specification (configuration : Configuration) (ingress : Ingress)
    {conversion : Conversion} (handled : Specification.IsHandled configuration ingress)
    (converted : (convert configuration ingress).value = .ok conversion) :
    Specification.IsAnnotated ingress (Specification.references configuration ingress)
        conversion.ingress ∧
      conversion.middlewares.Perm (Specification.middlewares configuration ingress) ∧
      conversion.middlewares.Pairwise fun first second => first.name < second.name := by
  rw [eq_ofChain_of_converted configuration ingress handled converted]
  refine ⟨isAnnotated_ofChain configuration ingress, ?_, ?_⟩
  · rw [← middlewares_chain]
    exact Chain.sortedMiddlewares_perm _
  · exact Chain.sortedMiddlewares_pairwise (names_nodup_chain configuration ingress)

/-- An Ingress with a path that is rewritten to a target with slashes at its end, and with an
application root. -/
def rewritingIngress : Ingress where
  metadata :=
    { name := some "shop"
      namespaceName := some "web"
      annotations := some (TextMap.ofList [
        (Key.sslRedirect, "true"),
        (Key.frontendEntryPoints, "https"),
        (Key.authType, "Basic"),
        (Key.authSecret, "users"),
        (Key.rewriteTarget, "/new//"),
        (Key.appRoot, "/app"),
        (Key.redirectPermanent, "T")]) }
  spec := some
    { defaultBackend := none
      ingressClassName := none
      rules := some
        [⟨some "shop.example", some [⟨.unset, some "/cart", ""⟩, ⟨.unset, none, ""⟩]⟩]
      tls := none }
  status := none

theorem convert_meets_specification_rewriting :
    Specification.references .default rewritingIngress =
        ["ssl-redirect@file", "web-shop-auth@kubernetescrd",
          "web-shop-replace-path-shop-example-cart@kubernetescrd",
          "web-shop-redirect-app-root-shop-example@kubernetescrd"] ∧
      Specification.middlewares .default rewritingIngress =
        [Middleware.named "web" "shop-auth" (.basicAuth ⟨"users", false, none⟩),
          Middleware.named "web" "shop-replace-path-shop-example-cart"
            (.replacePathRegex ⟨"^/cart(.*)", "/new$1"⟩),
          Middleware.named "web" "shop-redirect-app-root-shop-example"
            (.redirectRegex ⟨"shop.example/$", "shop.example/app", true⟩)] ∧
      ∃ conversion,
        (convert .default rewritingIngress).value = .ok conversion ∧
        Specification.IsAnnotated rewritingIngress
          (Specification.references .default rewritingIngress) conversion.ingress ∧
        conversion.middlewares.Perm (Specification.middlewares .default rewritingIngress) ∧
        conversion.middlewares.Pairwise fun first second => first.name < second.name := by
  have handled : Specification.IsHandled .default rewritingIngress := by decide +kernel
  have converted := convert_eq_ok_iff.2 (.inl ⟨handled, by decide +kernel, rfl⟩)
  refine ⟨by decide +kernel, by decide +kernel, _, converted, ?_⟩
  exact convert_meets_specification .default rewritingIngress handled converted

end TraefikUpgrade.Conversion
