import TraefikUpgrade.Proofs.Conversion.Frame

/-!
Contract: what the conversion of an Ingress depends on.

Owns: the annotations that are directives, the agreement of two Ingresses on
everything that counts, the fault and the chain that such Ingresses share, and
that the annotations of a router are no directives: a converted Ingress is
converted into itself.

Does not own: what the directives mean (`TraefikUpgrade.Proofs.Directive`).
-/

set_option autoImplicit false

namespace TraefikUpgrade.Conversion

open Annotation
open Kubernetes (Ingress)

/-- The annotations that have a say in the middlewares of an Ingress. -/
@[simp] def directiveKeys : List String :=
  [Key.ingressClass, Key.sslRedirect, Key.authType, Key.authSecret, Key.authRemoveHeader,
    Key.authHeaderField, Key.whitelistSourceRange, Key.whitelistXForwardedFor,
    Key.requestModifier, Key.appRoot, Key.redirectRegex, Key.redirectReplacement,
    Key.redirectPermanent, Key.ruleType, Key.rewriteTarget, Key.hstsMaxAge] ++
  Directive.headerMapKeys ++ Directive.headerListKeys ++ Directive.headerFlagKeys ++
  Directive.headerTextKeys

/-- Two annotation maps have the same values for all directives. -/
def AgreeOnDirectives (first second : Annotations) : Prop :=
  ∀ key ∈ directiveKeys, first.value? key = second.value? key

/-! ### Readings of directives -/

section Readings

variable {first second : Annotations}

theorem flag_congr {key : String} (same : first.value? key = second.value? key)
    (fallback : Bool) : first.flag key fallback = second.flag key fallback := by
  unfold Annotations.flag
  rw [same]

theorem list?_congr {key : String} (same : first.value? key = second.value? key) :
    first.list? key = second.list? key := by
  unfold Annotations.list?
  rw [same]

theorem text_congr {key : String} (same : first.value? key = second.value? key) :
    first.text key = second.text key := by
  unfold Annotations.text Annotations.string
  rw [same]

theorem headerSettings_congr (agree : AgreeOnDirectives first second) :
    Directive.headerSettings first = Directive.headerSettings second := by
  have map (key : String) (isDirective : key ∈ directiveKeys) :
      first.headerMap key = second.headerMap key := by
    unfold Annotations.headerMap
    rw [agree key isDirective]
  have flag (key : String) (isDirective : key ∈ directiveKeys) :
      Directive.trueOrUnset first key = Directive.trueOrUnset second key := by
    unfold Directive.trueOrUnset
    rw [flag_congr (agree key isDirective)]
  have seconds : Directive.seconds? first Key.hstsMaxAge =
      Directive.seconds? second Key.hstsMaxAge := by
    unfold Directive.seconds? Annotations.integer
    rw [agree Key.hstsMaxAge (by simp)]
  unfold Directive.headerSettings
  rw [map Key.customRequestHeaders (by simp), map Key.customResponseHeaders (by simp),
    map Key.sslProxyHeaders (by simp), seconds,
    list?_congr (agree Key.allowedHosts (by simp)),
    list?_congr (agree Key.proxyHeaders (by simp)),
    flag Key.sslTemporaryRedirect (by simp), flag Key.sslForceHost (by simp),
    flag Key.hstsIncludeSubdomains (by simp), flag Key.hstsPreload (by simp),
    flag Key.forceHsts (by simp), flag Key.frameDeny (by simp),
    flag Key.contentTypeNosniff (by simp), flag Key.browserXssFilter (by simp),
    flag Key.isDevelopment (by simp), agree Key.sslHost (by simp),
    agree Key.customFrameOptionsValue (by simp), agree Key.customBrowserXssValue (by simp),
    agree Key.contentSecurityPolicy (by simp), agree Key.publicKey (by simp),
    agree Key.referrerPolicy (by simp)]

theorem ofAnnotations_congr (agree : AgreeOnDirectives first second) (resource : String) :
    Attempt.ofAnnotations first resource = Attempt.ofAnnotations second resource := by
  have auth : Directive.basicAuth first resource = Directive.basicAuth second resource := by
    unfold Directive.basicAuth
    rw [agree Key.authType (by simp), agree Key.authSecret (by simp),
      agree Key.authHeaderField (by simp), flag_congr (agree Key.authRemoveHeader (by simp))]
  have headers : Directive.headers first = Directive.headers second := by
    unfold Directive.headers
    rw [headerSettings_congr agree]
  have whitelist : Directive.ipWhiteList first = Directive.ipWhiteList second := by
    unfold Directive.ipWhiteList
    rw [list?_congr (agree Key.whitelistSourceRange (by simp)),
      flag_congr (agree Key.whitelistXForwardedFor (by simp))]
  have modifier : Attempt.requestModifier first resource =
      Attempt.requestModifier second resource := by
    unfold Attempt.requestModifier
    rw [agree Key.requestModifier (by simp)]
  have redirect : Attempt.redirect first resource = Attempt.redirect second resource := by
    unfold Attempt.redirect Directive.redirect Annotations.contains
    rw [agree Key.appRoot (by simp), agree Key.redirectRegex (by simp),
      agree Key.redirectReplacement (by simp),
      flag_congr (agree Key.redirectPermanent (by simp))]
  unfold Attempt.ofAnnotations
  rw [auth, headers, whitelist, modifier, redirect]

end Readings

/-! ### Ingresses that agree -/

/-- Two Ingresses agree on everything but their routes that has a say in their middlewares. -/
structure AgreeOffRoutes (configuration : Configuration) (first second : Ingress) : Prop where
  name : name first = name second
  namespaceName : namespaceName configuration first = namespaceName configuration second
  directives : AgreeOnDirectives first.annotations second.annotations

/-- Two Ingresses agree on everything that has a say in their middlewares. -/
structure Agree (configuration : Configuration) (first second : Ingress) : Prop
    extends AgreeOffRoutes configuration first second where
  routes : first.routes = second.routes

section Agreement

variable {configuration : Configuration} {first second : Ingress}

theorem attempts_routes (ingress : Ingress) :
    Specification.attempts ingress =
      (Attempt.ofAnnotations ingress.annotations "").value ++
        ingress.routes.flatMap fun route =>
          Specification.ofPath ingress route.host route.path := by
  unfold Specification.attempts
  rw [Specification.ofAnnotations_value, Specification.flatMap_routes]
  refine congrArg (_ ++ List.flatMap · (Specification.rules ingress)) (funext fun rule => ?_)
  unfold Specification.ofRule
  cases rule.http with
  | none => rfl
  | some paths => rfl

theorem ofPath_congr (agree : AgreeOnDirectives first.annotations second.annotations)
    (host path : String) :
    Specification.ofPath first host path = Specification.ofPath second host path := by
  unfold Specification.ofPath
  simp only [Specification.text_eq, Specification.isSet_eq]
  rw [text_congr (agree Key.ruleType (by simp)), text_congr (agree Key.rewriteTarget (by simp)),
    text_congr (agree Key.appRoot (by simp)), flag_congr (agree Key.redirectPermanent (by simp))]

theorem attempts_congr (agree : Agree configuration first second) :
    Specification.attempts first = Specification.attempts second := by
  rw [attempts_routes, attempts_routes, ofAnnotations_congr agree.directives, agree.routes]
  simp only [ofPath_congr agree.directives]

theorem leadingReferences_congr (agree : AgreeOffRoutes configuration first second) :
    Specification.leadingReferences configuration first =
      Specification.leadingReferences configuration second := by
  unfold Specification.leadingReferences
  rw [Specification.text_eq, Specification.text_eq,
    text_congr (agree.directives Key.sslRedirect (by simp))]

theorem owner_congr (agree : AgreeOffRoutes configuration first second) :
    owner configuration first = owner configuration second := by
  unfold owner
  rw [agree.name, agree.namespaceName]

theorem chain_congr (agree : Agree configuration first second) :
    chain configuration first = chain configuration second := by
  unfold chain calls
  rw [owner_congr agree.toAgreeOffRoutes, leadingReferences_congr agree.toAgreeOffRoutes,
    attempts_congr agree]

theorem foreignClass?_congr (agree : AgreeOffRoutes configuration first second) :
    foreignClass? configuration first.annotations =
      foreignClass? configuration second.annotations := by
  unfold foreignClass?
  rw [agree.directives Key.ingressClass (by simp)]

theorem AgreeOffRoutes.isHandled_iff (agree : AgreeOffRoutes configuration first second) :
    Specification.IsHandled configuration first ↔ Specification.IsHandled configuration second := by
  rw [← Specification.foreignClass?_eq_none_iff, ← Specification.foreignClass?_eq_none_iff,
    foreignClass?_congr agree]

theorem ruleType_congr (agree : AgreeOnDirectives first.annotations second.annotations) :
    RuleType.ofAnnotations first.annotations = RuleType.ofAnnotations second.annotations := by
  unfold RuleType.ofAnnotations
  rw [agree Key.ruleType (by simp)]

theorem isConflicting_congr (agree : AgreeOnDirectives first.annotations second.annotations)
    (ruleType : RuleType) :
    Attempt.isConflicting first.annotations ruleType =
      Attempt.isConflicting second.annotations ruleType := by
  funext route
  unfold Attempt.isConflicting Annotations.contains
  rw [agree Key.rewriteTarget (by simp)]

/-- The order of the routes has no say in the fault of an Ingress, and neither has their number. -/
theorem fault?_congr (agree : AgreeOffRoutes configuration first second)
    (sameRoutes : ∀ route, route ∈ first.routes ↔ route ∈ second.routes) :
    fault? first = fault? second := by
  have sameConflicts (ruleType : RuleType) :
      first.routes.any (Attempt.isConflicting first.annotations ruleType) =
        second.routes.any (Attempt.isConflicting second.annotations ruleType) := by
    rw [isConflicting_congr agree.directives, Bool.eq_iff_iff, List.any_eq_true, List.any_eq_true]
    simp only [sameRoutes]
  unfold fault?
  rw [ruleType_congr agree.directives]
  simp only [sameConflicts]

theorem Agree.sameFault (agree : Agree configuration first second) :
    fault? first = fault? second :=
  fault?_congr agree.toAgreeOffRoutes fun _ => by rw [agree.routes]

end Agreement

/-! ### Converted Ingresses -/

section Settled

variable (configuration : Configuration) (ingress : Ingress) (complete : Chain)

/-- The annotations of a router are no directives. -/
theorem router_not_mem_directiveKeys {key : String} (isDirective : key ∈ directiveKeys) :
    key ≠ Key.routerEntryPoints ∧ key ≠ Key.routerMiddlewares := by
  have routerKeys : ∀ key ∈ directiveKeys,
      key ≠ Key.routerEntryPoints ∧ key ≠ Key.routerMiddlewares := by decide +kernel
  exact routerKeys key isDirective

theorem value?_ofChain {key : String} (noEntryPoints : key ≠ Key.routerEntryPoints)
    (noMiddlewares : key ≠ Key.routerMiddlewares) :
    (ofChain ingress complete).ingress.annotations.value? key =
      ingress.annotations.value? key := by
  have kept : storedAnnotation (ofChain ingress complete).ingress key =
      storedAnnotation ingress key := by
    simp [storedAnnotation_ofChain, noEntryPoints, noMiddlewares]
  exact congrArg (Option.filter _) kept

/-- A converted Ingress agrees with the one that it was made from. -/
theorem agree_ofChain :
    Agree configuration (ofChain ingress complete).ingress ingress := by
  refine
    { name := blind_ofChain name (fun _ _ _ => rfl) ingress complete
      namespaceName :=
        blind_ofChain (namespaceName configuration) (fun _ _ _ => rfl) ingress complete
      directives := ?_
      routes := blind_ofChain Ingress.routes (fun _ _ _ => rfl) ingress complete }
  intro key isDirective
  obtain ⟨noEntryPoints, noMiddlewares⟩ := router_not_mem_directiveKeys isDirective
  exact value?_ofChain ingress complete noEntryPoints noMiddlewares

/-- The annotations of the router are there after the first time. -/
theorem ingress_ofChain_settled :
    (ofChain (ofChain ingress complete).ingress complete).ingress =
      (ofChain ingress complete).ingress := by
  have otherKeys : Key.routerEntryPoints ≠ Key.routerMiddlewares := by decide +kernel
  have entryPoints : withEntryPoints (ofChain ingress complete).ingress =
      (ofChain ingress complete).ingress := by
    unfold withEntryPoints
    rw [value?_ofChain ingress complete (by decide +kernel) (by decide +kernel),
      Annotations.value?_eq, ← Specification.text_eq]
    by_cases noEntryPoints : Specification.text ingress Key.frontendEntryPoints = ""
    · rw [if_pos noEntryPoints]
    · rw [if_neg noEntryPoints]
      apply annotate_eq_self
      have stored := storedAnnotation_ofChain ingress Key.routerEntryPoints complete
      rwa [if_neg fun isOther => otherKeys isOther.1, if_pos ⟨rfl, noEntryPoints⟩] at stored
  have references : withReferences (ofChain ingress complete).ingress complete.references =
      (ofChain ingress complete).ingress := by
    unfold withReferences
    by_cases noReferences : complete.references = []
    · simp [noReferences]
    · rw [if_neg (by simpa using noReferences), joinReferences_eq]
      apply annotate_eq_self
      have stored := storedAnnotation_ofChain ingress Key.routerMiddlewares complete
      rwa [if_pos ⟨rfl, noReferences⟩] at stored
  unfold ofChain at entryPoints references ⊢
  simp only [entryPoints, references]

/-- What a complete chain makes of a handled Ingress is converted into itself. -/
theorem convert_ofChain (handled : Specification.IsHandled configuration ingress)
    (faultless : fault? ingress = none) :
    (convert configuration (ofChain ingress (chain configuration ingress)).ingress).value =
      .ok (ofChain ingress (chain configuration ingress)) := by
  have agree := agree_ofChain configuration ingress (chain configuration ingress)
  have settled := ingress_ofChain_settled ingress (chain configuration ingress)
  refine convert_eq_ok_iff.2
    (.inl ⟨agree.isHandled_iff.2 handled, agree.sameFault.trans faultless, ?_⟩)
  rw [chain_congr agree]
  exact Conversion.ext settled.symm rfl

end Settled

/-- Converting the Ingress of a conversion gives the conversion. -/
theorem convert_conversion {configuration : Configuration} {ingress : Ingress}
    {conversion : Conversion}
    (converted : (convert configuration ingress).value = .ok conversion) :
    (convert configuration conversion.ingress).value = .ok conversion := by
  rcases convert_eq_ok_iff.1 converted with ⟨handled, faultless, rfl⟩ | ⟨-, rfl⟩
  · exact convert_ofChain configuration ingress handled faultless
  · exact converted

end TraefikUpgrade.Conversion
