import Mathlib.Data.List.Forall2
import TraefikUpgrade.Proofs.Conversion.Family
import TraefikUpgrade.Proofs.Conversion.Noninterference

/-!
Contract: what the order of the rules and paths of an Ingress has a say in.

Owns: Ingresses that differ in the order of rules and paths, or by a route that
comes once more; and the laws about them. The order decides in which order the
references to the middlewares of routes come, and which attempt counts where
different routes have one normal form, and nothing else. A route that comes once
more decides nothing.

Does not own: which attempts have one suffix
(`TraefikUpgrade.Proofs.Conversion.Family`).
-/

set_option autoImplicit false

namespace TraefikUpgrade.Conversion

open Annotation
open Kubernetes (Ingress IngressRule IngressSpec)
open Specification (IsHandled)

/-! ### Reordered rules and paths -/

/-- Two rules for one host with the same paths in any order. -/
structure IsRuleReordering (first second : IngressRule) : Prop where
  host : first.host = second.host
  http : Option.Rel List.Perm first.http second.http

/-- Two lists of rules that differ by the order of the rules and of the paths in each rule. -/
def AreRulesReordered (first second : List IngressRule) : Prop :=
  ∃ between, first.Perm between ∧ List.Forall₂ IsRuleReordering between second

structure IsSpecReordering (first second : IngressSpec) : Prop where
  defaultBackend : first.defaultBackend = second.defaultBackend
  ingressClassName : first.ingressClassName = second.ingressClassName
  rules : Option.Rel AreRulesReordered first.rules second.rules
  tls : first.tls = second.tls

/-- Two Ingresses that differ only by the order of rules and paths. -/
structure IsReordering (first second : Ingress) : Prop where
  metadata : first.metadata = second.metadata
  spec : Option.Rel IsSpecReordering first.spec second.spec
  status : first.status = second.status

/-- What is related, if it is there, is related to its default if not. -/
theorem rel_getD {Part : Type} {related : Part → Part → Prop} {first second : Option Part}
    (isRelated : Option.Rel related first second) {fallback : Part}
    (ofFallback : related fallback fallback) :
    related (first.getD fallback) (second.getD fallback) := by
  cases isRelated with
  | none => exact ofFallback
  | some parts => exact parts

/-- The routes of one rule. -/
def routesOfRule (rule : IngressRule) : List Route :=
  (rule.http.getD []).map fun path => ⟨rule.host.getD "", path.path.getD ""⟩

theorem routes_eq (ingress : Ingress) :
    ingress.routes =
      ((ingress.spec.bind fun spec => spec.rules).getD []).flatMap routesOfRule :=
  rfl

theorem IsRuleReordering.routes_perm {first second : IngressRule}
    (reordering : IsRuleReordering first second) :
    (routesOfRule first).Perm (routesOfRule second) := by
  have paths : (first.http.getD []).Perm (second.http.getD []) :=
    rel_getD reordering.http (.refl _)
  unfold routesOfRule
  rw [reordering.host]
  exact paths.map _

theorem AreRulesReordered.routes_perm {first second : List IngressRule}
    (reordered : AreRulesReordered first second) :
    (first.flatMap routesOfRule).Perm (second.flatMap routesOfRule) := by
  obtain ⟨between, rules, paths⟩ := reordered
  refine (rules.flatMap_right routesOfRule).trans ?_
  clear rules
  induction paths with
  | nil => exact .refl _
  | cons rule _ inductionHypothesis =>
      rw [List.flatMap_cons, List.flatMap_cons]
      exact rule.routes_perm.append inductionHypothesis

theorem IsReordering.routes_perm {first second : Ingress}
    (reordering : IsReordering first second) : first.routes.Perm second.routes := by
  have rules : Option.Rel AreRulesReordered (first.spec.bind fun spec => spec.rules)
      (second.spec.bind fun spec => spec.rules) := by
    have specs := reordering.spec
    generalize first.spec = firstSpec, second.spec = secondSpec at specs
    cases specs with
    | none => exact .none
    | some spec => exact spec.rules
  rw [routes_eq, routes_eq]
  exact (rel_getD rules ⟨[], .refl _, .nil⟩).routes_perm

theorem IsReordering.agreeOffRoutes {first second : Ingress}
    (reordering : IsReordering first second) (configuration : Configuration) :
    AgreeOffRoutes configuration first second where
  name := congrArg (fun metadata => metadata.name.getD "") reordering.metadata
  namespaceName := congrArg
    (fun metadata => metadata.namespaceName.getD configuration.defaultNamespace)
    reordering.metadata
  directives key _ := congrArg
    (fun metadata => (Annotations.mk metadata.annotations).value? key) reordering.metadata

/-! ### Outcomes up to order -/

/-- The references in which no route has a part. -/
def independentReferences (configuration : Configuration) (ingress : Ingress) : List String :=
  Specification.leadingReferences configuration ingress ++
    (generalAttempts ingress).map fun attempt =>
      (owner configuration ingress).reference
        ((owner configuration ingress).middlewareName attempt.suffix)

/-- Two lists with the same beginning and with rests that differ by their order. -/
structure ReorderedBehind (front first second : List String) : Prop where
  perm : first.Perm second
  behind : ∃ firstRest secondRest, first = front ++ firstRest ∧ second = front ++ secondRest ∧
    firstRest.Perm secondRest

/-- Two conversions fail for the same reason, or make middlewares of the same names and, if the
class is handled, references that differ by their order, those in which no route has a part coming
first. The middlewares are the same if different routes have different normal forms. -/
inductive SameUpToOrder (configuration : Configuration) (first second : Ingress) : Prop where
  | failed {error : ConversionError}
      (firstFailed : (convert configuration first).value = .error error)
      (secondFailed : (convert configuration second).value = .error error)
  | converted {firstConversion secondConversion : Conversion}
      (firstConverted : (convert configuration first).value = .ok firstConversion)
      (secondConverted : (convert configuration second).value = .ok secondConversion)
      (names : firstConversion.middlewares.map Middleware.name =
        secondConversion.middlewares.map Middleware.name)
      (middlewares : HasDistinctNormalForms first →
        firstConversion.middlewares = secondConversion.middlewares)
      (references : IsHandled configuration first → ∃ firstReferences secondReferences,
        IsReferenceList configuration first firstConversion firstReferences ∧
        IsReferenceList configuration second secondConversion secondReferences ∧
        ReorderedBehind (independentReferences configuration first) firstReferences
          secondReferences)

/-- The references in which no route has a part come first. -/
theorem references_chain_independent (configuration : Configuration) (ingress : Ingress) :
    (chain configuration ingress).references =
      independentReferences configuration ingress ++
        ((Attempt.firstOfEachSuffix (attemptsFor ingress ingress.routes)).map Attempt.suffix).map
          fun suffix => (owner configuration ingress).reference
            ((owner configuration ingress).middlewareName suffix) := by
  rw [chain_eq, firstOfEachSuffix_attempts, List.map_append, List.map_map]
  exact (List.append_assoc _ _ _).symm

/-! ### Order -/

section Agreement

variable {configuration : Configuration} {first second : Ingress}

theorem generalAttempts_congr (agree : AgreeOnDirectives first.annotations second.annotations) :
    generalAttempts first = generalAttempts second := by
  unfold generalAttempts
  rw [← Specification.ofAnnotations_value first "", ← Specification.ofAnnotations_value second "",
    ofAnnotations_congr agree]

theorem attemptsFor_congr (agree : AgreeOnDirectives first.annotations second.annotations)
    (routes : List Route) : attemptsFor first routes = attemptsFor second routes := by
  unfold attemptsFor
  simp only [ofPath_congr agree]

theorem independentReferences_congr (agree : AgreeOffRoutes configuration first second) :
    independentReferences configuration first = independentReferences configuration second := by
  unfold independentReferences
  rw [leadingReferences_congr agree, generalAttempts_congr agree.directives, owner_congr agree]

/-! What follows asks only for the same routes, in any order and any number. -/

section SameRoutes

variable (agree : AgreeOffRoutes configuration first second)
  (sameRoutes : ∀ route, route ∈ first.routes ↔ route ∈ second.routes)

include agree sameRoutes

theorem mem_attemptsFor_iff (attempt : Attempt) :
    attempt ∈ attemptsFor first first.routes ↔ attempt ∈ attemptsFor second second.routes := by
  rw [attemptsFor_congr agree.directives]
  unfold attemptsFor
  rw [List.mem_flatMap, List.mem_flatMap]
  simp only [sameRoutes]

theorem suffixes_attemptsFor_perm :
    ((Attempt.firstOfEachSuffix (attemptsFor first first.routes)).map Attempt.suffix).Perm
      ((Attempt.firstOfEachSuffix (attemptsFor second second.routes)).map Attempt.suffix) := by
  refine Attempt.suffixes_perm fun suffix => ?_
  rw [List.mem_map, List.mem_map]
  simp only [mem_attemptsFor_iff agree sameRoutes]

theorem references_reorderedBehind :
    ReorderedBehind (independentReferences configuration first)
      (chain configuration first).references (chain configuration second).references := by
  have suffixes := suffixes_attemptsFor_perm agree sameRoutes
  rw [references_chain_independent, references_chain_independent,
    ← independentReferences_congr agree, ← owner_congr agree]
  exact ⟨(suffixes.map _).append_left _, _, _, rfl, rfl, suffixes.map _⟩

theorem names_chain_perm :
    ((chain configuration first).middlewares.map Middleware.name).Perm
      ((chain configuration second).middlewares.map Middleware.name) := by
  have names (ingress : Ingress) : (chain configuration ingress).middlewares.map Middleware.name =
      ((generalAttempts ingress).map Attempt.suffix ++
        (Attempt.firstOfEachSuffix (attemptsFor ingress ingress.routes)).map Attempt.suffix).map
          (owner configuration ingress).middlewareName := by
    rw [chain_eq, firstOfEachSuffix_attempts, List.map_map, ← List.map_append, List.map_map]
    rfl
  rw [names, names, generalAttempts_congr agree.directives, owner_congr agree]
  exact ((suffixes_attemptsFor_perm agree sameRoutes).append_left _).map _

/-- Where no name is made twice, the order of the routes does not decide who makes it. -/
theorem middlewares_chain_perm (distinct : HasDistinctNormalForms first) :
    (chain configuration first).middlewares.Perm (chain configuration second).middlewares := by
  have secondDistinct : HasDistinctNormalForms second := by
    intro route isRoute other isOther
    exact distinct route ((sameRoutes route).2 isRoute) other ((sameRoutes other).2 isOther)
  have firstOnes : (Attempt.firstOfEachSuffix (attemptsFor first first.routes)).Perm
      (Attempt.firstOfEachSuffix (attemptsFor second second.routes)) := by
    rw [List.perm_ext_iff_of_nodup (.of_map _ (Attempt.suffixes_nodup _))
      (.of_map _ (Attempt.suffixes_nodup _))]
    intro attempt
    rw [Attempt.mem_firstOfEachSuffix_of_unique (attempt_eq_of_suffix_eq distinct),
      Attempt.mem_firstOfEachSuffix_of_unique (attempt_eq_of_suffix_eq secondDistinct)]
    exact mem_attemptsFor_iff agree sameRoutes attempt
  rw [chain_eq, chain_eq, firstOfEachSuffix_attempts, firstOfEachSuffix_attempts,
    generalAttempts_congr agree.directives, owner_congr agree]
  exact (firstOnes.append_left _).map _

/-- Ingresses with the same routes have the same outcome up to order. -/
theorem sameUpToOrder_of_sameRoutes : SameUpToOrder configuration first second := by
  have firstNodup := names_nodup_chain configuration first
  rcases convert_cases agree.isHandled_iff (fault?_congr agree sameRoutes) with
    ⟨error, firstFailed, secondFailed⟩ | ⟨-, firstConverted, secondConverted⟩ |
      ⟨notHandled, firstKept, secondKept⟩
  · exact .failed firstFailed secondFailed
  · refine .converted firstConverted secondConverted ?_ (fun distinct => ?_) fun _ => ?_
    · exact Chain.names_sortedMiddlewares_eq firstNodup (names_chain_perm agree sameRoutes)
    · exact Chain.sortedMiddlewares_eq_of_perm firstNodup
        (middlewares_chain_perm agree sameRoutes distinct)
    · exact ⟨_, _, isReferenceList_ofChain configuration first,
        isReferenceList_ofChain configuration second, references_reorderedBehind agree sameRoutes⟩
  · exact .converted firstKept secondKept rfl (fun _ => rfl)
      fun handled => absurd handled notHandled

end SameRoutes

/-! ### Repetition -/

/-- The second Ingress has the routes of the first one, and one of them comes once more somewhere
behind itself. In front of itself it would also come in another order. -/
structure RepeatsRoute (configuration : Configuration) (first second : Ingress) : Prop
    extends AgreeOffRoutes configuration first second where
  repeated : ∃ before route after, route ∈ before ∧ first.routes = before ++ after ∧
    second.routes = before ++ route :: after

theorem RepeatsRoute.sameRoutes (repeats : RepeatsRoute configuration first second) (route : Route) :
    route ∈ first.routes ↔ route ∈ second.routes := by
  obtain ⟨before, repeated, after, isBefore, firstRoutes, secondRoutes⟩ := repeats.repeated
  rw [firstRoutes, secondRoutes, List.mem_append, List.mem_append, List.mem_cons]
  constructor
  · exact Or.imp_right .inr
  · rintro (ofBefore | rfl | ofAfter)
    · exact .inl ofBefore
    · exact .inl isBefore
    · exact .inr ofAfter

/-- All attempts for a route that comes once more have the suffixes of earlier ones. -/
theorem RepeatsRoute.firstOfEachSuffix_eq (repeats : RepeatsRoute configuration first second) :
    Attempt.firstOfEachSuffix (attemptsFor first first.routes) =
      Attempt.firstOfEachSuffix (attemptsFor second second.routes) := by
  obtain ⟨before, route, after, isBefore, firstRoutes, secondRoutes⟩ := repeats.repeated
  have present : ∀ attempt ∈ attemptsFor second [route],
      attempt.suffix ∈ (attemptsFor second before).map Attempt.suffix := by
    intro attempt member
    have ofRoute : attempt ∈ Specification.ofPath second route.host route.path := by
      simpa [attemptsFor] using member
    exact List.mem_map_of_mem (List.mem_flatMap.2 ⟨route, isBefore, ofRoute⟩)
  have cut : attemptsFor second (before ++ route :: after) =
      attemptsFor second before ++ (attemptsFor second [route] ++ attemptsFor second after) := by
    simp [attemptsFor]
  have joined : attemptsFor second (before ++ after) =
      attemptsFor second before ++ attemptsFor second after := List.flatMap_append
  rw [attemptsFor_congr repeats.directives, firstRoutes, secondRoutes, cut, joined,
    Attempt.firstOfEachSuffix_repeated present]

theorem RepeatsRoute.sameOutcome (repeats : RepeatsRoute configuration first second) :
    SameOutcome configuration first second := by
  have agree := repeats.toAgreeOffRoutes
  have sameChain : chain configuration first = chain configuration second := by
    rw [chain_eq, chain_eq, firstOfEachSuffix_attempts, firstOfEachSuffix_attempts,
      repeats.firstOfEachSuffix_eq, generalAttempts_congr agree.directives, owner_congr agree,
      leadingReferences_congr agree]
  exact sameOutcome_of_sameChain agree.isHandled_iff (fault?_congr agree repeats.sameRoutes)
    sameChain

/-- The order of rules and paths decides only in which order the references to the middlewares of
routes come, unless different routes have one normal form. A route that comes once more decides
nothing. -/
theorem rule_order_decides_reference_order (configuration : Configuration)
    (first second : Ingress) :
    (IsReordering first second → SameUpToOrder configuration first second) ∧
    (RepeatsRoute configuration first second → SameOutcome configuration first second) := by
  refine ⟨fun reordering => ?_, RepeatsRoute.sameOutcome⟩
  exact sameUpToOrder_of_sameRoutes (reordering.agreeOffRoutes configuration)
    fun _ => reordering.routes_perm.mem_iff

end Agreement

/-- An Ingress that redirects to HTTPS and rewrites the paths of its rules. -/
def storeIngress (rules : List IngressRule) : Ingress where
  metadata :=
    { name := some "store"
      annotations := some (TextMap.ofList [
        (Key.sslRedirect, "true"),
        (Key.rewriteTarget, "/")]) }
  spec := some ⟨none, none, some rules, none⟩
  status := none

def ruleFor (host : String) (paths : List String) : IngressRule :=
  ⟨some host, some (paths.map fun path => ⟨.unset, some path, ""⟩)⟩

/-- Two rules change places, and so do two paths of one of them; or a path comes once more. -/
theorem rule_order_decides_reference_order_store :
    ∃ first second third : Ingress,
      Specification.references .default first ≠ Specification.references .default second ∧
      HasDistinctNormalForms first ∧
      IsReordering first second ∧ SameUpToOrder .default first second ∧
      first.routes ≠ third.routes ∧
      RepeatsRoute .default first third ∧ SameOutcome .default first third := by
  let shop := ruleFor "shop.example" ["/cart", "/help"]
  let swapped := ruleFor "shop.example" ["/help", "/cart"]
  let news := ruleFor "news.example" ["/today"]
  let again := ruleFor "shop.example" ["/cart"]
  have evaluated :
      Specification.references .default (storeIngress [shop, news]) ≠
          Specification.references .default (storeIngress [news, swapped]) ∧
        HasDistinctNormalForms (storeIngress [shop, news]) ∧
        (storeIngress [shop, news]).routes ≠ (storeIngress [shop, news, again]).routes := by
    decide +kernel
  have samePaths : IsRuleReordering shop swapped := ⟨rfl, .some (.swap _ _ _)⟩
  have sameRules : AreRulesReordered [shop, news] [news, swapped] :=
    ⟨[news, shop], .swap _ _ _, .cons ⟨rfl, .some (.refl _)⟩ (.cons samePaths .nil)⟩
  have reordering : IsReordering (storeIngress [shop, news]) (storeIngress [news, swapped]) :=
    ⟨rfl, .some ⟨rfl, rfl, .some sameRules, rfl⟩, rfl⟩
  have repeats : RepeatsRoute .default (storeIngress [shop, news])
      (storeIngress [shop, news, again]) :=
    ⟨⟨rfl, rfl, fun _ _ => rfl⟩, (storeIngress [shop, news]).routes, ⟨"shop.example", "/cart"⟩,
      [], .head _, rfl, rfl⟩
  exact ⟨_, _, _, evaluated.1, evaluated.2.1, reordering,
    (rule_order_decides_reference_order .default _ _).1 reordering, evaluated.2.2, repeats,
    (rule_order_decides_reference_order .default _ _).2 repeats⟩

end TraefikUpgrade.Conversion
