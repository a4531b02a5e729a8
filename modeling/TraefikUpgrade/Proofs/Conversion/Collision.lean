import Mathlib.Data.List.Pairwise
import TraefikUpgrade.Proofs.Conversion.Family

/-!
Contract: when two attempts of one conversion have the same name.

Owns: the sites at which a conversion makes attempts, the attempts that it makes
up to the point at which it stops, and when the names of two of them are the
same: only when both are made for routes, in the same way, and their hosts and
paths have the same words. So a middleware gives way only to another one of its
family.

Does not own: the words of a text (`TraefikUpgrade.Proofs.ObjectName`).
-/

set_option autoImplicit false

namespace TraefikUpgrade.Conversion

open Annotation
open Kubernetes (Ingress)

/-! ### Sites -/

/-- A directive in which no route has a part. -/
inductive GeneralSite where
  | auth
  | headers
  | whitelist
  | requestModifier
  | redirect
deriving DecidableEq, Repr

def GeneralSite.suffix : GeneralSite → String
  | .auth => "auth"
  | .headers => "headers"
  | .whitelist => "whitelist"
  | .requestModifier => "request-modifier"
  | .redirect => "redirect"

/-- A directive that makes attempts for routes. -/
inductive Family where
  | stripPrefix
  | replacePath
  | redirectAppRoot
deriving DecidableEq, Repr

def Family.start : Family → String
  | .stripPrefix => "strip-prefix"
  | .replacePath => "replace-path"
  | .redirectAppRoot => "redirect-app-root"

/-- Where a conversion makes an attempt, and for which route. -/
inductive Site where
  | general (site : GeneralSite)
  | ofRoute (family : Family) (route : Route)
deriving DecidableEq, Repr

namespace Site

def suffix : Site → String
  | .general site => site.suffix
  | .ofRoute family route => Attempt.suffixFor family.start route.hostPath

/-- Two sites of one family whose hosts and paths have the same words. -/
def Collide : Site → Site → Prop
  | .ofRoute family route, .ofRoute other otherRoute =>
      family = other ∧ ObjectName.SameWords route.hostPath otherRoute.hostPath
  | _, _ => False

instance (first second : Site) : Decidable (Collide first second) := by
  unfold Collide
  split <;> infer_instance

theorem Collide.symm {first second : Site} (collide : Collide first second) :
    Collide second first := by
  cases first with
  | general => cases collide
  | ofRoute family route =>
      cases second with
      | general => cases collide
      | ofRoute other otherRoute => exact ⟨collide.1.symm, collide.2.symm⟩

theorem not_collide_general (first : Site) (site : GeneralSite) :
    ¬Collide first (.general site) := by
  cases first <;> exact id

theorem suffix_general_mem (site : GeneralSite) : site.suffix ∈ generalSuffixes := by
  cases site <;> decide

theorem start_mem (family : Family) : family.start ∈ routeSuffixes := by
  cases family <;> decide

theorem suffix_general_ne (site : GeneralSite) (family : Family) (route : Route) :
    site.suffix ≠ (ofRoute family route).suffix := by
  intro same
  have isGeneral := suffix_general_mem site
  rw [same, suffix, Specification.suffixFor_eq] at isGeneral
  exact suffixOf_not_mem_generalSuffixes (start_mem family) _ _ isGeneral

/-- Two sites of routes give one suffix exactly when they collide. -/
theorem suffix_ofRoute_eq_iff {family other : Family} {route otherRoute : Route} :
    (ofRoute family route).suffix = (ofRoute other otherRoute).suffix ↔
      Collide (.ofRoute family route) (.ofRoute other otherRoute) := by
  have sameStart : family.start = other.start ↔ family = other := by
    cases family <;> cases other <;> decide
  rw [suffix, suffix, Specification.suffixFor_eq, Specification.suffixFor_eq,
    suffixOf_eq_iff (start_mem family) (start_mem other), sameStart, ObjectName.normalize_eq_iff,
    ← ObjectName.sameWords_iff]
  rfl

end Site

/-! ### The attempts of a conversion -/

/-- An attempt together with where it is made. -/
structure SitedAttempt where
  site : Site
  attempt : Attempt
deriving DecidableEq, Repr

def atSite (site : Site) (attempts : List Attempt) : List SitedAttempt :=
  attempts.map (SitedAttempt.mk site)

def generalSited (annotations : Annotations) (resource : String) : List SitedAttempt :=
  atSite (.general .auth)
      (Attempt.ofKind "auth" (Directive.basicAuth annotations resource).value) ++
    atSite (.general .headers) (Attempt.ofKind "headers" (Directive.headers annotations).value) ++
    atSite (.general .whitelist)
      (Attempt.ofKind "whitelist" (Directive.ipWhiteList annotations)) ++
    atSite (.general .requestModifier)
      (Attempt.ofKind "request-modifier" (Attempt.requestModifier annotations resource).value) ++
    atSite (.general .redirect)
      (Attempt.ofKind "redirect" (Attempt.redirect annotations resource).value)

def routeSited (annotations : Annotations) (ruleType : RuleType) (route : Route) :
    List SitedAttempt :=
  atSite (.ofRoute .stripPrefix route) (Attempt.stripPrefix ruleType route) ++
    atSite (.ofRoute .replacePath route) (Attempt.rewriteTarget annotations route) ++
    atSite (.ofRoute .redirectAppRoot route) (Attempt.appRoot annotations route)

variable (configuration : Configuration) (ingress : Ingress)

/-- The attempts that a conversion makes for routes: none when the rule type is faulty, and those
before the first conflicting route otherwise. -/
def routesSited : List SitedAttempt :=
  match (RuleType.ofAnnotations ingress.annotations).value with
  | .error _ => []
  | .ok ruleType =>
      (ingress.routes.takeWhile fun route =>
        !Attempt.isConflicting ingress.annotations ruleType route).flatMap
          (routeSited ingress.annotations ruleType)

/-- All attempts that a conversion makes, in order. One of a foreign class makes none. -/
def sitedAttempts : List SitedAttempt :=
  match foreignClass? configuration ingress.annotations with
  | some _ => []
  | none =>
      generalSited ingress.annotations (resource configuration ingress) ++ routesSited ingress

theorem attempts_atSite (site : Site) (attempts : List Attempt) :
    (atSite site attempts).map SitedAttempt.attempt = attempts := by
  simp [atSite, Function.comp_def]

theorem attempts_generalSited (annotations : Annotations) (resource : String) :
    (generalSited annotations resource).map SitedAttempt.attempt =
      (Attempt.ofAnnotations annotations resource).value := by
  simp only [generalSited, List.map_append, attempts_atSite]
  rfl

theorem attempts_routeSited (annotations : Annotations) (ruleType : RuleType) (route : Route) :
    (routeSited annotations ruleType route).map SitedAttempt.attempt =
      Attempt.ofRoute annotations ruleType route := by
  simp only [routeSited, List.map_append, attempts_atSite]
  rfl

/-- The sited attempts of a handled Ingress are those that its conversion pushes. -/
theorem attempts_sitedAttempts {ruleType : RuleType}
    (handled : Specification.IsHandled configuration ingress)
    (resolved : (RuleType.ofAnnotations ingress.annotations).value = .ok ruleType) :
    (sitedAttempts configuration ingress).map SitedAttempt.attempt =
      (Attempt.ofAnnotations ingress.annotations (resource configuration ingress)).value ++
        Attempt.ofRoutes ingress.annotations ruleType ingress.routes := by
  unfold sitedAttempts routesSited Attempt.ofRoutes
  rw [(Specification.foreignClass?_eq_none_iff _ _).2 handled, resolved]
  simp only [List.map_append, List.map_flatMap, attempts_generalSited, attempts_routeSited]

/-- Without a fault they are all attempts of the Ingress. -/
theorem attempts_sitedAttempts_of_faultless
    (handled : Specification.IsHandled configuration ingress)
    (faultless : fault? ingress = none) :
    (sitedAttempts configuration ingress).map SitedAttempt.attempt =
      Specification.attempts ingress := by
  obtain ⟨ruleType, resolved, noConflict⟩ := fault?_eq_none_iff.1 faultless
  rw [attempts_sitedAttempts configuration ingress handled resolved,
    Specification.ofAnnotations_value, Specification.ofRoutes_eq ingress resolved noConflict]
  rfl

/-! ### The names of attempts -/

theorem suffix_of_mem_atSite {site : Site} {attempts : List Attempt} {sited : SitedAttempt}
    (sameSuffix : ∀ attempt ∈ attempts, attempt.suffix = site.suffix)
    (member : sited ∈ atSite site attempts) : sited.attempt.suffix = sited.site.suffix := by
  obtain ⟨attempt, isAttempt, rfl⟩ := List.mem_map.1 member
  exact sameSuffix attempt isAttempt

theorem suffix_of_mem_ofKind {suffix : String} {kind : Option MiddlewareKind} {attempt : Attempt}
    (member : attempt ∈ Attempt.ofKind suffix kind) : attempt.suffix = suffix := by
  cases kind with
  | none => cases member
  | some kind => rw [List.mem_singleton.1 member]

theorem suffix_of_mem_generalSited {annotations : Annotations} {resource : String}
    {sited : SitedAttempt} (member : sited ∈ generalSited annotations resource) :
    sited.attempt.suffix = sited.site.suffix := by
  simp only [generalSited, List.mem_append] at member
  rcases member with (((member | member) | member) | member) | member
  all_goals exact suffix_of_mem_atSite (fun _ isAttempt => suffix_of_mem_ofKind isAttempt) member

theorem suffix_of_mem_routeSited {annotations : Annotations} {ruleType : RuleType} {route : Route}
    {sited : SitedAttempt} (member : sited ∈ routeSited annotations ruleType route) :
    sited.attempt.suffix = sited.site.suffix := by
  simp only [routeSited, List.mem_append] at member
  rcases member with (ofStrip | ofReplace) | ofRoot
  · refine suffix_of_mem_atSite (fun attempt isAttempt => ?_) ofStrip
    unfold Attempt.stripPrefix at isAttempt
    split at isAttempt
    · rw [List.mem_singleton.1 isAttempt]
      rfl
    · cases isAttempt
  · refine suffix_of_mem_atSite (fun attempt isAttempt => ?_) ofReplace
    unfold Attempt.rewriteTarget at isAttempt
    split at isAttempt
    · split at isAttempt
      · cases isAttempt
      · rw [List.mem_singleton.1 isAttempt]
        rfl
    · cases isAttempt
  · exact suffix_of_mem_atSite (fun _ isAttempt => suffix_of_mem_ofKind isAttempt) ofRoot

theorem suffix_of_mem_routesSited {sited : SitedAttempt} (member : sited ∈ routesSited ingress) :
    sited.attempt.suffix = sited.site.suffix := by
  unfold routesSited at member
  split at member
  · cases member
  · obtain ⟨route, -, ofRoute⟩ := List.mem_flatMap.1 member
    exact suffix_of_mem_routeSited ofRoute

/-- The name of an attempt tells no more than the suffix of its site. -/
theorem suffix_of_mem_sitedAttempts {sited : SitedAttempt}
    (member : sited ∈ sitedAttempts configuration ingress) :
    sited.attempt.suffix = sited.site.suffix := by
  unfold sitedAttempts at member
  split at member
  · cases member
  · rcases List.mem_append.1 member with isGeneral | ofRoute
    · exact suffix_of_mem_generalSited isGeneral
    · exact suffix_of_mem_routesSited ingress ofRoute

theorem sites_ofKind (site : Site) (suffix : String) (kind : Option MiddlewareKind) :
    ((atSite site (Attempt.ofKind suffix kind)).map SitedAttempt.site).Sublist [site] := by
  cases kind with
  | none => exact List.nil_sublist _
  | some kind => exact .refl _

/-- The sites in which no route has a part, in order. -/
def generalSites : List Site :=
  [GeneralSite.auth, .headers, .whitelist, .requestModifier, .redirect].map .general

/-- No directive makes two attempts in which no route has a part. -/
theorem sites_generalSited (annotations : Annotations) (resource : String) :
    ((generalSited annotations resource).map SitedAttempt.site).Sublist generalSites := by
  simp only [generalSited, List.map_append]
  exact ((((sites_ofKind _ _ _).append (sites_ofKind _ _ _)).append
    (sites_ofKind _ _ _)).append (sites_ofKind _ _ _)).append (sites_ofKind _ _ _)

/-- Two sites give one suffix exactly when they collide. -/
def Site.AgreeOnCollision (first second : Site) : Prop :=
  first.suffix = second.suffix ↔ Site.Collide first second

theorem sites_routesSited {site : Site}
    (member : site ∈ (routesSited ingress).map SitedAttempt.site) :
    ∃ family route, site = .ofRoute family route := by
  obtain ⟨sited, isSited, rfl⟩ := List.mem_map.1 member
  unfold routesSited at isSited
  split at isSited
  · cases isSited
  · obtain ⟨route, -, ofRoute⟩ := List.mem_flatMap.1 isSited
    simp only [routeSited, atSite, List.mem_append, List.mem_map] at ofRoute
    rcases ofRoute with (⟨_, -, rfl⟩ | ⟨_, -, rfl⟩) | ⟨_, -, rfl⟩
    all_goals exact ⟨_, _, rfl⟩

theorem sites_pairwise :
    ((sitedAttempts configuration ingress).map SitedAttempt.site).Pairwise
      Site.AgreeOnCollision := by
  unfold sitedAttempts
  split
  · exact List.Pairwise.nil
  · rw [List.map_append, List.pairwise_append]
    refine ⟨?_, ?_, ?_⟩
    · refine List.Pairwise.sublist (sites_generalSited _ _) ?_
      unfold Site.AgreeOnCollision
      decide +kernel
    · refine List.pairwise_of_forall_mem_list fun first isFirst second isSecond => ?_
      obtain ⟨family, route, rfl⟩ := sites_routesSited ingress isFirst
      obtain ⟨other, otherRoute, rfl⟩ := sites_routesSited ingress isSecond
      exact Site.suffix_ofRoute_eq_iff
    · intro first isFirst second isSecond
      obtain ⟨family, route, rfl⟩ := sites_routesSited ingress isSecond
      obtain ⟨site, -, rfl⟩ := List.mem_map.1 ((sites_generalSited _ _).subset isFirst)
      exact iff_of_false (Site.suffix_general_ne site family route) id

theorem names_pairwise :
    (sitedAttempts configuration ingress).Pairwise fun first second =>
      (owner configuration ingress).middlewareName first.attempt.suffix =
          (owner configuration ingress).middlewareName second.attempt.suffix ↔
        Site.Collide first.site second.site := by
  refine List.Pairwise.imp_of_mem ?_ (List.pairwise_map.1 (sites_pairwise configuration ingress))
  intro first second isFirst isSecond agree
  rw [(owner configuration ingress).middlewareName_injective.eq_iff,
    suffix_of_mem_sitedAttempts configuration ingress isFirst,
    suffix_of_mem_sitedAttempts configuration ingress isSecond]
  exact agree

/-- Attempts of one name are the same one, or their sites collide. -/
theorem eq_or_collide {first second : SitedAttempt}
    (isFirst : first ∈ sitedAttempts configuration ingress)
    (isSecond : second ∈ sitedAttempts configuration ingress)
    (sameSuffix : first.attempt.suffix = second.attempt.suffix) :
    first = second ∨ Site.Collide first.site second.site := by
  by_cases same : first = second
  · exact .inl same
  · have symmetric : Std.Symm fun first second : SitedAttempt =>
        (owner configuration ingress).middlewareName first.attempt.suffix =
            (owner configuration ingress).middlewareName second.attempt.suffix ↔
          Site.Collide first.site second.site :=
      ⟨fun first second agree => ⟨fun equal => (agree.1 equal.symm).symm,
        fun collide => (agree.2 collide.symm).symm⟩⟩
    have agree := (names_pairwise configuration ingress).forall isFirst isSecond same
    exact .inr (agree.1 (congrArg _ sameSuffix))

/-! ### What becomes of attempts -/

variable {configuration ingress}

theorem middlewares_of_converted {conversion : Conversion}
    (converted : (convert configuration ingress).value = .ok conversion) :
    conversion.middlewares.Perm
      ((Attempt.firstOfEachSuffix
        ((sitedAttempts configuration ingress).map SitedAttempt.attempt)).map
          (owner configuration ingress).middleware) := by
  rcases convert_eq_ok_iff.1 converted with ⟨handled, faultless, rfl⟩ | ⟨foreign, rfl⟩
  · rw [attempts_sitedAttempts_of_faultless configuration ingress handled faultless]
    have sorted := Chain.sortedMiddlewares_perm (chain configuration ingress)
    rw [chain_eq] at sorted ⊢
    exact sorted
  · have isForeign : foreignClass? configuration ingress.annotations ≠ none :=
      fun noClass => foreign ((Specification.foreignClass?_eq_none_iff _ _).1 noClass)
    obtain ⟨foreignClass, isForeign⟩ := Option.ne_none_iff_exists'.1 isForeign
    unfold sitedAttempts
    rw [isForeign]
    exact .refl _

/-- An attempt becomes a middleware, unless the middleware of an attempt at a colliding site has
its name. -/
theorem emitted_or_displaced {conversion : Conversion}
    (converted : (convert configuration ingress).value = .ok conversion) {sited : SitedAttempt}
    (isSited : sited ∈ sitedAttempts configuration ingress) :
    (owner configuration ingress).middleware sited.attempt ∈ conversion.middlewares ∨
      ∃ first ∈ sitedAttempts configuration ingress, Site.Collide first.site sited.site ∧
        (owner configuration ingress).middleware first.attempt ∈ conversion.middlewares := by
  have isSuffix := Attempt.mem_suffixes_iff.2
    (List.mem_map_of_mem (f := Attempt.suffix) (List.mem_map_of_mem (f := SitedAttempt.attempt) isSited))
  obtain ⟨attempt, isFirst, sameSuffix⟩ := List.mem_map.1 isSuffix
  have isAttempt := Attempt.mem_of_mem_firstOfEachSuffix isFirst
  obtain ⟨first, isSitedFirst, rfl⟩ := List.mem_map.1 isAttempt
  have emitted : (owner configuration ingress).middleware first.attempt ∈ conversion.middlewares :=
    (middlewares_of_converted converted).mem_iff.2 (List.mem_map_of_mem isFirst)
  rcases eq_or_collide configuration ingress isSitedFirst isSited sameSuffix with rfl | collide
  · exact .inl emitted
  · exact .inr ⟨first, isSitedFirst, collide, emitted⟩

/-- Of two attempts of a conversion, the names are the same exactly when both are made for routes in
the same way and the words of their hosts and paths are the same. So a middleware in which no route
has a part is never left out, and any other one gives way only to one of its own family. -/
theorem names_collide_only_in_family (configuration : Configuration) (ingress : Ingress) :
    ((sitedAttempts configuration ingress).Pairwise fun first second =>
      (owner configuration ingress).middlewareName first.attempt.suffix =
          (owner configuration ingress).middlewareName second.attempt.suffix ↔
        Site.Collide first.site second.site) ∧
    ∀ conversion : Conversion, (convert configuration ingress).value = .ok conversion →
      (∀ middleware ∈ conversion.middlewares, ∃ sited ∈ sitedAttempts configuration ingress,
        (owner configuration ingress).middleware sited.attempt = middleware) ∧
      ∀ sited ∈ sitedAttempts configuration ingress,
        (∀ site, sited.site = .general site →
          (owner configuration ingress).middleware sited.attempt ∈ conversion.middlewares) ∧
        ((owner configuration ingress).middleware sited.attempt ∈ conversion.middlewares ∨
          ∃ first ∈ sitedAttempts configuration ingress, Site.Collide first.site sited.site ∧
            (owner configuration ingress).middleware first.attempt ∈ conversion.middlewares) := by
  refine ⟨names_pairwise configuration ingress, fun conversion converted => ⟨?_, ?_⟩⟩
  · intro middleware isMade
    obtain ⟨attempt, isFirst, isMiddleware⟩ :=
      List.mem_map.1 ((middlewares_of_converted converted).mem_iff.1 isMade)
    have isAttempt := List.mem_of_find?_eq_some (Attempt.mem_firstOfEachSuffix_iff.1 isFirst)
    obtain ⟨sited, isSited, rfl⟩ := List.mem_map.1 isAttempt
    exact ⟨sited, isSited, isMiddleware⟩
  · intro sited isSited
    have outcome := emitted_or_displaced converted isSited
    refine ⟨fun site isGeneral => ?_, outcome⟩
    rcases outcome with emitted | ⟨first, -, collide, -⟩
    · exact emitted
    · rw [isGeneral] at collide
      exact absurd collide (Site.not_collide_general first.site site)

/-- An Ingress with a white list, and with two paths that have the same words and one that has
others, each of which is stripped and rewritten. -/
def repeatingIngress : Ingress where
  metadata :=
    { name := some "shop"
      annotations := some (TextMap.ofList [
        (Key.ruleType, "PathPrefixStrip"),
        (Key.rewriteTarget, "/new"),
        (Key.whitelistSourceRange, "10.0.0.0/8")]) }
  spec := some
    { defaultBackend := none
      ingressClassName := none
      rules := some
        [⟨some "shop.example", some
          [⟨.unset, some "/cart", ""⟩, ⟨.unset, some "/cart/", ""⟩, ⟨.unset, some "/help", ""⟩]⟩]
      tls := none }
  status := none

theorem names_collide_only_in_family_repeating :
    ∃ conversion,
      (convert .default repeatingIngress).value = .ok conversion ∧
      conversion.middlewares.length = 5 ∧
      (sitedAttempts .default repeatingIngress).map SitedAttempt.site =
        [.general .whitelist, .ofRoute .stripPrefix ⟨"shop.example", "/cart"⟩,
          .ofRoute .replacePath ⟨"shop.example", "/cart"⟩,
          .ofRoute .stripPrefix ⟨"shop.example", "/cart/"⟩,
          .ofRoute .replacePath ⟨"shop.example", "/cart/"⟩,
          .ofRoute .stripPrefix ⟨"shop.example", "/help"⟩,
          .ofRoute .replacePath ⟨"shop.example", "/help"⟩] ∧
      ((sitedAttempts .default repeatingIngress).Pairwise fun first second =>
        (owner .default repeatingIngress).middlewareName first.attempt.suffix =
            (owner .default repeatingIngress).middlewareName second.attempt.suffix ↔
          Site.Collide first.site second.site) ∧
      ∀ sited ∈ sitedAttempts .default repeatingIngress,
        (owner .default repeatingIngress).middleware sited.attempt ∈ conversion.middlewares ∨
          ∃ first ∈ sitedAttempts .default repeatingIngress, Site.Collide first.site sited.site ∧
            (owner .default repeatingIngress).middleware first.attempt ∈ conversion.middlewares := by
  have handled : Specification.IsHandled .default repeatingIngress :=
    (Specification.foreignClass?_eq_none_iff _ _).1 (by decide +kernel)
  have converted := convert_eq_ok_iff.2 (.inl ⟨handled, by decide +kernel, rfl⟩)
  have fiveStored : (chain .default repeatingIngress).middlewares.length = 5 := by decide +kernel
  have fiveMade := (Chain.sortedMiddlewares_perm (chain .default repeatingIngress)).length_eq
  obtain ⟨names, outcomes⟩ := names_collide_only_in_family .default repeatingIngress
  exact ⟨_, converted, fiveMade.trans fiveStored, by decide +kernel, names,
    fun sited isSited => ((outcomes _ converted).2 sited isSited).2⟩

end TraefikUpgrade.Conversion
