import TraefikUpgrade.Proofs.Conversion.Collision

/-!
Contract: redirects to the root of an application.

Owns: which paths spell the root of a host, the redirect from it, which has one
slash where the host and the root of the application meet, the attempts that are
made for one host, which are copies of one attempt, and what becomes of them. An
Ingress with an application root has no other redirect.

Does not own: when the names of attempts are the same
(`TraefikUpgrade.Proofs.Conversion.Collision`).
-/

set_option autoImplicit false

namespace TraefikUpgrade

/-! ### The redirect of a host -/

namespace Directive

open Annotation

/-- The two spellings of the root of a host. -/
def IsRootPath (path : String) : Prop :=
  path = "" ∨ path = "/"

instance (path : String) : Decidable (IsRootPath path) := by
  unfold IsRootPath
  infer_instance

/-- The redirect from the root of a host to the root of an application. However many slashes end the
host and begin the root, there is one where the two meet. -/
inductive IsRootRedirect (host root : String) (permanent : Bool) : MiddlewareKind → Prop where
  | redirect {bareHost bareRoot : String} {trailing leading : Nat}
      (hostEnds : host.toList = bareHost.toList ++ List.replicate trailing '/')
      (hostBare : bareHost.toList.getLast? ≠ some '/')
      (rootStarts : root.toList = List.replicate leading '/' ++ bareRoot.toList)
      (rootBare : bareRoot.toList.head? ≠ some '/') :
      IsRootRedirect host root permanent
        (.redirectRegex ⟨host ++ "/$", bareHost ++ "/" ++ bareRoot, permanent⟩)

theorem isSlash_eq_true_iff {character : Char} : isSlash character = true ↔ character = '/' :=
  decide_eq_true_iff

theorem eq_replicate_of_isSlash {run : List Char}
    (isRun : ∀ character ∈ run, isSlash character = true) :
    run = List.replicate run.length '/' :=
  List.eq_replicate_of_mem fun character member => isSlash_eq_true_iff.1 (isRun character member)

theorem isRootRedirect_appRoot (host root : String) (permanent : Bool) :
    IsRootRedirect host root permanent
      (.redirectRegex ⟨host ++ "/$",
        withoutTrailingSlashes host ++ "/" ++ withoutLeadingSlashes root, permanent⟩) := by
  obtain ⟨trailing, areTrailing, hostEnds⟩ := Text.exists_dropTrailing isSlash host.toList
  have areLeading : ∀ character ∈ root.toList.takeWhile isSlash, isSlash character = true :=
    fun character member => List.mem_takeWhile_imp member
  have notSlash {character : Char} (differs : isSlash character = false) : character ≠ '/' :=
    fun same => Bool.false_ne_true (differs.symm.trans (isSlash_eq_true_iff.2 same))
  refine @IsRootRedirect.redirect host root permanent _ _ trailing.length
    (root.toList.takeWhile isSlash).length ?_ ?_ ?_ ?_
  · rw [withoutTrailingSlashes, String.toList_ofList, ← eq_replicate_of_isSlash areTrailing]
    exact hostEnds
  · rw [withoutTrailingSlashes, String.toList_ofList]
    exact fun isLast => notSlash (Text.getLast?_dropTrailing isSlash _ _ isLast) rfl
  · rw [withoutLeadingSlashes, String.toList_ofList, ← eq_replicate_of_isSlash areLeading]
    exact List.takeWhile_append_dropWhile.symm
  · rw [withoutLeadingSlashes, String.toList_ofList]
    exact fun isFirst => notSlash (Text.head?_dropWhile isSlash _ _ isFirst) rfl

/-- A host and a root have one redirect, which is made for both spellings of the root of the host
and for no other path. -/
theorem appRoot_eq_ite {annotations : Annotations} (rooted : annotations.text Key.appRoot ≠ "")
    (host : String) :
    ∃ redirect, IsRootRedirect host (annotations.text Key.appRoot)
        (annotations.flag Key.redirectPermanent false) redirect ∧
      ∀ path, appRoot annotations host path =
        if IsRootPath path then some redirect else none := by
  refine ⟨_, isRootRedirect_appRoot host _ _, fun path => ?_⟩
  rw [appRoot_eq]
  exact if_congr (and_iff_right rooted) rfl rfl

theorem appRoot_eq_none {annotations : Annotations} (notRooted : annotations.text Key.appRoot = "")
    (host path : String) : appRoot annotations host path = none := by
  rw [appRoot_eq, if_neg fun asked => asked.1 notRooted]

end Directive

/-! ### The attempts of a host -/

namespace Conversion

open Annotation
open Kubernetes (Ingress)
open Directive (IsRootPath IsRootRedirect)

theorem words_rootPath (host : String) {path : String} (isRoot : IsRootPath path) :
    ObjectName.words (host ++ path) = ObjectName.words host := by
  rcases isRoot with rfl | rfl
  · rw [String.append_empty]
  · have apart := @ObjectName.words_append_gap_append "/" (by decide)
      (List.forall_iff_forall_mem.1 (by decide)) host ""
    have noWords : ObjectName.words "" = [] := by decide
    rwa [String.append_empty, noWords, List.append_nil] at apart

theorem suffixFor_rootPath (host : String) {path : String} (isRoot : IsRootPath path) :
    Attempt.suffixFor "redirect-app-root" (Route.hostPath ⟨host, path⟩) =
      Attempt.suffixFor "redirect-app-root" host := by
  unfold Attempt.suffixFor Route.hostPath
  rw [ObjectName.normalize_eq_iff.2 (words_rootPath host isRoot)]

theorem sameWords_of_suffixFor_eq {host other : String}
    (same : Attempt.suffixFor "redirect-app-root" host =
      Attempt.suffixFor "redirect-app-root" other) : ObjectName.SameWords host other := by
  rw [← suffixFor_rootPath host (.inl rfl), ← suffixFor_rootPath other (.inl rfl)] at same
  have collide : Site.Collide (.ofRoute .redirectAppRoot ⟨host, ""⟩)
      (.ofRoute .redirectAppRoot ⟨other, ""⟩) := Site.suffix_ofRoute_eq_iff.1 same
  simpa only [Route.hostPath, String.append_empty] using collide.2

/-- Whether attempts at a site are made for the root of a host. -/
def Site.isRootOf (host : String) : Site → Bool
  | .ofRoute .redirectAppRoot route => route.host = host
  | _ => false

/-- The attempts that a conversion makes for the root of a host, in order. -/
def rootAttempts (configuration : Configuration) (ingress : Ingress) (host : String) :
    List Attempt :=
  ((sitedAttempts configuration ingress).filter fun sited => sited.site.isRootOf host).map
    SitedAttempt.attempt

/-- How many paths of an Ingress spell the root of a host. -/
def countRoots (ingress : Ingress) (host : String) : Nat :=
  ingress.routes.countP fun route => route.host = host ∧ IsRootPath route.path

variable {configuration : Configuration} {ingress : Ingress}

theorem mem_rootAttempts_iff {host : String} {attempt : Attempt} :
    attempt ∈ rootAttempts configuration ingress host ↔
      ∃ route : Route, route.host = host ∧
        ⟨.ofRoute .redirectAppRoot route, attempt⟩ ∈ sitedAttempts configuration ingress := by
  unfold rootAttempts
  simp only [List.mem_map, List.mem_filter]
  constructor
  · rintro ⟨⟨site, attempt⟩, ⟨isSited, isRoot⟩, rfl⟩
    unfold Site.isRootOf at isRoot
    split at isRoot
    · next sameSite =>
        subst sameSite
        exact ⟨_, of_decide_eq_true isRoot, isSited⟩
    · cases isRoot
  · rintro ⟨route, sameHost, isSited⟩
    exact ⟨_, ⟨isSited, decide_eq_true sameHost⟩, rfl⟩

/-- Without a fault there are attempts for all routes. -/
theorem exists_sitedAttempts_eq (handled : Specification.IsHandled configuration ingress)
    (faultless : fault? ingress = none) :
    ∃ ruleType, sitedAttempts configuration ingress =
      generalSited ingress.annotations (resource configuration ingress) ++
        ingress.routes.flatMap (routeSited ingress.annotations ruleType) := by
  obtain ⟨ruleType, resolved, noConflict⟩ := fault?_eq_none_iff.1 faultless
  refine ⟨ruleType, ?_⟩
  unfold sitedAttempts routesSited
  rw [(Specification.foreignClass?_eq_none_iff _ _).2 handled, resolved]
  refine congrArg (_ ++ List.flatMap _ ·) (List.takeWhile_eq_self_iff.2 fun route isRoute => ?_)
  simpa using List.any_eq_false.1 noConflict route isRoute

theorem filter_atSite (keep : Site → Bool) (site : Site) (attempts : List Attempt) :
    (atSite site attempts).filter (fun sited => keep sited.site) =
      if keep site then atSite site attempts else [] := by
  unfold atSite
  rw [List.filter_map]
  by_cases kept : keep site
  · simp [Function.comp_def, kept]
  · simp [Function.comp_def, kept]

theorem filter_isRootOf_generalSited (annotations : Annotations) (resource host : String) :
    (generalSited annotations resource).filter (fun sited => sited.site.isRootOf host) = [] := by
  simp only [generalSited, List.filter_append, filter_atSite (Site.isRootOf host)]
  rfl

theorem filter_isRootOf_routeSited (annotations : Annotations) (ruleType : RuleType)
    (route : Route) (host : String) :
    ((routeSited annotations ruleType route).filter fun sited => sited.site.isRootOf host).map
        SitedAttempt.attempt =
      if route.host = host then Attempt.appRoot annotations route else [] := by
  have isRoot : Site.isRootOf host (.ofRoute .redirectAppRoot route) = decide (route.host = host) :=
    rfl
  simp only [routeSited, List.filter_append, filter_atSite (Site.isRootOf host), isRoot,
    decide_eq_true_iff]
  have noStrip : Site.isRootOf host (.ofRoute .stripPrefix route) = false := rfl
  have noReplace : Site.isRootOf host (.ofRoute .replacePath route) = false := rfl
  rw [noStrip, noReplace, if_neg Bool.false_ne_true, if_neg Bool.false_ne_true, List.nil_append,
    List.nil_append, apply_ite (List.map SitedAttempt.attempt), attempts_atSite, List.map_nil]

theorem flatMap_ite_eq_replicate {Source Target : Type} (wanted : Source → Prop)
    [DecidablePred wanted] (target : Target) (sources : List Source) :
    sources.flatMap (fun source => if wanted source then [target] else []) =
      List.replicate (sources.countP wanted) target := by
  induction sources with
  | nil => rfl
  | cons source sources inductionHypothesis =>
      rw [List.flatMap_cons, inductionHypothesis, List.countP_cons]
      by_cases isWanted : wanted source
      · simp [isWanted, List.replicate_succ]
      · simp [isWanted]

/-- Every path that spells the root of a host makes the same attempt. -/
theorem rootAttempts_eq (handled : Specification.IsHandled configuration ingress)
    (faultless : fault? ingress = none) {host : String} {redirect : MiddlewareKind}
    (isRedirect : ∀ path, Directive.appRoot ingress.annotations host path =
      if IsRootPath path then some redirect else none) :
    rootAttempts configuration ingress host =
      List.replicate (countRoots ingress host)
        ⟨Attempt.suffixFor "redirect-app-root" host, redirect⟩ := by
  have ofRoute (route : Route) :
      (if route.host = host then Attempt.appRoot ingress.annotations route else []) =
        if route.host = host ∧ IsRootPath route.path then
          [⟨Attempt.suffixFor "redirect-app-root" host, redirect⟩] else [] := by
    by_cases sameHost : route.host = host
    · subst sameHost
      unfold Attempt.appRoot
      rw [if_pos rfl, isRedirect]
      by_cases isRoot : IsRootPath route.path
      · rw [if_pos isRoot, if_pos ⟨rfl, isRoot⟩, Attempt.ofKind,
          ← suffixFor_rootPath route.host isRoot]
      · rw [if_neg isRoot, if_neg fun both => isRoot both.2, Attempt.ofKind]
    · rw [if_neg sameHost, if_neg fun both => sameHost both.1]
  obtain ⟨ruleType, areAll⟩ := exists_sitedAttempts_eq handled faultless
  unfold rootAttempts countRoots
  rw [areAll, List.filter_append, filter_isRootOf_generalSited, List.nil_append,
    List.filter_flatMap, List.map_flatMap, ← flatMap_ite_eq_replicate]
  simp only [filter_isRootOf_routeSited, ofRoute]

theorem suffix_of_mem_rootAttempts (handled : Specification.IsHandled configuration ingress)
    (faultless : fault? ingress = none) (rooted : Specification.text ingress Key.appRoot ≠ "")
    {host : String} {attempt : Attempt}
    (isAttempt : attempt ∈ rootAttempts configuration ingress host) :
    attempt.suffix = Attempt.suffixFor "redirect-app-root" host := by
  rw [Specification.text_eq] at rooted
  obtain ⟨redirect, -, ofPath⟩ := Directive.appRoot_eq_ite rooted host
  rw [rootAttempts_eq handled faultless ofPath] at isAttempt
  rw [List.eq_of_mem_replicate isAttempt]

/-! ### What becomes of them -/

/-- With an application root nothing is attempted under the name of the other redirect. -/
theorem suffix_ne_redirect (rooted : Specification.text ingress Key.appRoot ≠ "")
    {attempt : Attempt} (member : attempt ∈ Specification.attempts ingress) :
    attempt.suffix ≠ "redirect" := by
  rw [attempts_eq, List.mem_append] at member
  rcases member with isGeneral | ofRoute
  · have noRedirect : Specification.redirect ingress = [] := by
      unfold Specification.redirect Specification.attemptIf
      rw [if_neg fun asked => rooted asked.1]
    unfold generalAttempts at isGeneral
    rw [noRedirect, List.append_nil] at isGeneral
    simp only [List.mem_append] at isGeneral
    rcases isGeneral with ((ofAuth | ofHeaders) | ofWhitelist) | ofModifier
    · exact ne_of_eq_of_ne (suffix_of_mem_attemptIf ofAuth) (by decide)
    · exact ne_of_eq_of_ne (suffix_of_mem_attemptIf ofHeaders) (by decide)
    · exact ne_of_eq_of_ne (suffix_of_mem_attemptIf ofWhitelist) (by decide)
    · exact ne_of_eq_of_ne (suffix_of_mem_requestModifier ofModifier) (by decide)
  · obtain ⟨route, -, -, start, isStart, isSuffix⟩ := suffix_of_mem_attemptsFor ofRoute
    intro isRedirect
    have isGeneral : "redirect" ∈ generalSuffixes := by decide
    rw [← isRedirect, isSuffix] at isGeneral
    exact suffixOf_not_mem_generalSuffixes isStart _ _ isGeneral

theorem name_ne_redirect {conversion : Conversion}
    (converted : (convert configuration ingress).value = .ok conversion)
    (rooted : Specification.text ingress Key.appRoot ≠ "") :
    ∀ middleware ∈ conversion.middlewares,
      middleware.name ≠ (owner configuration ingress).middlewareName "redirect" := by
  intro middleware isMade sameName
  obtain ⟨attempt, isAttempt, rfl⟩ := exists_attempt_of_converted converted isMade
  exact suffix_ne_redirect rooted isAttempt
    ((owner configuration ingress).middlewareName_injective sameName)

/-- If there is an attempt for the root of a host, a middleware is made of one for a host with the
same words. -/
theorem root_emitted {conversion : Conversion}
    (handled : Specification.IsHandled configuration ingress)
    (converted : (convert configuration ingress).value = .ok conversion)
    (rooted : Specification.text ingress Key.appRoot ≠ "") {host : String} {attempt : Attempt}
    (isAttempt : attempt ∈ rootAttempts configuration ingress host) :
    ∃ other, ObjectName.SameWords other host ∧
      ∃ first ∈ rootAttempts configuration ingress other,
        (owner configuration ingress).middleware first ∈ conversion.middlewares := by
  have faultless := faultless_of_converted handled converted
  obtain ⟨route, -, isSited⟩ := mem_rootAttempts_iff.1 isAttempt
  rcases emitted_or_displaced converted isSited with emitted | ⟨first, isFirst, collide, emitted⟩
  · exact ⟨host, ObjectName.sameWords_iff.2 rfl, attempt, isAttempt, emitted⟩
  · obtain ⟨site, first⟩ := first
    cases site with
    | general => cases collide
    | ofRoute family other =>
        obtain rfl : family = .redirectAppRoot := collide.1
        have isRoot := mem_rootAttempts_iff.2 ⟨other, rfl, isFirst⟩
        have sameSuffix : first.suffix = attempt.suffix :=
          (suffix_of_mem_sitedAttempts _ _ isFirst).trans
            ((Site.suffix_ofRoute_eq_iff.2 collide).trans
              (suffix_of_mem_sitedAttempts _ _ isSited).symm)
        rw [suffix_of_mem_rootAttempts handled faultless rooted isRoot,
          suffix_of_mem_rootAttempts handled faultless rooted isAttempt] at sameSuffix
        exact ⟨other.host, sameWords_of_suffixFor_eq sameSuffix, first, isRoot, emitted⟩

/-- An Ingress with an application root has one redirect for each host that has a path which spells
its root, however many do, and it has no other redirect. All attempts for a host are the same one,
so one that is left out for its name loses nothing, unless the name is that of another host with the
same words. -/
theorem app_root_redirects_agree :
    (∀ (annotations : Annotations) (host : String), annotations.text Key.appRoot ≠ "" →
      ∃ redirect, IsRootRedirect host (annotations.text Key.appRoot)
          (annotations.flag Key.redirectPermanent false) redirect ∧
        ∀ path, Directive.appRoot annotations host path =
          if IsRootPath path then some redirect else none) ∧
    (∀ (annotations : Annotations) (host path : String), annotations.text Key.appRoot = "" →
      Directive.appRoot annotations host path = none) ∧
    ∀ (configuration : Configuration) (ingress : Ingress) (conversion : Conversion),
      Specification.IsHandled configuration ingress →
      (convert configuration ingress).value = .ok conversion →
      Specification.text ingress Key.appRoot ≠ "" →
      (∀ host, 0 < countRoots ingress host →
        ∃ redirect : Attempt,
          redirect.suffix = Attempt.suffixFor "redirect-app-root" host ∧
          IsRootRedirect host (Specification.text ingress Key.appRoot)
            (ingress.annotations.flag Key.redirectPermanent false) redirect.kind ∧
          rootAttempts configuration ingress host =
            List.replicate (countRoots ingress host) redirect ∧
          ((owner configuration ingress).middleware redirect ∈ conversion.middlewares ∨
            ∃ other, other ≠ host ∧ ObjectName.SameWords other host ∧
              ∃ first ∈ rootAttempts configuration ingress other,
                (owner configuration ingress).middleware first ∈ conversion.middlewares)) ∧
      ∀ middleware ∈ conversion.middlewares,
        middleware.name ≠ (owner configuration ingress).middlewareName "redirect" := by
  refine ⟨fun annotations host rooted => Directive.appRoot_eq_ite rooted host,
    fun annotations host path notRooted => Directive.appRoot_eq_none notRooted host path, ?_⟩
  intro configuration ingress conversion handled converted rooted
  have faultless := faultless_of_converted handled converted
  refine ⟨fun host somePath => ?_, name_ne_redirect converted rooted⟩
  obtain ⟨kind, isRedirect, ofPath⟩ :=
    Directive.appRoot_eq_ite (Specification.text_eq ingress _ ▸ rooted) host
  rw [← Specification.text_eq] at isRedirect
  have areCopies := rootAttempts_eq handled faultless ofPath
  -- the suffix is read off by simplification, since `rfl` unfolds the normal form first
  refine ⟨⟨Attempt.suffixFor "redirect-app-root" host, kind⟩, by dsimp only, isRedirect, areCopies,
    ?_⟩
  have isAttempt : _ ∈ rootAttempts configuration ingress host :=
    areCopies ▸ List.mem_replicate.2 ⟨somePath.ne', rfl⟩
  obtain ⟨other, sameWords, first, isFirst, emitted⟩ :=
    root_emitted handled converted rooted isAttempt
  by_cases sameHost : other = host
  · subst sameHost
    rw [areCopies] at isFirst
    exact .inl (List.eq_of_mem_replicate isFirst ▸ emitted)
  · exact .inr ⟨other, sameHost, sameWords, first, isFirst, emitted⟩

/-- An Ingress with an application root and with another redirect, in which three paths of two rules
spell the root of one host. -/
def rootedIngress : Ingress where
  metadata :=
    { name := some "shop"
      annotations := some (TextMap.ofList [
        (Key.appRoot, "//app"),
        (Key.redirectRegex, "^/old"),
        (Key.redirectReplacement, "/new")]) }
  spec := some
    { defaultBackend := none
      ingressClassName := none
      rules := some
        [⟨some "shop.example", some [⟨.unset, some "/", ""⟩, ⟨.unset, some "/cart", ""⟩]⟩,
          ⟨some "shop.example", some [⟨.unset, none, ""⟩, ⟨.unset, some "/", ""⟩]⟩]
      tls := none }
  status := none

theorem app_root_redirects_agree_rooted :
    ∃ conversion redirect,
      (convert .default rootedIngress).value = .ok conversion ∧
      redirect.suffix = Attempt.suffixFor "redirect-app-root" "shop.example" ∧
      IsRootRedirect "shop.example" "//app" false redirect.kind ∧
      rootAttempts .default rootedIngress "shop.example" = [redirect, redirect, redirect] ∧
      ∀ middleware ∈ conversion.middlewares,
        middleware.name ≠ (owner .default rootedIngress).middlewareName "redirect" := by
  have handled : Specification.IsHandled .default rootedIngress :=
    (Specification.foreignClass?_eq_none_iff _ _).1 (by decide +kernel)
  have converted := convert_eq_ok_iff.2 (.inl ⟨handled, by decide +kernel, rfl⟩)
  have root : Specification.text rootedIngress Key.appRoot = "//app" := by decide +kernel
  have notPermanent : rootedIngress.annotations.flag Key.redirectPermanent false = false := by
    decide +kernel
  have three : countRoots rootedIngress "shop.example" = 3 := by decide +kernel
  obtain ⟨ofHost, noRedirect⟩ := app_root_redirects_agree.2.2 .default rootedIngress _ handled
    converted (root ▸ by decide)
  obtain ⟨redirect, isSuffix, isRedirect, areCopies, -⟩ :=
    ofHost "shop.example" (three ▸ by decide)
  rw [root, notPermanent] at isRedirect
  rw [three] at areCopies
  exact ⟨_, redirect, converted, isSuffix, isRedirect, areCopies, noRedirect⟩

end Conversion

end TraefikUpgrade
