import Mathlib.Data.List.Nodup
import TraefikUpgrade.Proofs.Conversion.Annotate
import TraefikUpgrade.Proofs.Conversion.Outcome
import TraefikUpgrade.Proofs.ObjectName

/-!
Contract: the references of a router and the middlewares belong to each other.

Owns: what every run of calls makes of an empty chain, the references that the
annotation of a router gives back, and the middleware that each of them stands
for. A comma separates references, so none may stand in one; none ever stands
in a suffix.

Does not own: the calls that an Ingress makes
(`TraefikUpgrade.Proofs.Conversion.Outcome`).
-/

set_option autoImplicit false

namespace TraefikUpgrade

/-! ### Complete chains -/

namespace Chain

/-- The reference of a call, if it gives one. -/
def Call.reference? : Call → Option String
  | .reference text => some text
  | .push _ => none

/-- What calls make of an empty chain. -/
structure IsMadeBy (owner : ChainOwner) (calls : List Call) (chain : Chain) : Prop where
  namesNodup : (chain.middlewares.map Middleware.name).Nodup
  /-- Every reference has been added by a call. -/
  references : chain.references = (added owner empty calls).map Prod.snd
  given : ofOrigin .given (added owner empty calls) = calls.filterMap Call.reference?
  /-- The other references are those to the middlewares, in the order of both. -/
  generated : ofOrigin .generated (added owner empty calls) =
    chain.middlewares.map fun middleware =>
      owner.namespaceName ++ "-" ++ middleware.name ++ "@" ++ owner.provider
  generatedNodup : (ofOrigin .generated (added owner empty calls)).Nodup
  /-- The middlewares are those of the first attempt with a suffix. -/
  stored : ∀ middleware, middleware ∈ chain.middlewares ↔
    ∃ attempt,
      (attempted calls).find? (fun other => other.suffix = attempt.suffix) = some attempt ∧
      middleware = owner.middleware attempt
  finishedPerm : chain.sortedMiddlewares.Perm chain.middlewares
  finishedAscending : chain.sortedMiddlewares.Pairwise fun first second => first.name < second.name

variable (owner : ChainOwner)

/-- A call that gives a reference adds it, and no other call adds one that is given. -/
theorem given_added (chain : Chain) (calls : List Call) :
    ofOrigin .given (added owner chain calls) = calls.filterMap Call.reference? := by
  induction calls generalizing chain with
  | nil => rfl
  | cons call rest inductionHypothesis =>
      rw [added, ofOrigin_append, inductionHypothesis]
      cases call with
      | reference text =>
          rw [Call.origin, ofOrigin_same]
          simp [step, addReference, Call.reference?]
      | push attempt =>
          rw [Call.origin, ofOrigin_other (by decide), List.nil_append]
          rfl

theorem generatedNodup_of_namesNodup {chain : Chain}
    (namesNodup : (chain.middlewares.map Middleware.name).Nodup) :
    (chain.middlewares.map owner.referenceTo).Nodup := by
  have throughNames : chain.middlewares.map owner.referenceTo =
      (chain.middlewares.map Middleware.name).map owner.reference := by
    rw [List.map_map]
    rfl
  rw [throughNames]
  exact List.Nodup.map owner.reference_injective namesNodup

theorem isMadeBy_run (calls : List Call) : IsMadeBy owner calls (run owner empty calls) := by
  obtain ⟨references, middlewares⟩ := references_run owner empty calls
  have namesNodup := names_nodup_run owner calls
  have generated : ofOrigin .generated (added owner empty calls) =
      (run owner empty calls).middlewares.map owner.referenceTo := by
    simpa [empty] using middlewares.symm
  refine
    { namesNodup
      references := by simpa [empty] using references
      given := given_added owner empty calls
      generated := generated
      generatedNodup := ?_
      stored := ?_
      finishedPerm := sortedMiddlewares_perm _
      finishedAscending := sortedMiddlewares_pairwise namesNodup }
  · rw [generated]
    exact generatedNodup_of_namesNodup owner namesNodup
  · intro middleware
    rw [middlewares_run_empty, List.mem_map]
    simp only [Attempt.mem_firstOfEachSuffix_iff, eq_comm]

end Chain

/-! ### Suffixes -/

namespace Conversion

open Annotation
open Kubernetes (Ingress)

/-- The suffixes of the attempts in which no route has a part. -/
def generalSuffixes : List String :=
  ["auth", "headers", "whitelist", "request-modifier", "redirect"]

/-- How the suffixes of the attempts of a route start. -/
def routeSuffixes : List String :=
  ["strip-prefix", "replace-path", "redirect-app-root"]

theorem suffix_of_mem_attemptIf {condition : Prop} [Decidable condition] {suffix : String}
    {kind : MiddlewareKind} {attempt : Attempt}
    (member : attempt ∈ Specification.attemptIf condition suffix kind) :
    attempt.suffix = suffix := by
  unfold Specification.attemptIf at member
  by_cases holds : condition
  · rw [if_pos holds] at member
    rw [List.mem_singleton.1 member]
  · rw [if_neg holds] at member
    cases member

theorem suffix_of_mem_requestModifier {ingress : Ingress} {attempt : Attempt}
    (member : attempt ∈ Specification.requestModifier ingress) :
    attempt.suffix = "request-modifier" := by
  unfold Specification.requestModifier at member
  cases parsed : RequestModifier.parse (Specification.text ingress Key.requestModifier) with
  | ok kind =>
      rw [parsed] at member
      exact suffix_of_mem_attemptIf member
  | error error =>
      rw [parsed] at member
      cases member

theorem suffix_of_mem_ofPath {ingress : Ingress} {host path : String} {attempt : Attempt}
    (member : attempt ∈ Specification.ofPath ingress host path) :
    ∃ start ∈ routeSuffixes, attempt.suffix = Specification.suffixOf start host path := by
  unfold Specification.ofPath at member
  rw [List.mem_append, List.mem_append] at member
  rcases member with (ofStrip | ofReplace) | ofRoot
  · exact ⟨"strip-prefix", by simp [routeSuffixes], suffix_of_mem_attemptIf ofStrip⟩
  · exact ⟨"replace-path", by simp [routeSuffixes], suffix_of_mem_attemptIf ofReplace⟩
  · exact ⟨"redirect-app-root", by simp [routeSuffixes], suffix_of_mem_attemptIf ofRoot⟩

/-- A suffix is a fixed one, or it is made of the host and the path of a route. -/
theorem suffix_of_mem_attempts {ingress : Ingress} {attempt : Attempt}
    (member : attempt ∈ Specification.attempts ingress) :
    attempt.suffix ∈ generalSuffixes ∨
      ∃ start ∈ routeSuffixes, ∃ host path,
        attempt.suffix = Specification.suffixOf start host path := by
  unfold Specification.attempts at member
  simp only [List.mem_append, List.mem_flatMap] at member
  rcases member with ((((ofAuth | ofHeaders) | ofWhitelist) | ofModifier) | ofRedirect) |
    ⟨rule, _, ofRule⟩
  · exact .inl (by simp [generalSuffixes, suffix_of_mem_attemptIf ofAuth])
  · exact .inl (by simp [generalSuffixes, suffix_of_mem_attemptIf ofHeaders])
  · exact .inl (by simp [generalSuffixes, suffix_of_mem_attemptIf ofWhitelist])
  · exact .inl (by simp [generalSuffixes, suffix_of_mem_requestModifier ofModifier])
  · exact .inl (by simp [generalSuffixes, suffix_of_mem_attemptIf ofRedirect])
  · right
    unfold Specification.ofRule at ofRule
    cases http : rule.http with
    | none =>
        rw [http] at ofRule
        cases ofRule
    | some paths =>
        rw [http, List.mem_flatMap] at ofRule
        obtain ⟨path, _, ofPath⟩ := ofRule
        obtain ⟨start, isStart, isSuffix⟩ := suffix_of_mem_ofPath ofPath
        exact ⟨start, isStart, _, _, isSuffix⟩

theorem comma_not_mem_suffixOf {start : String} (clean : ',' ∉ start.toList)
    (host path : String) : ',' ∉ (Specification.suffixOf start host path).toList := by
  have cleanNormal : ',' ∉ (ObjectName.normalize (host ++ path)).toList := by
    intro member
    rcases ObjectName.mem_normalize member with isHyphen | isAlphanumeric
    · exact absurd isHyphen (by decide)
    · exact absurd isAlphanumeric (by decide)
  unfold Specification.suffixOf
  by_cases nothingLeft : ObjectName.normalize (host ++ path) = ""
  · rw [if_pos nothingLeft]
    exact clean
  · rw [if_neg nothingLeft]
    simp [clean, cleanNormal]

/-- No host and no path puts a comma into a suffix. -/
theorem comma_not_mem_suffix {ingress : Ingress} {attempt : Attempt}
    (member : attempt ∈ Specification.attempts ingress) : ',' ∉ attempt.suffix.toList := by
  have generalClean : ∀ suffix ∈ generalSuffixes, ',' ∉ suffix.toList := by decide
  have routeClean : ∀ start ∈ routeSuffixes, ',' ∉ start.toList := by decide
  rcases suffix_of_mem_attempts member with isGeneral | ⟨start, isStart, host, path, isSuffix⟩
  · exact generalClean _ isGeneral
  · rw [isSuffix]
    exact comma_not_mem_suffixOf (routeClean start isStart) host path

/-! ### The annotation of a router -/

/-- No comma stands in what the references of an Ingress are made of. -/
structure IsCommaFree (configuration : Configuration) (ingress : Ingress) : Prop where
  namespaceName : ',' ∉ (namespaceName configuration ingress).toList
  name : ',' ∉ (name ingress).toList
  provider : ',' ∉ configuration.middlewareProvider.toList
  sslRedirect : ',' ∉ configuration.sslRedirectMiddleware.toList

theorem comma_not_mem_reference {configuration : Configuration} {ingress : Ingress}
    (commaFree : IsCommaFree configuration ingress) {reference : String}
    (member : reference ∈ Specification.references configuration ingress) :
    ',' ∉ reference.toList := by
  unfold Specification.references at member
  rcases List.mem_append.1 member with leading | generated
  · unfold Specification.leadingReferences at leading
    by_cases noRedirect : Specification.text ingress Key.sslRedirect = ""
    · rw [if_pos noRedirect] at leading
      cases leading
    · rw [if_neg noRedirect] at leading
      rw [List.mem_singleton.1 leading]
      exact commaFree.sslRedirect
  · unfold Specification.generatedReferences at generated
    obtain ⟨attempt, isFirst, rfl⟩ := List.mem_map.1 generated
    have isAttempt : attempt ∈ Specification.attempts ingress :=
      Attempt.mem_of_mem_firstOfEachSuffix isFirst
    have cleanSuffix := comma_not_mem_suffix isAttempt
    rw [Specification.middlewareNamespace_eq, Specification.middlewareName_eq]
    simp [commaFree.namespaceName, commaFree.name, commaFree.provider, cleanSuffix]

theorem splitOn_joinReferences {references : List String} (visible : references ≠ [])
    (commaFree : ∀ reference ∈ references, ',' ∉ reference.toList) :
    ((joinReferences references).toList.splitOn ',').map String.ofList = references := by
  unfold joinReferences
  rw [String.toList_ofList, Text.joinWith_eq_intercalate, List.splitOn_intercalate]
  · simp [Function.comp_def]
  · simpa using commaFree
  · simpa using visible

/-- The entries of the annotation for the middlewares of a router. -/
def routerEntries (ingress : Ingress) : List String :=
  match ingress.annotations.map.bind fun map => map.get? Key.routerMiddlewares with
  | none => []
  | some value => (value.toList.splitOn ',').map String.ofList

variable (configuration : Configuration) (ingress : Ingress)

/-- The entries of a router that do not lead, each of which refers to a middleware. -/
def generatedEntries (converted : Ingress) : List String :=
  (routerEntries converted).drop (Specification.leadingReferences configuration ingress).length

/-- The router of a conversion refers to the leading references and to each of the middlewares. -/
structure IsResolved (conversion : Conversion) : Prop where
  /-- Splitting the annotation gives back the references of the chain. -/
  split : routerEntries conversion.ingress = (chain configuration ingress).references
  leading : routerEntries conversion.ingress =
    Specification.leadingReferences configuration ingress ++
      generatedEntries configuration ingress conversion.ingress
  nodup : (generatedEntries configuration ingress conversion.ingress).Nodup
  perm : (generatedEntries configuration ingress conversion.ingress).Perm
    (conversion.middlewares.map (owner configuration ingress).referenceTo)
  unique : ∀ entry ∈ generatedEntries configuration ingress conversion.ingress,
    ∃! middleware, middleware ∈ conversion.middlewares ∧
      (owner configuration ingress).referenceTo middleware = entry

variable {configuration ingress}

theorem routerEntries_ofChain (commaFree : IsCommaFree configuration ingress)
    (visible : (chain configuration ingress).references ≠ []) :
    routerEntries (ofChain ingress (chain configuration ingress)).ingress =
      (chain configuration ingress).references := by
  have separable : ∀ reference ∈ (chain configuration ingress).references,
      ',' ∉ reference.toList := by
    rw [references_chain]
    exact fun reference member => comma_not_mem_reference commaFree member
  have annotated : (ofChain ingress (chain configuration ingress)).ingress =
      annotate (withEntryPoints ingress) Key.routerMiddlewares
        (joinReferences (chain configuration ingress).references) := by
    simp [ofChain, withReferences, visible]
  unfold routerEntries
  rw [annotated, get?_annotate, if_pos rfl]
  exact splitOn_joinReferences visible separable

theorem isResolved_of_converted {conversion : Conversion}
    (handled : Specification.IsHandled configuration ingress)
    (converted : (convert configuration ingress).value = .ok conversion)
    (visible : (chain configuration ingress).references ≠ [])
    (commaFree : IsCommaFree configuration ingress) :
    IsResolved configuration ingress conversion := by
  rw [eq_ofChain_of_converted configuration ingress handled converted]
  have split := routerEntries_ofChain commaFree visible
  have references := references_chain_eq configuration ingress
  have generated : generatedEntries configuration ingress
      (ofChain ingress (chain configuration ingress)).ingress =
        (chain configuration ingress).middlewares.map
          (owner configuration ingress).referenceTo := by
    unfold generatedEntries
    rw [split, references, List.drop_left]
  have nodup := Chain.generatedNodup_of_namesNodup (owner configuration ingress)
    (names_nodup_chain configuration ingress)
  have sorted := Chain.sortedMiddlewares_perm (chain configuration ingress)
  refine { split, leading := ?_, nodup := ?_, perm := ?_, unique := ?_ }
  · rw [generated, split]
    exact references
  · rw [generated]
    exact nodup
  · rw [generated]
    exact (sorted.map _).symm
  · rw [generated]
    intro entry member
    obtain ⟨middleware, stored, refersTo⟩ := List.mem_map.1 member
    refine ⟨middleware, ⟨sorted.mem_iff.2 stored, refersTo⟩, ?_⟩
    rintro other ⟨isMade, otherRefersTo⟩
    exact List.inj_on_of_nodup_map nodup (sorted.mem_iff.1 isMade) stored
      (otherRefersTo.trans refersTo.symm)

/-- Every run of calls on an empty chain keeps references and middlewares together, and the
references that a converted Ingress has in its annotation lead to its middlewares. -/
theorem references_lead_to_middlewares :
    (∀ (owner : ChainOwner) (calls : List Chain.Call),
      Chain.IsMadeBy owner calls (Chain.run owner Chain.empty calls)) ∧
    ∀ (configuration : Configuration) (ingress : Ingress) (conversion : Conversion),
      Specification.IsHandled configuration ingress →
      (convert configuration ingress).value = .ok conversion →
      (chain configuration ingress).references ≠ [] →
      IsCommaFree configuration ingress →
      conversion = ofChain ingress (chain configuration ingress) ∧
        IsResolved configuration ingress conversion := by
  refine ⟨Chain.isMadeBy_run, ?_⟩
  intro configuration ingress conversion handled converted visible commaFree
  exact ⟨eq_ofChain_of_converted configuration ingress handled converted,
    isResolved_of_converted handled converted visible commaFree⟩

theorem references_lead_to_middlewares_guarded :
    (chain .default guardedIngress).references.length = 2 ∧
      IsResolved .default guardedIngress
        (ofChain guardedIngress (chain .default guardedIngress)) := by
  have twoReferences : (chain .default guardedIngress).references.length = 2 := by
    decide +kernel
  have visible : (chain .default guardedIngress).references ≠ [] :=
    List.ne_nil_of_length_pos (by omega)
  have commaFree : IsCommaFree .default guardedIngress :=
    ⟨by decide +kernel, by decide +kernel, by decide +kernel, by decide +kernel⟩
  have resolved := (references_lead_to_middlewares.2 .default guardedIngress _
    handled_guarded converted_guarded visible commaFree).2
  exact ⟨twoReferences, resolved⟩

end Conversion

end TraefikUpgrade
