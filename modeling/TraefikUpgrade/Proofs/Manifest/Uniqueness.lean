import Mathlib.Data.List.Nodup
import Mathlib.Data.List.Pairwise
import TraefikUpgrade.Proofs.Conversion.Suffix
import TraefikUpgrade.Proofs.Manifest.Independence
import TraefikUpgrade.Proofs.Manifest.Reconversion

/-!
Contract: when the middlewares of a whole manifest have different names.

Owns: the conversions of a manifest, those that make middlewares, the middlewares
that are made, and the only way in which two of them can have one namespace and one
name: the name of one Ingress goes on where the name of the other one ends, with
the start of a suffix that is made for a route.

Does not own: the names that one Ingress gives
(`TraefikUpgrade.Proofs.Conversion.Chain`).
-/

set_option autoImplicit false

namespace TraefikUpgrade

open Kubernetes (Ingress)

/-- What a middleware is known by: its namespace and its name. -/
def Middleware.identity (middleware : Middleware) : String × String :=
  (middleware.namespaceName, middleware.name)

/-! ### The middlewares of one conversion -/

namespace Conversion

variable {configuration : Configuration} {ingress : Ingress} {conversion : Conversion}

/-- What an Ingress is known by: its namespace, or the default one, and its name. -/
def identity (configuration : Configuration) (ingress : Ingress) : String × String :=
  (namespaceName configuration ingress, name ingress)

/-- The namespace and the name of a middleware come from its Ingress and a suffix. -/
theorem identity_of_mem_middlewares
    (converted : (convert configuration ingress).value = .ok conversion)
    {middleware : Middleware} (member : middleware ∈ conversion.middlewares) :
    ∃ suffix, IsSuffix suffix ∧ middleware.identity =
      (namespaceName configuration ingress, name ingress ++ "-" ++ suffix) := by
  obtain ⟨attempt, isAttempt, rfl⟩ := exists_attempt_of_converted converted member
  exact ⟨attempt.suffix, suffix_of_mem_attempts isAttempt, rfl⟩

/-- The name of one Ingress goes on where that of another one ends, and each has a middleware
whose name goes on from there in the same way. -/
structure Overlaps (configuration : Configuration) (shorter longer : Conversion) : Prop where
  namespaceName :
    namespaceName configuration shorter.ingress = namespaceName configuration longer.ingress
  names : ∃ front suffix,
    name longer.ingress = name shorter.ingress ++ "-" ++ front ∧
    (∃ start ∈ routeSuffixes, StartsWithParts start front) ∧
    (∃ middleware ∈ shorter.middlewares,
      middleware.name = name shorter.ingress ++ "-" ++ (front ++ "-" ++ suffix)) ∧
    ∃ middleware ∈ longer.middlewares, middleware.name = name longer.ingress ++ "-" ++ suffix

/-- A name is another one, and goes on with the start of a suffix that is made for a route. -/
def ExtendsByRoute (shorter longer : String) : Prop :=
  ∃ start ∈ routeSuffixes, StartsWithParts (shorter ++ "-" ++ start) longer

theorem extends_of_append_eq {firstName secondName firstSuffix secondSuffix : String}
    {between : List Char} (different : firstName ≠ secondName)
    (names : secondName.toList = firstName.toList ++ between)
    (suffixes : '-' :: firstSuffix.toList = between ++ '-' :: secondSuffix.toList) :
    ∃ front, secondName = firstName ++ "-" ++ front ∧
      firstSuffix = front ++ "-" ++ secondSuffix := by
  cases between with
  | nil => exact absurd (String.toList_injective (by simpa using names.symm)) different
  | cons character front =>
      obtain ⟨rfl, suffixEq⟩ := List.cons.inj suffixes
      refine ⟨String.ofList front, ?_, ?_⟩
      · apply String.toList_injective
        simp [names]
      · apply String.toList_injective
        simp [suffixEq]

/-- Of two different names that become the same by suffixes, one goes on where the other ends. -/
theorem extends_of_same_name {firstName secondName firstSuffix secondSuffix : String}
    (different : firstName ≠ secondName)
    (same : firstName ++ "-" ++ firstSuffix = secondName ++ "-" ++ secondSuffix) :
    (∃ front, secondName = firstName ++ "-" ++ front ∧
        firstSuffix = front ++ "-" ++ secondSuffix) ∨
      ∃ front, firstName = secondName ++ "-" ++ front ∧
        secondSuffix = front ++ "-" ++ firstSuffix := by
  have characters : firstName.toList ++ '-' :: firstSuffix.toList =
      secondName.toList ++ '-' :: secondSuffix.toList := by
    simpa using congrArg String.toList same
  rcases List.append_eq_append_iff.1 characters with
    ⟨between, names, suffixes⟩ | ⟨between, names, suffixes⟩
  · exact .inl (extends_of_append_eq different names suffixes)
  · exact .inr (extends_of_append_eq (Ne.symm different) names suffixes)

section Pair

variable {first second : Conversion}
  (firstConverted : (convert configuration first.ingress).value = .ok first)
  (secondConverted : (convert configuration second.ingress).value = .ok second)

include firstConverted secondConverted

/-- Two conversions share the name of a middleware only when one Ingress has a longer name. -/
theorem overlaps_of_same_identity
    (different : identity configuration first.ingress ≠ identity configuration second.ingress)
    {middleware other : Middleware} (isFirst : middleware ∈ first.middlewares)
    (isSecond : other ∈ second.middlewares) (same : middleware.identity = other.identity) :
    Overlaps configuration first second ∨ Overlaps configuration second first := by
  obtain ⟨firstSuffix, isFirstSuffix, firstIdentity⟩ :=
    identity_of_mem_middlewares firstConverted isFirst
  obtain ⟨secondSuffix, isSecondSuffix, secondIdentity⟩ :=
    identity_of_mem_middlewares secondConverted isSecond
  rw [firstIdentity, secondIdentity, Prod.mk.injEq] at same
  obtain ⟨sameNamespace, sameName⟩ := same
  have differentName : name first.ingress ≠ name second.ingress :=
    fun equal => different (Prod.ext sameNamespace equal)
  have firstName : middleware.name = name first.ingress ++ "-" ++ firstSuffix :=
    congrArg Prod.snd firstIdentity
  have secondName : other.name = name second.ingress ++ "-" ++ secondSuffix :=
    congrArg Prod.snd secondIdentity
  rcases extends_of_same_name differentName sameName with
    ⟨front, longer, ends⟩ | ⟨front, longer, ends⟩
  · obtain ⟨start, isStart, starts, _⟩ :=
      startsWithParts_of_ends isFirstSuffix isSecondSuffix ends
    exact .inl ⟨sameNamespace, front, secondSuffix, longer, ⟨start, isStart, starts⟩,
      ⟨middleware, isFirst, ends ▸ firstName⟩, ⟨other, isSecond, secondName⟩⟩
  · obtain ⟨start, isStart, starts, _⟩ :=
      startsWithParts_of_ends isSecondSuffix isFirstSuffix ends
    exact .inr ⟨sameNamespace.symm, front, firstSuffix, longer, ⟨start, isStart, starts⟩,
      ⟨other, isSecond, ends ▸ secondName⟩, ⟨middleware, isFirst, firstName⟩⟩

theorem same_identity_of_overlaps (overlaps : Overlaps configuration first second) :
    ∃ middleware ∈ first.middlewares, ∃ other ∈ second.middlewares,
      middleware.identity = other.identity := by
  obtain ⟨front, suffix, longer, _, ⟨middleware, isFirst, firstName⟩,
    ⟨other, isSecond, secondName⟩⟩ := overlaps.names
  obtain ⟨_, _, firstIdentity⟩ := identity_of_mem_middlewares firstConverted isFirst
  obtain ⟨_, _, secondIdentity⟩ := identity_of_mem_middlewares secondConverted isSecond
  have firstNamespace : middleware.namespaceName = namespaceName configuration first.ingress :=
    congrArg Prod.fst firstIdentity
  have secondNamespace : other.namespaceName = namespaceName configuration second.ingress :=
    congrArg Prod.fst secondIdentity
  refine ⟨middleware, isFirst, other, isSecond, Prod.ext ?_ ?_⟩
  · exact firstNamespace.trans (overlaps.namespaceName.trans secondNamespace.symm)
  · change middleware.name = other.name
    rw [firstName, secondName, longer]
    simp only [String.append_assoc]

end Pair

theorem Overlaps.extendsByRoute {shorter longer : Conversion}
    (overlaps : Overlaps configuration shorter longer) :
    ExtendsByRoute (name shorter.ingress) (name longer.ingress) := by
  obtain ⟨front, _, isLonger, ⟨start, isStart, starts⟩, _⟩ := overlaps.names
  refine ⟨start, isStart, ?_⟩
  rcases starts with rfl | ⟨rest, rfl⟩
  · exact .inl isLonger
  · exact .inr ⟨rest, by simpa only [String.append_assoc] using isLonger⟩

theorem ExtendsByRoute.ne {shorter longer : String} (extend : ExtendsByRoute shorter longer) :
    shorter ≠ longer := by
  intro equal
  have hyphen : "-".length = 1 := rfl
  obtain ⟨start, _, isStart | ⟨rest, isRest⟩⟩ := extend
  · have lengths := congrArg String.length (equal.trans isStart)
    rw [String.length_append, String.length_append] at lengths
    omega
  · have lengths := congrArg String.length (equal.trans isRest)
    rw [String.length_append, String.length_append, String.length_append,
      String.length_append] at lengths
    omega

end Conversion

/-! ### The middlewares of a manifest -/

namespace Manifest

open Conversion (Overlaps ExtendsByRoute)

/-- The conversion of a block, if there is one. -/
def Block.conversion? : Block → Option Conversion
  | .kept _ => none
  | .converted conversion => some conversion

/-- The conversion of a block, if it makes middlewares. -/
def Block.generating? : Block → Option Conversion
  | .kept _ => none
  | .converted conversion => if conversion.middlewares = [] then none else some conversion

variable (configuration : Configuration) (content : String)

/-- The conversions of a manifest that succeed, in order. -/
def conversions : List Conversion :=
  (blocks configuration content).filterMap Block.conversion?

/-- The conversions of a manifest that make middlewares, in order. -/
def generating : List Conversion :=
  (blocks configuration content).filterMap Block.generating?

/-- The middlewares that are made of a manifest, in order. -/
def generated : List Middleware :=
  (blocks configuration content).flatMap Block.middlewares

variable {configuration content}

theorem generating_eq :
    generating configuration content =
      (conversions configuration content).filter fun conversion =>
        conversion.middlewares ≠ [] := by
  unfold generating conversions
  rw [List.filter_filterMap]
  refine List.filterMap_congr fun block _ => ?_
  cases block with
  | kept document => rfl
  | converted conversion =>
      by_cases noMiddleware : conversion.middlewares = []
      · simp [Block.generating?, Block.conversion?, Option.filter, noMiddleware]
      · simp [Block.generating?, Block.conversion?, Option.filter, noMiddleware]

theorem generated_eq_flatMap :
    generated configuration content =
      (conversions configuration content).flatMap Conversion.middlewares := by
  unfold generated conversions
  induction blocks configuration content with
  | nil => rfl
  | cons block rest inductionHypothesis =>
      rw [List.flatMap_cons, inductionHypothesis, List.filterMap_cons]
      cases block with
      | kept document => rfl
      | converted conversion => rfl

theorem generated_eq :
    generated configuration content =
      (generating configuration content).flatMap Conversion.middlewares := by
  rw [generated_eq_flatMap, generating_eq]
  induction conversions configuration content with
  | nil => rfl
  | cons conversion rest inductionHypothesis =>
      by_cases noMiddleware : conversion.middlewares = []
      · simp [noMiddleware, inductionHypothesis]
      · simp [noMiddleware, inductionHypothesis]

theorem converted_of_mem_generating {conversion : Conversion}
    (member : conversion ∈ generating configuration content) :
    (Conversion.convert configuration conversion.ingress).value = .ok conversion := by
  obtain ⟨block, isBlock, isConversion⟩ := List.mem_filterMap.1 member
  cases block with
  | kept document => cases isConversion
  | converted other =>
      obtain ⟨_, isOther⟩ := Option.ite_none_left_eq_some.1 isConversion
      obtain ⟨ingress, converted⟩ := exists_ingress_of_converted isBlock
      rw [← Option.some.inj isOther]
      exact Conversion.convert_conversion converted

/-- The middlewares of one conversion have different names. -/
theorem identities_nodup_of_mem_generating {conversion : Conversion}
    (member : conversion ∈ generating configuration content) :
    (conversion.middlewares.map Middleware.identity).Nodup := by
  have names := Conversion.names_nodup_of_converted (converted_of_mem_generating member)
  rw [List.Nodup, List.pairwise_map] at names ⊢
  exact names.imp fun different same => different (congrArg Prod.snd same)

/-- Conversions of different Ingresses have no middleware name in common unless they overlap. -/
theorem disjoint_iff {first second : Conversion}
    (isFirst : first ∈ generating configuration content)
    (isSecond : second ∈ generating configuration content)
    (different : Conversion.identity configuration first.ingress ≠
      Conversion.identity configuration second.ingress) :
    List.Disjoint (first.middlewares.map Middleware.identity)
        (second.middlewares.map Middleware.identity) ↔
      ¬Overlaps configuration first second ∧ ¬Overlaps configuration second first := by
  have firstConverted := converted_of_mem_generating isFirst
  have secondConverted := converted_of_mem_generating isSecond
  rw [← not_or, List.disjoint_left]
  constructor
  · rintro disjoint (overlaps | overlaps)
    · obtain ⟨middleware, ofFirst, other, ofSecond, same⟩ :=
        Conversion.same_identity_of_overlaps firstConverted secondConverted overlaps
      refine disjoint (List.mem_map_of_mem ofFirst) ?_
      exact List.mem_map.2 ⟨other, ofSecond, same.symm⟩
    · obtain ⟨other, ofSecond, middleware, ofFirst, same⟩ :=
        Conversion.same_identity_of_overlaps secondConverted firstConverted overlaps
      refine disjoint (List.mem_map_of_mem ofFirst) ?_
      exact List.mem_map.2 ⟨other, ofSecond, same⟩
  · rintro apart _ ofFirst ofSecond
    obtain ⟨middleware, isMiddleware, rfl⟩ := List.mem_map.1 ofFirst
    obtain ⟨other, isOther, same⟩ := List.mem_map.1 ofSecond
    exact apart (Conversion.overlaps_of_same_identity firstConverted secondConverted different
      isMiddleware isOther same.symm)

section Distinct

variable (distinct : ((generating configuration content).map fun conversion =>
  Conversion.identity configuration conversion.ingress).Nodup)

include distinct

theorem identities_nodup_iff :
    ((generated configuration content).map Middleware.identity).Nodup ↔
      ∀ shorter ∈ generating configuration content, ∀ longer ∈ generating configuration content,
        ¬Overlaps configuration shorter longer := by
  rw [generated_eq, List.map_flatMap, List.nodup_flatMap,
    and_iff_right fun conversion member => identities_nodup_of_mem_generating member]
  rw [List.Nodup, List.pairwise_map] at distinct
  constructor
  · intro disjoint shorter isShorter longer isLonger overlaps
    have apart : (generating configuration content).Pairwise fun first second =>
        ¬Overlaps configuration first second ∧ ¬Overlaps configuration second first := by
      refine (disjoint.and distinct).imp_of_mem ?_
      rintro first second isFirst isSecond ⟨disjointPair, different⟩
      exact (disjoint_iff isFirst isSecond different).1 disjointPair
    have symmetric : Std.Symm fun first second =>
        ¬Overlaps configuration first second ∧ ¬Overlaps configuration second first :=
      ⟨fun _ _ => And.symm⟩
    have different : shorter ≠ longer := by
      rintro rfl
      exact overlaps.extendsByRoute.ne rfl
    exact (apart.forall isShorter isLonger different).1 overlaps
  · intro apart
    refine distinct.imp_of_mem fun isFirst isSecond different => ?_
    exact (disjoint_iff isFirst isSecond different).2
      ⟨apart _ isFirst _ isSecond, apart _ isSecond _ isFirst⟩

end Distinct

/-- When the Ingresses of a manifest that make middlewares are different, so are the middlewares of
the manifest, unless two of the Ingresses overlap. They can do so only in one namespace, and when
the name of one goes on where the name of the other one ends. -/
theorem generated_identities_are_unique (configuration : Configuration) (content : String)
    (distinct : ((generating configuration content).map fun conversion =>
      Conversion.identity configuration conversion.ingress).Nodup) :
    (((generated configuration content).map Middleware.identity).Nodup ↔
        ∀ shorter ∈ generating configuration content,
          ∀ longer ∈ generating configuration content,
            ¬Overlaps configuration shorter longer) ∧
      ((∀ shorter ∈ generating configuration content,
          ∀ longer ∈ generating configuration content,
            Conversion.namespaceName configuration shorter.ingress =
                Conversion.namespaceName configuration longer.ingress →
              ¬ExtendsByRoute (Conversion.name shorter.ingress)
                (Conversion.name longer.ingress)) →
        ((generated configuration content).map Middleware.identity).Nodup) := by
  have nodupIff := identities_nodup_iff distinct
  refine ⟨nodupIff, fun noExtension => nodupIff.2 ?_⟩
  intro shorter isShorter longer isLonger overlaps
  exact noExtension shorter isShorter longer isLonger overlaps.namespaceName
    overlaps.extendsByRoute

/-! ### Two Ingresses whose names overlap -/

theorem conversions_around {first line : String} (ended : first = "" ∨ IsEnded first)
    (isLine : IsSeparatorLine line) (second : String) :
    conversions configuration (first ++ line ++ second) =
      conversions configuration first ++ conversions configuration second := by
  unfold conversions blocks
  rw [split_around ended isLine, List.flatMap_append, List.filterMap_append]

/-- An Ingress with a path that is rewritten. -/
def rewrittenIngress : String :=
  "apiVersion: networking.k8s.io/v1\nkind: Ingress\nmetadata:\n  name: a\n  annotations:\n    ingress.kubernetes.io/rewrite-target: /\nspec:\n  rules:\n  - http:\n      paths:\n      - path: headers\n"

/-- An Ingress of a given name with a setting for a header. -/
def headerIngress (name : String) : String :=
  "apiVersion: networking.k8s.io/v1\nkind: Ingress\nmetadata:\n  name: " ++ name ++
    "\n  annotations:\n    ingress.kubernetes.io/ssl-host: h\n"

/-- A rewritten Ingress and one with a setting for a header. -/
def ingressPair (name : String) : String :=
  rewrittenIngress ++ "---\n" ++ headerIngress name

/-- Which Ingress is converted, and which middlewares it makes. -/
def identitiesOf (conversion : Conversion) : (String × String) × List (String × String) :=
  (Conversion.identity .default conversion.ingress,
    conversion.middlewares.map Middleware.identity)

def identities (content : String) : List ((String × String) × List (String × String)) :=
  (conversions .default content).map identitiesOf

set_option maxRecDepth 2000 in
theorem isEnded_rewrittenIngress : IsEnded rewrittenIngress := by
  have spelled : rewrittenIngress = String.ofList _ := rfl
  rw [spelled, isEnded_ofList]
  rfl

theorem append_spelled {first second : String} {characters others : List Char}
    (spelled : first = String.ofList characters) (otherSpelled : second = String.ofList others) :
    first ++ second = String.ofList (characters ++ others) := by
  rw [spelled, otherSpelled, String.ofList_append]

theorem identities_of_spelled {text : String} {characters : List Char}
    {found : List ((String × String) × List (String × String))}
    (spelled : text = String.ofList characters)
    (finds : (ingressOf? characters).map (fun ingress =>
      [Block.ofIngress? .default text (some ingress)].filterMap fun block =>
        block.conversion?.map identitiesOf) = some found) : identities text = found := by
  obtain ⟨ingress, isDocument, isIngress, rfl⟩ := exists_ingress_of_spelled _ _ spelled finds
  rw [identities, conversions, blocks_of_ingress isDocument isIngress, List.map_filterMap]

set_option maxRecDepth 2000 in
theorem identities_rewrittenIngress :
    identities rewrittenIngress =
      [(("default", "a"), [("default", "a-replace-path-headers")])] := by
  have spelled : rewrittenIngress = String.ofList _ := rfl
  exact identities_of_spelled spelled (by decide +kernel)

theorem identities_ingressPair (name : String) :
    identities (ingressPair name) =
      (("default", "a"), [("default", "a-replace-path-headers")]) ::
        identities (headerIngress name) := by
  have isLine : IsSeparatorLine "---\n" := ⟨⟨['-', '-', '-'], by decide, rfl⟩, by decide⟩
  have pair : identities (ingressPair name) =
      identities rewrittenIngress ++ identities (headerIngress name) := by
    unfold identities ingressPair
    rw [conversions_around (.inr isEnded_rewrittenIngress) isLine, List.map_append]
  rw [pair, identities_rewrittenIngress, List.singleton_append]

theorem map_identity_conversions (content : String) :
    (conversions .default content).map
        (fun conversion => Conversion.identity .default conversion.ingress) =
      (identities content).map Prod.fst := by
  unfold identities
  rw [List.map_map]
  rfl

theorem map_identity_generated (content : String) :
    (generated .default content).map Middleware.identity =
      (identities content).flatMap Prod.snd := by
  rw [generated_eq_flatMap, List.map_flatMap]
  unfold identities
  rw [List.flatMap_map]
  rfl

set_option maxRecDepth 2000 in
theorem identities_headerIngress :
    identities (headerIngress "a-b") = [(("default", "a-b"), [("default", "a-b-headers")])] ∧
      identities (headerIngress "a-replace-path") =
        [(("default", "a-replace-path"), [("default", "a-replace-path-headers")])] := by
  have shorter : headerIngress "a-b" = String.ofList _ :=
    append_spelled (append_spelled rfl rfl) rfl
  have longer : headerIngress "a-replace-path" = String.ofList _ :=
    append_spelled (append_spelled rfl rfl) rfl
  exact ⟨identities_of_spelled shorter (by decide +kernel),
    identities_of_spelled longer (by decide +kernel)⟩

theorem generated_identities_are_unique_ingressPair :
    (generated .default (ingressPair "a-b")).map Middleware.identity =
        [("default", "a-replace-path-headers"), ("default", "a-b-headers")] ∧
      ∀ shorter ∈ generating .default (ingressPair "a-b"),
        ∀ longer ∈ generating .default (ingressPair "a-b"),
          ¬Overlaps .default shorter longer := by
  have owners := map_identity_conversions (ingressPair "a-b")
  have middlewares := map_identity_generated (ingressPair "a-b")
  rw [identities_ingressPair, identities_headerIngress.1] at owners middlewares
  have distinct : ((conversions .default (ingressPair "a-b")).map fun conversion =>
      Conversion.identity .default conversion.ingress).Nodup := by
    rw [owners]
    decide
  refine ⟨middlewares, (generated_identities_are_unique .default _ ?_).1.1 ?_⟩
  · rw [generating_eq]
    exact distinct.sublist (List.filter_sublist.map _)
  · rw [middlewares]
    decide

/-- The name of one Ingress can go on so that both Ingresses give a middleware the same name, though
all Ingresses that are converted are different. -/
theorem generated_names_collide :
    ¬∀ configuration content,
      ((conversions configuration content).map fun conversion =>
        Conversion.identity configuration conversion.ingress).Nodup →
      ((generated configuration content).map Middleware.identity).Nodup := by
  intro unique
  have owners := map_identity_conversions (ingressPair "a-replace-path")
  have middlewares := map_identity_generated (ingressPair "a-replace-path")
  rw [identities_ingressPair, identities_headerIngress.2] at owners middlewares
  have nodup := unique .default (ingressPair "a-replace-path")
  rw [owners, middlewares] at nodup
  exact absurd (nodup (by decide)) (by decide)

end Manifest

end TraefikUpgrade
