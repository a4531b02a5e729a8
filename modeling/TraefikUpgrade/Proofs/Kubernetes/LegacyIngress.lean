import Mathlib.Data.List.Forall2
import TraefikUpgrade.Kubernetes.LegacyIngress

/-!
Contract: how much of a legacy Ingress its projection onto the current version keeps.

Owns: the agreement of two legacy Ingresses field by field, and what two of
them have in common exactly when they are projected onto the same Ingress. A
port without a service goes to nothing and is lost; a missing path type and the
default one are the same; everything else is kept.

Does not own: the reading of a legacy Ingress
(`TraefikUpgrade.Kubernetes.LegacyIngress`).
-/

set_option autoImplicit false

namespace TraefikUpgrade.Kubernetes

/-! ### Agreement field by field -/

/-- Path types that are the same, or one missing and the other the one that is filled in for it. -/
def SamePathType (first second : Option String) : Prop :=
  first = second ∨
    (first = none ∧ second = some "ImplementationSpecific") ∨
    (first = some "ImplementationSpecific" ∧ second = none)

section Agreement

variable (same : LegacyBackend → LegacyBackend → Prop)

/-- Two paths that agree, when it is said which backends do. -/
structure LegacyPath.AgreeBy (first second : LegacyPath) : Prop where
  backend : same first.backend second.backend
  path : first.path = second.path
  pathType : SamePathType first.pathType second.pathType

/-- Two rules with the same host and with paths that agree one by one. -/
structure LegacyRule.AgreeBy (first second : LegacyRule) : Prop where
  host : first.host = second.host
  http : Option.Rel (List.Forall₂ (LegacyPath.AgreeBy same)) first.http second.http

structure LegacySpec.AgreeBy (first second : LegacySpec) : Prop where
  backend : Option.Rel same first.backend second.backend
  ingressClassName : first.ingressClassName = second.ingressClassName
  rules : Option.Rel (List.Forall₂ (LegacyRule.AgreeBy same)) first.rules second.rules
  tls : first.tls = second.tls

/-- Two Ingresses that agree on everything but their version and kind. -/
structure LegacyIngress.AgreeBy (first second : LegacyIngress) : Prop where
  metadata : first.metadata = second.metadata
  spec : Option.Rel (LegacySpec.AgreeBy same) first.spec second.spec
  status : first.status = second.status

end Agreement

/-- Two backends with the same service and resource, and with the same port if there is a service
that it belongs to. -/
structure LegacyBackend.SameTarget (first second : LegacyBackend) : Prop where
  serviceName : first.serviceName = second.serviceName
  servicePort : first.serviceName ≠ none → first.servicePort = second.servicePort
  resource : first.resource = second.resource

/-! ### What two values have in common that are projected onto the same one -/

theorem map_eq_map_iff_rel {Source Target : Type} {project : Source → Target}
    {related : Source → Source → Prop}
    (kernel : ∀ first second, project first = project second ↔ related first second)
    (first second : Option Source) :
    first.map project = second.map project ↔ Option.Rel related first second := by
  cases first with
  | none => cases second <;> simp
  | some first => cases second <;> simp [kernel]

theorem map_eq_map_iff_forall₂ {Source Target : Type} {project : Source → Target}
    {related : Source → Source → Prop}
    (kernel : ∀ first second, project first = project second ↔ related first second)
    (first second : List Source) :
    first.map project = second.map project ↔ List.Forall₂ related first second := by
  rw [← List.forall₂_eq_eq_eq, List.forall₂_map_left_iff, List.forall₂_map_right_iff]
  simp only [kernel]

theorem getD_defaultPathType_eq_iff (first second : Option String) :
    first.getD defaultPathType = second.getD defaultPathType ↔ SamePathType first second := by
  unfold SamePathType defaultPathType
  cases first with
  | none => cases second <;> simp [eq_comm]
  | some first => cases second <;> simp

namespace LegacyPort

theorem toCurrent_injective : Function.Injective toCurrent := by
  intro first second equal
  cases first with
  | number value => cases second <;> simp_all [toCurrent]
  | name text => cases second <;> simp_all [toCurrent]

end LegacyPort

theorem LegacyBackend.toCurrent_eq_iff (first second : LegacyBackend) :
    first.toCurrent = second.toCurrent ↔ first.SameTarget second := by
  have ports : first.servicePort.map LegacyPort.toCurrent =
      second.servicePort.map LegacyPort.toCurrent ↔ first.servicePort = second.servicePort :=
    (Option.map_injective LegacyPort.toCurrent_injective).eq_iff
  -- the services are equal when their names are and, if there are any, their ports
  have services : first.toCurrent.service = second.toCurrent.service ↔
      first.serviceName = second.serviceName ∧
        (first.serviceName ≠ none → first.servicePort = second.servicePort) := by
    unfold toCurrent
    rw [← ports]
    cases first.serviceName with
    | none => cases second.serviceName <;> simp
    | some name => cases second.serviceName <;> simp
  constructor
  · intro equal
    obtain ⟨serviceName, servicePort⟩ := services.1 (congrArg Backend.service equal)
    exact ⟨serviceName, servicePort, congrArg Backend.resource equal⟩
  · intro agree
    have service := services.2 ⟨agree.serviceName, agree.servicePort⟩
    exact (Backend.mk.injEq ..).mpr ⟨agree.resource, service⟩

theorem LegacyPath.toCurrent_eq_iff (first second : LegacyPath) :
    first.toCurrent = second.toCurrent ↔ first.AgreeBy LegacyBackend.SameTarget second := by
  unfold toCurrent
  rw [HttpPath.mk.injEq, LegacyBackend.toCurrent_eq_iff, getD_defaultPathType_eq_iff]
  exact ⟨fun ⟨backend, path, pathType⟩ => ⟨backend, path, pathType⟩,
    fun agree => ⟨agree.backend, agree.path, agree.pathType⟩⟩

theorem LegacyRule.toCurrent_eq_iff (first second : LegacyRule) :
    first.toCurrent = second.toCurrent ↔ first.AgreeBy LegacyBackend.SameTarget second := by
  unfold toCurrent
  rw [IngressRule.mk.injEq,
    map_eq_map_iff_rel (map_eq_map_iff_forall₂ LegacyPath.toCurrent_eq_iff)]
  exact ⟨fun ⟨host, http⟩ => ⟨host, http⟩, fun agree => ⟨agree.host, agree.http⟩⟩

theorem LegacySpec.toCurrent_eq_iff (first second : LegacySpec) :
    first.toCurrent = second.toCurrent ↔ first.AgreeBy LegacyBackend.SameTarget second := by
  unfold toCurrent
  rw [IngressSpec.mk.injEq, map_eq_map_iff_rel LegacyBackend.toCurrent_eq_iff,
    map_eq_map_iff_rel (map_eq_map_iff_forall₂ LegacyRule.toCurrent_eq_iff)]
  exact ⟨fun ⟨backend, ingressClassName, rules, tls⟩ => ⟨backend, ingressClassName, rules, tls⟩,
    fun agree => ⟨agree.backend, agree.ingressClassName, agree.rules, agree.tls⟩⟩

theorem LegacyIngress.toCurrent_eq_iff (first second : LegacyIngress) :
    first.toCurrent = second.toCurrent ↔ first.AgreeBy LegacyBackend.SameTarget second := by
  unfold toCurrent
  rw [Ingress.mk.injEq, map_eq_map_iff_rel LegacySpec.toCurrent_eq_iff]
  exact ⟨fun ⟨metadata, spec, status⟩ => ⟨metadata, spec, status⟩,
    fun agree => ⟨agree.metadata, agree.spec, agree.status⟩⟩

/-! ### Stray ports -/

/-- The backends of a specification: the default one and those of the paths. -/
def LegacySpec.backends (spec : LegacySpec) : List LegacyBackend :=
  spec.backend.toList ++
    (spec.rules.getD []).flatMap fun rule => (rule.http.getD []).map LegacyPath.backend

namespace LegacyIngress

def backends (ingress : LegacyIngress) : List LegacyBackend :=
  ingress.spec.toList.flatMap LegacySpec.backends

/-- Every port belongs to a service. -/
def HasNoStrayPort (ingress : LegacyIngress) : Prop :=
  ∀ backend ∈ ingress.backends, backend.serviceName = none → backend.servicePort = none

instance (ingress : LegacyIngress) : Decidable ingress.HasNoStrayPort :=
  inferInstanceAs (Decidable (∀ backend ∈ ingress.backends, _))

end LegacyIngress

theorem rel_imp_of_mem {Source : Type} {weak strong : Source → Source → Prop}
    {first second : Option Source} (related : Option.Rel weak first second)
    (implies : ∀ left ∈ first, ∀ right ∈ second, weak left right → strong left right) :
    Option.Rel strong first second := by
  cases related with
  | none => exact .none
  | some holds => exact .some (implies _ rfl _ rfl holds)

theorem forall₂_imp_of_mem {Source : Type} {weak strong : Source → Source → Prop}
    {first second : List Source} (related : List.Forall₂ weak first second)
    (implies : ∀ left ∈ first, ∀ right ∈ second, weak left right → strong left right) :
    List.Forall₂ strong first second := by
  rw [List.forall₂_iff_zip] at related ⊢
  refine ⟨related.1, fun isPair => ?_⟩
  obtain ⟨isLeft, isRight⟩ := List.of_mem_zip isPair
  exact implies _ isLeft _ isRight (related.2 isPair)

/-- Agreement depends only on which of the backends agree that there are. -/
theorem LegacyIngress.AgreeBy.imp {weak strong : LegacyBackend → LegacyBackend → Prop}
    {first second : LegacyIngress} (agree : first.AgreeBy weak second)
    (implies : ∀ left ∈ first.backends, ∀ right ∈ second.backends,
      weak left right → strong left right) :
    first.AgreeBy strong second := by
  refine ⟨agree.metadata, rel_imp_of_mem agree.spec ?_, agree.status⟩
  intro firstSpec isFirst secondSpec isSecond specs
  have ofFirst {backend : LegacyBackend} (member : backend ∈ firstSpec.backends) :
      backend ∈ first.backends :=
    List.mem_flatMap.2 ⟨firstSpec, Option.mem_toList.2 isFirst, member⟩
  have ofSecond {backend : LegacyBackend} (member : backend ∈ secondSpec.backends) :
      backend ∈ second.backends :=
    List.mem_flatMap.2 ⟨secondSpec, Option.mem_toList.2 isSecond, member⟩
  refine ⟨rel_imp_of_mem specs.backend ?_, specs.ingressClassName,
    rel_imp_of_mem specs.rules ?_, specs.tls⟩
  · intro left isLeft right isRight
    exact implies left (ofFirst (List.mem_append_left _ (Option.mem_toList.2 isLeft)))
      right (ofSecond (List.mem_append_left _ (Option.mem_toList.2 isRight)))
  · intro firstRules areFirst secondRules areSecond rules
    refine forall₂_imp_of_mem rules fun firstRule isFirstRule secondRule isSecondRule agreeing => ?_
    refine ⟨agreeing.host, rel_imp_of_mem agreeing.http ?_⟩
    intro firstPaths areFirstPaths secondPaths areSecondPaths paths
    refine forall₂_imp_of_mem paths fun left isLeft right isRight pair => ?_
    refine ⟨implies _ (ofFirst (List.mem_append_right _ ?_)) _
      (ofSecond (List.mem_append_right _ ?_)) pair.backend, pair.path, pair.pathType⟩
    · rw [Option.mem_def.1 areFirst]
      refine List.mem_flatMap.2 ⟨firstRule, isFirstRule, ?_⟩
      rw [Option.mem_def.1 areFirstPaths]
      exact List.mem_map_of_mem isLeft
    · rw [Option.mem_def.1 areSecond]
      refine List.mem_flatMap.2 ⟨secondRule, isSecondRule, ?_⟩
      rw [Option.mem_def.1 areSecondPaths]
      exact List.mem_map_of_mem isRight

theorem LegacyBackend.SameTarget.eq_of_served {first second : LegacyBackend}
    (agree : first.SameTarget second)
    (served : first.serviceName = none → first.servicePort = none)
    (otherServed : second.serviceName = none → second.servicePort = none) : first = second := by
  have port : first.servicePort = second.servicePort := by
    by_cases noService : first.serviceName = none
    · rw [served noService, otherServed (agree.serviceName ▸ noService)]
    · exact agree.servicePort noService
  exact (LegacyBackend.mk.injEq ..).mpr ⟨agree.serviceName, port, agree.resource⟩

/-- Two legacy Ingresses are projected onto the same Ingress exactly when they agree on every field
but the ports that belong to no service. If neither has such a port, they agree on every field. -/
theorem projection_loses_only_stray_ports (first second : LegacyIngress) :
    (first.toCurrent = second.toCurrent ↔ first.AgreeBy LegacyBackend.SameTarget second) ∧
      (first.HasNoStrayPort → second.HasNoStrayPort →
        (first.toCurrent = second.toCurrent ↔ first.AgreeBy (· = ·) second)) := by
  refine ⟨LegacyIngress.toCurrent_eq_iff first second, fun firstServed secondServed => ?_⟩
  rw [LegacyIngress.toCurrent_eq_iff]
  constructor
  · intro agree
    refine agree.imp fun left isLeft right isRight sameTarget => ?_
    exact sameTarget.eq_of_served (firstServed left isLeft) (secondServed right isRight)
  · intro agree
    refine agree.imp ?_
    rintro backend _ _ _ rfl
    exact ⟨rfl, fun _ => rfl, rfl⟩

/-- A legacy Ingress whose only content is its default backend and one path. -/
def legacySample (backend : LegacyBackend) (pathType : Option String) : LegacyIngress where
  apiVersion := "extensions/v1beta1"
  kind := "Ingress"
  metadata := ObjectMeta.unset
  spec := some
    { backend := some backend
      ingressClassName := none
      rules := some [⟨none, some [⟨backend, some "/", pathType⟩]⟩]
      tls := none }
  status := none

/-- The backends of two samples have a port with a service, and one sample has no path type. -/
theorem projection_loses_only_stray_ports_pathType :
    ∃ first second : LegacyIngress,
      first ≠ second ∧ first.HasNoStrayPort ∧ second.HasNoStrayPort ∧
        first.toCurrent = second.toCurrent ∧ first.AgreeBy (· = ·) second := by
  let shop : LegacyBackend := ⟨some "shop", some (.number 80), none⟩
  have firstServed : (legacySample shop none).HasNoStrayPort := by decide
  have secondServed : (legacySample shop (some "ImplementationSpecific")).HasNoStrayPort := by
    decide
  refine ⟨_, _, by decide, firstServed, secondServed, rfl, ?_⟩
  exact ((projection_loses_only_stray_ports _ _).2 firstServed secondServed).1 rfl

/-- A port that belongs to no service is lost. -/
theorem stray_port_is_lost :
    ¬∀ first second : LegacyIngress,
      first.apiVersion = second.apiVersion → first.kind = second.kind →
        first.toCurrent = second.toCurrent → first.AgreeBy (· = ·) second := by
  intro lossless
  have agree := lossless (legacySample ⟨none, some (.number 8080), none⟩ none)
    (legacySample ⟨none, none, none⟩ none) rfl rfl rfl
  cases agree.spec with
  | some specs =>
      cases specs.backend with
      | some sameBackend => cases sameBackend

end TraefikUpgrade.Kubernetes
