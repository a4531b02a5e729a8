import TraefikUpgrade.Proofs.Conversion.Specification

/-!
Contract: what the conversion of an Ingress gives.

Owns: the fault that stops a conversion, the calls that build the chain of an
Ingress, the result of every conversion in terms of both, and the references and
middlewares of the complete chain, which are the specified ones.

Does not own: the specification itself
(`TraefikUpgrade.Proofs.Conversion.Specification`), and the annotations that a
conversion sets (`TraefikUpgrade.Proofs.Conversion.Frame`).
-/

set_option autoImplicit false

namespace TraefikUpgrade.Conversion

open Annotation
open Kubernetes (Ingress)

variable (configuration : Configuration) (ingress : Ingress)

/-- What stops the conversion of an Ingress of a handled class. -/
def fault? (ingress : Ingress) : Option ConversionError :=
  match (RuleType.ofAnnotations ingress.annotations).value with
  | .error error => some error
  | .ok ruleType =>
      if ingress.routes.any (Attempt.isConflicting ingress.annotations ruleType) then
        some .rewriteTargetWithReplacePath
      else none

theorem fault?_eq_none_iff {ingress : Ingress} :
    fault? ingress = none ↔
      ∃ ruleType, (RuleType.ofAnnotations ingress.annotations).value = .ok ruleType ∧
        ingress.routes.any (Attempt.isConflicting ingress.annotations ruleType) = false := by
  unfold fault?
  cases resolved : (RuleType.ofAnnotations ingress.annotations).value with
  | error error => simp
  | ok ruleType => simp

/-- The calls that build the chain of an Ingress. -/
def calls : List Chain.Call :=
  (Specification.leadingReferences configuration ingress).map .reference ++
    (Specification.attempts ingress).map .push

/-- The complete chain of an Ingress. -/
def chain : Chain :=
  Chain.run (owner configuration ingress) Chain.empty (calls configuration ingress)

theorem attempted_calls :
    Chain.attempted (calls configuration ingress) = Specification.attempts ingress := by
  unfold calls Chain.attempted
  rw [List.filterMap_append]
  simp [Chain.Call.attempt?, Function.comp_def]

theorem initialChain_eq :
    initialChain configuration ingress.annotations =
      Chain.run (owner configuration ingress) Chain.empty
        ((Specification.leadingReferences configuration ingress).map .reference) := by
  rw [Chain.run_empty_references]
  unfold initialChain Specification.leadingReferences
  rw [Annotations.contains_eq, Specification.text_eq]
  by_cases noRedirect : ingress.annotations.text Key.sslRedirect = ""
  · simp [noRedirect, Chain.empty]
  · simp [noRedirect, Chain.empty, Chain.addReference]

theorem convertHandled_value :
    (convertHandled configuration ingress).value =
      match fault? ingress with
      | some error => .error error
      | none => .ok (ofChain ingress (chain configuration ingress)) := by
  unfold convertHandled fault?
  simp only [Logged.value_bind]
  cases resolved : (RuleType.ofAnnotations ingress.annotations).value with
  | error error => rfl
  | ok ruleType =>
      simp only [Logged.value_bind]
      cases conflict : ingress.routes.any
          (Attempt.isConflicting ingress.annotations ruleType) with
      | true => simp
      | false =>
          simp only [Bool.false_eq_true, if_false, Logged.value_pure, Except.ok.injEq]
          rw [Chain.pushAll_value, initialChain_eq, ← Chain.run_append,
            Specification.ofAnnotations_value,
            Specification.ofRoutes_eq ingress resolved conflict]
          rfl

/-- The result of a conversion: an Ingress of a foreign class stays as it is, and a handled one is
converted by its complete chain unless there is a fault. -/
theorem convert_value :
    (convert configuration ingress).value =
      if foreignClass? configuration ingress.annotations = none then
        match fault? ingress with
        | some error => .error error
        | none => .ok (ofChain ingress (chain configuration ingress))
      else .ok ⟨ingress, []⟩ := by
  unfold convert
  cases foreignClass? configuration ingress.annotations with
  | none => simp [convertHandled_value]
  | some foreign => simp

variable {configuration ingress} in
/-- A conversion succeeds in two ways: a handled Ingress without a fault is converted by its complete
chain, and one of a foreign class stays as it is. -/
theorem convert_eq_ok_iff {conversion : Conversion} :
    (convert configuration ingress).value = .ok conversion ↔
      (Specification.IsHandled configuration ingress ∧ fault? ingress = none ∧
          conversion = ofChain ingress (chain configuration ingress)) ∨
        (¬Specification.IsHandled configuration ingress ∧ conversion = ⟨ingress, []⟩) := by
  rw [convert_value, ← Specification.foreignClass?_eq_none_iff]
  by_cases handled : foreignClass? configuration ingress.annotations = none
  · cases fault : fault? ingress with
    | some error => simp [handled]
    | none => simp [handled, eq_comm]
  · simp [handled, eq_comm]

variable {configuration ingress} in
theorem faultless_of_converted {conversion : Conversion}
    (handled : Specification.IsHandled configuration ingress)
    (converted : (convert configuration ingress).value = .ok conversion) :
    fault? ingress = none := by
  rcases convert_eq_ok_iff.1 converted with ⟨-, faultless, -⟩ | ⟨notHandled, -⟩
  · exact faultless
  · exact absurd handled notHandled

/-- The complete chain of a handled Ingress that is converted makes the result. -/
theorem eq_ofChain_of_converted {conversion : Conversion}
    (handled : Specification.IsHandled configuration ingress)
    (converted : (convert configuration ingress).value = .ok conversion) :
    conversion = ofChain ingress (chain configuration ingress) := by
  rcases convert_eq_ok_iff.1 converted with ⟨-, -, isResult⟩ | ⟨notHandled, -⟩
  · exact isResult
  · exact absurd handled notHandled

variable {configuration ingress} in
theorem convert_eq_error_of_fault? {error : ConversionError}
    (handled : Specification.IsHandled configuration ingress) (fault : fault? ingress = some error) :
    (convert configuration ingress).value = .error error := by
  rw [convert_value, if_pos ((Specification.foreignClass?_eq_none_iff _ _).2 handled), fault]

/-! ### Agreement with the specification -/

theorem middlewares_chain :
    (chain configuration ingress).middlewares = Specification.middlewares configuration ingress := by
  unfold chain
  rw [Chain.middlewares_run_empty, attempted_calls]
  rfl

theorem references_chain_eq :
    (chain configuration ingress).references =
      Specification.leadingReferences configuration ingress ++
        (chain configuration ingress).middlewares.map
          (owner configuration ingress).referenceTo :=
  Chain.references_run_empty _ _ _

theorem references_chain :
    (chain configuration ingress).references = Specification.references configuration ingress := by
  have generated : (chain configuration ingress).middlewares.map
      (owner configuration ingress).referenceTo =
        Specification.generatedReferences configuration ingress := by
    rw [middlewares_chain]
    unfold Specification.middlewares Specification.generatedReferences
    rw [List.map_map]
    rfl
  rw [references_chain_eq, generated]
  rfl

theorem joinReferences_eq (references : List String) :
    joinReferences references = ",".intercalate references := by
  apply String.toList_injective
  unfold joinReferences
  rw [String.toList_ofList, Text.joinWith_eq_intercalate, String.toList_intercalate]
  rfl

/-- The complete chain is made of the attempts that count. -/
theorem chain_eq :
    chain configuration ingress =
      ⟨Specification.leadingReferences configuration ingress ++
          (Attempt.firstOfEachSuffix (Specification.attempts ingress)).map fun attempt =>
            (owner configuration ingress).reference
              ((owner configuration ingress).middlewareName attempt.suffix),
        (Attempt.firstOfEachSuffix (Specification.attempts ingress)).map
          (owner configuration ingress).middleware⟩ := by
  have references := references_chain configuration ingress
  have middlewares := middlewares_chain configuration ingress
  cases complete : chain configuration ingress with
  | mk allReferences allMiddlewares =>
      rw [complete] at references middlewares
      exact congrArg₂ Chain.mk references middlewares

theorem names_nodup_chain :
    ((chain configuration ingress).middlewares.map Middleware.name).Nodup :=
  Chain.names_nodup_run _ _

variable {configuration ingress} in
/-- The middlewares of a conversion are those of attempts of its Ingress. -/
theorem exists_attempt_of_converted {conversion : Conversion}
    (converted : (convert configuration ingress).value = .ok conversion)
    {middleware : Middleware} (member : middleware ∈ conversion.middlewares) :
    ∃ attempt ∈ Specification.attempts ingress,
      middleware = (owner configuration ingress).middleware attempt := by
  rcases convert_eq_ok_iff.1 converted with ⟨-, -, rfl⟩ | ⟨-, rfl⟩
  · have stored := (Chain.sortedMiddlewares_perm _).mem_iff.1 member
    rw [middlewares_chain] at stored
    obtain ⟨attempt, isFirst, rfl⟩ := List.mem_map.1 stored
    exact ⟨attempt, Attempt.mem_of_mem_firstOfEachSuffix isFirst, rfl⟩
  · cases member

variable {configuration ingress} in
theorem names_nodup_of_converted {conversion : Conversion}
    (converted : (convert configuration ingress).value = .ok conversion) :
    (conversion.middlewares.map Middleware.name).Nodup := by
  rcases convert_eq_ok_iff.1 converted with ⟨-, -, rfl⟩ | ⟨-, rfl⟩
  · have sorted := (Chain.sortedMiddlewares_perm (chain configuration ingress)).map Middleware.name
    exact sorted.nodup_iff.2 (names_nodup_chain configuration ingress)
  · exact List.nodup_nil

/-- A middleware that belongs to an Ingress by its namespace and the start of its name. -/
def IsOwned (middleware : Middleware) : Prop :=
  ∃ suffix,
    middleware.metadata.name = some (name ingress ++ "-" ++ suffix) ∧
    middleware.metadata.namespaceName = some (namespaceName configuration ingress)

/-- A conversion makes no middlewares but those of its Ingress. -/
theorem isOwned_of_converted {conversion : Conversion}
    (converted : (convert configuration ingress).value = .ok conversion) :
    ∀ middleware ∈ conversion.middlewares, IsOwned configuration ingress middleware := by
  intro middleware member
  obtain ⟨attempt, -, rfl⟩ := exists_attempt_of_converted converted member
  exact ⟨attempt.suffix, rfl, rfl⟩

/-- An Ingress with a white list and a path that is stripped. -/
def guardedIngress : Ingress where
  metadata :=
    { name := some "shop"
      annotations := some (TextMap.ofList [
        (Key.ingressClass, "traefik"),
        (Key.ruleType, "PathPrefixStrip"),
        (Key.whitelistSourceRange, "10.0.0.0/8, 192.168.0.0/16")]) }
  spec := some
    { defaultBackend := none
      ingressClassName := none
      rules := some [⟨some "shop.example", some [⟨.unset, some "/cart", ""⟩]⟩]
      tls := none }
  status := none

theorem handled_guarded : Specification.IsHandled .default guardedIngress :=
  (Specification.foreignClass?_eq_none_iff _ _).1 (by decide +kernel)

theorem converted_guarded :
    (convert .default guardedIngress).value =
      .ok (ofChain guardedIngress (chain .default guardedIngress)) := by
  have faultless : fault? guardedIngress = none := by decide +kernel
  rw [convert_value, if_pos ((Specification.foreignClass?_eq_none_iff _ _).2 handled_guarded),
    faultless]

end TraefikUpgrade.Conversion
