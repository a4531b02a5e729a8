import TraefikUpgrade.Proofs.Conversion.Failure
import TraefikUpgrade.Proofs.Conversion.Severity
import TraefikUpgrade.Proofs.Manifest.Block
import TraefikUpgrade.Proofs.Manifest.Document

/-!
Contract: what an Ingress that cannot be converted does to a manifest.

Owns: the report of a failed conversion, and its confinement: the document
stays as it is, nothing is made of the attempts before the failure, and every
other document of the manifest or of the list becomes what it becomes anyway.

Does not own: when a conversion fails (`TraefikUpgrade.Proofs.Conversion.Failure`).
-/

set_option autoImplicit false

namespace TraefikUpgrade.Manifest

open Kubernetes (Ingress)

/-- The record about an Ingress that is not converted because of an error. -/
def failureReport (configuration : Configuration) (ingress : Ingress)
    (error : ConversionError) : LogRecord :=
  ⟨.error, s!"{Conversion.resource configuration ingress}: {error.message}. The Ingress is kept unconverted"⟩

/-! ### The document of a failed conversion -/

section Document

variable {configuration : Configuration} {ingress : Ingress} {error : ConversionError}
  {document : String}

theorem convertDocument_of_ingress (isIngress : (Resource.ofText document).ingress? = some ingress) :
    convertDocument configuration document = convertIngress configuration document ingress := by
  unfold convertDocument
  cases resource : Resource.ofText document with
  | unreadable reason => simp [resource, Resource.ingress?] at isIngress
  | other type => simp [resource, Resource.ingress?] at isIngress
  | legacyIngress legacy =>
      rw [resource] at isIngress
      cases isIngress
      rfl
  | ingress current =>
      rw [resource] at isIngress
      cases isIngress
      rfl

theorem convertIngress_of_error
    (failed : (Conversion.convert configuration ingress).value = .error error) :
    convertIngress configuration document ingress =
      ⟨[document],
        (Conversion.convert configuration ingress).records ++
          [failureReport configuration ingress error]⟩ := by
  have steps : convertIngress configuration document ingress =
      ⟨[document], (Conversion.convert configuration ingress).records ++
        ([failureReport configuration ingress error] ++ [])⟩ := by
    unfold convertIngress
    change Logged.bind _ _ = _
    unfold Logged.bind
    rw [failed]
    rfl
  rw [steps, List.append_nil]

theorem convertFragment_of_ingress
    (isIngress : (Resource.ofText document).ingress? = some ingress) :
    convertFragment configuration document = convertDocument configuration document := by
  have whole : ResourceList.extract document = pure [document] := by
    unfold ResourceList.extract
    rw [ResourceList.parts?_eq_none_of_ingress? isIngress]
  unfold convertFragment
  rw [whole, pure_bind, convertEach, convertEach]
  simp

end Document

/-! ### The other documents -/

theorem AreEndedButLast.remove {before after : List String} {document : String}
    (ended : AreEndedButLast (before ++ document :: after)) : AreEndedButLast (before ++ after) := by
  unfold AreEndedButLast at ended
  rw [List.dropLast_append_of_ne_nil (List.cons_ne_nil document after)] at ended
  have beforeEnded : ∀ other ∈ before, IsEnded other :=
    fun other member => ended other (List.mem_append_left _ member)
  have afterEnded : AreEndedButLast (document :: after) :=
    fun other member => ended other (List.mem_append_right _ member)
  exact AreEndedButLast.append beforeEnded afterEnded.tail

/-- The documents of a text without one of them are the documents of a text. -/
theorem split_join_remove {content document : String} {before after : List String}
    (cut : split content = before ++ document :: after) :
    split (join (before ++ after)) = before ++ after := by
  refine split_join ?_ ?_
  · intro other member
    refine @isDocument_of_mem_split content other ?_
    rw [cut]
    rcases List.mem_append.1 member with ofBefore | ofAfter
    · exact List.mem_append_left _ ofBefore
    · exact List.mem_append_right _ (List.mem_cons_of_mem _ ofAfter)
  · have ended := areEndedButLast_split content
    rw [cut] at ended
    exact ended.remove

/-- What documents become, one after the other. -/
def outputs (convert : String → Logged (List String)) (documents : List String) : List String :=
  documents.flatMap fun document => (convert document).value

/-- The failure of a document stays within the document. -/
structure IsConfined (configuration : Configuration) (document : String) (report : LogRecord) :
    Prop where
  /-- The document becomes itself, and no middleware is made. -/
  kept : (convertDocument configuration document).value = [document]
  reported : (convertDocument configuration document).records.filter
    (fun record => record.level = .error) = [report]
  /-- The document is not taken apart. -/
  whole : convertFragment configuration document = convertDocument configuration document
  /-- In a manifest, the other documents become what they become in any manifest of these
  documents alone, of which there is one. -/
  amongDocuments : ∀ content before after, split content = before ++ document :: after →
    (convertedDocuments configuration content).value =
        outputs (convertFragment configuration) before ++
          document :: outputs (convertFragment configuration) after ∧
      split (join (before ++ after)) = before ++ after ∧
      ∀ without, split without = before ++ after →
        (convertedDocuments configuration without).value =
          outputs (convertFragment configuration) before ++
            outputs (convertFragment configuration) after
  /-- Among the documents that a list becomes, the others become what they become alone. -/
  amongItems : ∀ list before after,
    (ResourceList.extract list).value = before ++ document :: after →
      (convertFragment configuration list).value =
        outputs (convertDocument configuration) before ++
          document :: outputs (convertDocument configuration) after

theorem outputs_around {convert : String → Logged (List String)} {document : String}
    (kept : (convert document).value = [document]) (before after : List String) :
    outputs convert (before ++ document :: after) =
      outputs convert before ++ document :: outputs convert after := by
  unfold outputs
  rw [List.flatMap_append, List.flatMap_cons, kept, List.singleton_append]

theorem isConfined_of_failed {configuration : Configuration} {ingress : Ingress}
    {error : ConversionError} {document : String}
    (failed : (Conversion.convert configuration ingress).value = .error error)
    (isIngress : (Resource.ofText document).ingress? = some ingress) :
    IsConfined configuration document (failureReport configuration ingress error) := by
  have result : convertDocument configuration document =
      ⟨[document], (Conversion.convert configuration ingress).records ++
        [failureReport configuration ingress error]⟩ := by
    rw [convertDocument_of_ingress isIngress, convertIngress_of_error failed]
  have kept : (convertDocument configuration document).value = [document] := by
    rw [result]
  have whole : convertFragment configuration document = convertDocument configuration document :=
    convertFragment_of_ingress isIngress
  have fragmentKept : (convertFragment configuration document).value = [document] := by
    rw [whole, kept]
  have documentsEq (content : String) : (convertedDocuments configuration content).value =
      outputs (convertFragment configuration) (split content) :=
    convertEach_value (convertFragment configuration) (split content)
  refine { kept, whole, reported := ?_, amongDocuments := ?_, amongItems := ?_ }
  · -- the conversion itself reports no error, so the failure is the only one
    have noneBefore : (Conversion.convert configuration ingress).records.filter
        (fun record => record.level = .error) = [] := by
      rw [List.filter_eq_nil_iff]
      intro record member
      simpa using Conversion.isMild_convert configuration ingress record member
    rw [result, List.filter_append, noneBefore]
    rfl
  · intro content before after cut
    refine ⟨?_, split_join_remove cut, ?_⟩
    · rw [documentsEq, cut, outputs_around fragmentKept]
    · intro without cutWithout
      rw [documentsEq, cutWithout]
      exact List.flatMap_append
  · intro list before after taken
    unfold convertFragment
    rw [Logged.value_bind, convertEach_value, taken]
    exact outputs_around kept before after

/-- The conversion of an Ingress fails exactly when its class is handled and it has a fault, and
the error names the fault. The failure of its document is reported once, as an error, and stays
within the document. -/
theorem failures_are_exact_and_confined (configuration : Configuration) (ingress : Ingress) :
    (∀ error, (Conversion.convert configuration ingress).value = .error error ↔
      Conversion.Specification.IsHandled configuration ingress ∧
        Conversion.IsFault ingress error) ∧
      ∀ error document, (Conversion.convert configuration ingress).value = .error error →
        (Resource.ofText document).ingress? = some ingress →
          IsConfined configuration document (failureReport configuration ingress error) :=
  ⟨fun _ => Conversion.convert_eq_error_iff configuration ingress,
    fun _ _ failed isIngress => isConfined_of_failed failed isIngress⟩

/-- An Ingress whose rule type replaces a path that is to be rewritten. -/
def contradictoryIngress : String :=
  "apiVersion: networking.k8s.io/v1\nkind: Ingress\nmetadata:\n  annotations:\n    traefik.ingress.kubernetes.io/rule-type: ReplacePath\n    ingress.kubernetes.io/rewrite-target: /\nspec:\n  rules:\n  - http:\n      paths:\n      - path: /a\n"

set_option maxRecDepth 2000 in
theorem convert_contradictoryIngress :
    ∃ ingress,
      (Resource.ofText contradictoryIngress).ingress? = some ingress ∧
      (Conversion.convert .default ingress).value = .error .rewriteTargetWithReplacePath := by
  have spelled : contradictoryIngress = String.ofList _ := rfl
  obtain ⟨ingress, -, isIngress, failed⟩ := exists_ingress_of_spelled
    (fun ingress => (Conversion.convert .default ingress).value)
    (.error .rewriteTargetWithReplacePath) spelled (by decide +kernel)
  exact ⟨ingress, isIngress, failed⟩

theorem failures_are_exact_and_confined_contradictoryIngress :
    ∃ ingress,
      (Resource.ofText contradictoryIngress).ingress? = some ingress ∧
      Conversion.IsFault ingress .rewriteTargetWithReplacePath ∧
      IsConfined .default contradictoryIngress
        (failureReport .default ingress .rewriteTargetWithReplacePath) := by
  obtain ⟨ingress, isIngress, failed⟩ := convert_contradictoryIngress
  obtain ⟨failsIff, confines⟩ := failures_are_exact_and_confined .default ingress
  exact ⟨ingress, isIngress, ((failsIff _).1 failed).2, confines _ _ failed isIngress⟩

end TraefikUpgrade.Manifest
