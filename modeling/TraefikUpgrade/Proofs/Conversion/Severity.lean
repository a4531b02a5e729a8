import TraefikUpgrade.Conversion.Convert

/-!
Contract: the conversion of an Ingress reports no errors.

Owns: computations whose records are all milder than errors, and that the
directives, the attempts, the chain and the conversion are among them. An
Ingress that cannot be converted is reported by those who keep its document.

Does not own: the texts of the records.
-/

set_option autoImplicit false

namespace TraefikUpgrade

namespace Logged

variable {α β : Type}

/-- No record of the computation is an error. -/
def IsMild (computation : Logged α) : Prop :=
  ∀ record ∈ computation.records, record.level ≠ .error

theorem isMild_pure (value : α) : (pure value : Logged α).IsMild :=
  nofun

theorem isMild_singleton (value : α) {record : LogRecord} (mild : record.level ≠ .error) :
    IsMild ⟨value, [record]⟩ := by
  intro other member
  rw [List.mem_singleton.1 member]
  exact mild

theorem IsMild.bind {first : Logged α} {next : α → Logged β} (firstMild : first.IsMild)
    (nextMild : ∀ value, (next value).IsMild) : (first >>= next).IsMild := by
  intro record member
  rw [records_bind, List.mem_append] at member
  rcases member with ofFirst | ofNext
  · exact firstMild record ofFirst
  · exact nextMild first.value record ofNext

end Logged

open Logged

/-! ### Directives -/

theorem Annotation.isMild_headerMap (key text : String) : (headerMap key text).IsMild := by
  intro record member
  change record ∈ headerMapWarnings key text at member
  unfold headerMapWarnings at member
  rcases List.mem_append.1 member with ofEntry | ofMap
  · obtain ⟨entry, -, rfl⟩ := List.mem_map.1 ofEntry
    exact nofun
  · split at ofMap
    · rw [List.mem_singleton.1 ofMap]
      exact nofun
    · cases ofMap

theorem Annotations.isMild_headerMap (annotations : Annotations) (key : String) :
    (annotations.headerMap key).IsMild := by
  unfold headerMap
  split
  · exact isMild_pure _
  · exact Annotation.isMild_headerMap key _

namespace Directive

variable (annotations : Annotations) (resource : String)

theorem isMild_basicAuth : (basicAuth annotations resource).IsMild := by
  unfold basicAuth
  split
  · exact isMild_pure _
  · split
    · split
      · exact isMild_singleton _ nofun
      · exact isMild_pure _
    · exact isMild_singleton _ nofun

theorem isMild_redirect : (redirect annotations resource).IsMild := by
  unfold redirect
  split
  · exact isMild_pure _
  · exact isMild_pure _
  · exact isMild_singleton _ nofun

theorem isMild_headers : (headers annotations).IsMild := by
  have settingsMild : (headerSettings annotations).IsMild :=
    (annotations.isMild_headerMap _).bind fun _ =>
      (annotations.isMild_headerMap _).bind fun _ =>
        (annotations.isMild_headerMap _).bind fun _ => isMild_pure _
  exact settingsMild.bind fun _ => isMild_pure _

end Directive

/-! ### Attempts and the chain -/

namespace Attempt

variable (annotations : Annotations) (resource : String)

theorem isMild_requestModifier : (requestModifier annotations resource).IsMild := by
  unfold requestModifier
  split
  · exact isMild_pure _
  · split
    · exact isMild_pure _
    · exact isMild_singleton _ nofun

theorem isMild_redirect : (redirect annotations resource).IsMild := by
  unfold redirect
  split
  · exact isMild_pure _
  · exact Directive.isMild_redirect annotations resource

theorem isMild_ofAnnotations : (ofAnnotations annotations resource).IsMild :=
  (Directive.isMild_basicAuth annotations resource).bind fun _ =>
    (Directive.isMild_headers annotations).bind fun _ =>
      (isMild_requestModifier annotations resource).bind fun _ =>
        (isMild_redirect annotations resource).bind fun _ => isMild_pure _

end Attempt

theorem RuleType.isMild_ofAnnotations (annotations : Annotations) :
    (ofAnnotations annotations).IsMild := by
  unfold ofAnnotations
  split
  · exact isMild_pure _
  · split
    · exact isMild_pure _
    · intro record member
      dsimp only at member
      split at member
      · rw [List.mem_singleton.1 member]
        exact nofun
      · cases member

theorem Chain.isMild_push (owner : ChainOwner) (chain : Chain) (attempt : Attempt) :
    (push owner chain attempt).IsMild := by
  unfold push
  dsimp only
  split
  · exact isMild_singleton _ nofun
  · exact isMild_pure _

theorem Chain.isMild_pushAll (owner : ChainOwner) (chain : Chain) (attempts : List Attempt) :
    (pushAll owner chain attempts).IsMild := by
  induction attempts generalizing chain with
  | nil => exact isMild_pure _
  | cons attempt rest inductionHypothesis =>
      exact (isMild_push owner chain attempt).bind inductionHypothesis

/-! ### The conversion -/

namespace Conversion

variable (configuration : Configuration) (ingress : Kubernetes.Ingress)

theorem isMild_unsupportedWarnings (annotations : Annotations) (resource : String) :
    IsMild ⟨(), unsupportedWarnings annotations resource⟩ := by
  intro record member
  obtain ⟨entry, -, rfl⟩ := List.mem_map.1 member
  exact nofun

theorem isMild_convertHandled : (convertHandled configuration ingress).IsMild := by
  unfold convertHandled
  refine (isMild_unsupportedWarnings _ _).bind fun _ => ?_
  refine (Attempt.isMild_ofAnnotations _ _).bind fun general => ?_
  refine (RuleType.isMild_ofAnnotations _).bind fun resolved => ?_
  cases resolved with
  | error error => exact isMild_pure _
  | ok ruleType =>
      refine (Chain.isMild_pushAll _ _ _).bind fun chain => ?_
      split
      · exact isMild_pure _
      · exact isMild_pure _

/-- Whatever becomes of an Ingress, its conversion reports no error. -/
theorem isMild_convert : (convert configuration ingress).IsMild := by
  unfold convert
  split
  · exact isMild_singleton _ nofun
  · exact isMild_convertHandled configuration ingress

end Conversion

end TraefikUpgrade
