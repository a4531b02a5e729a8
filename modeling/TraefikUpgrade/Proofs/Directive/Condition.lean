import TraefikUpgrade.Directive.Basic
import TraefikUpgrade.Directive.Headers
import TraefikUpgrade.Proofs.Text.Blank
import TraefikUpgrade.Proofs.Text.Segment

/-!
Contract: when a directive makes a middleware, and which one.

Owns: the value of each directive in terms of the texts of its annotations,
where a missing annotation counts as an empty one.

Does not own: the order of the directives
(`TraefikUpgrade.Proofs.Conversion.Specification`).
-/

set_option autoImplicit false

namespace TraefikUpgrade

namespace Annotations

/-- The text of an annotation, empty when it is missing. -/
def text (annotations : Annotations) (key : String) : String :=
  annotations.string key ""

theorem text_eq (annotations : Annotations) (key : String) :
    annotations.text key = ((annotations.map.bind fun map => map.get? key).getD "") := by
  unfold text string value?
  cases annotations.map.bind fun map => map.get? key with
  | none => rfl
  | some value =>
      by_cases empty : value = ""
      · simp [Option.filter, empty]
      · simp [Option.filter, empty]

/-- An annotation has a value exactly when its text is not empty, and then it is the text. -/
theorem value?_eq (annotations : Annotations) (key : String) :
    annotations.value? key =
      if annotations.text key = "" then none else some (annotations.text key) := by
  rw [text_eq]
  unfold value?
  cases annotations.map.bind fun map => map.get? key with
  | none => rfl
  | some value =>
      by_cases empty : value = ""
      · simp [empty]
      · simp [Option.filter, empty]

/-- What is read only where something is written is read from the text. -/
theorem value?_bind {Target : Type} {read : String → Option Target} (ofEmpty : read "" = none)
    (annotations : Annotations) (key : String) :
    (annotations.value? key).bind read = read (annotations.text key) := by
  rw [value?_eq]
  by_cases empty : annotations.text key = ""
  · rw [if_pos empty, empty, ofEmpty]
    rfl
  · rw [if_neg empty]
    rfl

theorem contains_eq (annotations : Annotations) (key : String) :
    annotations.contains key = decide (annotations.text key ≠ "") := by
  unfold contains
  rw [value?_eq]
  by_cases empty : annotations.text key = ""
  · simp [empty]
  · simp [empty]

theorem getD_flag?_iff (text : String) :
    (flag? text).getD false = true ↔ text ∈ ["1", "t", "T", "TRUE", "true", "True"] := by
  unfold flag?
  rw [← List.contains_iff_mem]
  split
  · rename_i isTrue
    exact iff_of_true rfl isTrue
  · rename_i notTrue
    refine iff_of_false ?_ notTrue
    split <;> exact Bool.noConfusion

/-- A flag is set by the spellings of true alone when it is not set otherwise. -/
theorem flag_eq_true_iff {annotations : Annotations} {key : String} :
    annotations.flag key false = true ↔
      annotations.text key ∈ ["1", "t", "T", "TRUE", "true", "True"] := by
  rw [flag, value?_bind (by decide), getD_flag?_iff]

theorem listEntries_eq_nil_iff (text : String) :
    listEntries text = [] ↔
      ∀ entry ∈ text.toList.splitOn ',', ∀ character ∈ entry, Text.isBlank character := by
  unfold listEntries
  rw [List.map_eq_nil_iff, List.filter_eq_nil_iff, List.forall_mem_map, Text.fields_eq_splitOn]
  refine forall₂_congr fun entry _ => ?_
  rw [← Text.trim_eq_nil_iff]
  simp

end Annotations

namespace Directive

open Annotation

variable (annotations : Annotations) (resource : String)

theorem basicAuth_value :
    (basicAuth annotations resource).value =
      if (annotations.text Key.authType).toList.map Char.toLower = "basic".toList ∧
          annotations.text Key.authSecret ≠ "" then
        some (.basicAuth
          { secret := annotations.text Key.authSecret
            removeHeader := annotations.flag Key.authRemoveHeader false
            headerField := annotations.value? Key.authHeaderField })
      else none := by
  unfold basicAuth
  rw [Annotations.value?_eq annotations Key.authType, Annotations.value?_eq annotations Key.authSecret]
  by_cases noType : annotations.text Key.authType = ""
  · simp [noType]
  · by_cases isBasic : (annotations.text Key.authType).toList.map Char.toLower = "basic".toList
    · by_cases noSecret : annotations.text Key.authSecret = ""
      · simp [noType, noSecret, isBasic]
      · simp [noType, noSecret, isBasic]
    · simp only [noType, isBasic, if_false, false_and]

theorem redirect_value :
    (redirect annotations resource).value =
      if annotations.text Key.redirectRegex ≠ "" ∧ annotations.text Key.redirectReplacement ≠ "" then
        some (.redirectRegex
          ⟨annotations.text Key.redirectRegex, annotations.text Key.redirectReplacement,
            annotations.flag Key.redirectPermanent false⟩)
      else none := by
  unfold redirect
  rw [Annotations.value?_eq annotations Key.redirectRegex,
    Annotations.value?_eq annotations Key.redirectReplacement]
  by_cases noRegex : annotations.text Key.redirectRegex = ""
  · by_cases noReplacement : annotations.text Key.redirectReplacement = ""
    · simp [noRegex, noReplacement]
    · simp [noRegex, noReplacement]
  · by_cases noReplacement : annotations.text Key.redirectReplacement = ""
    · simp [noRegex, noReplacement]
    · simp [noRegex, noReplacement]

theorem ipWhiteList_eq :
    ipWhiteList annotations =
      if Annotations.listEntries (annotations.text Key.whitelistSourceRange) ≠ [] then
        some (.ipWhiteList
          { sourceRange := Annotations.listEntries (annotations.text Key.whitelistSourceRange)
            ipStrategy :=
              if annotations.flag Key.whitelistXForwardedFor false then some ⟨some 1, none⟩
              else none })
      else none := by
  unfold ipWhiteList Annotations.list?
  rw [Annotations.value?_eq annotations Key.whitelistSourceRange]
  by_cases noRange : annotations.text Key.whitelistSourceRange = ""
  · have noEntries : Annotations.listEntries "" = [] := by decide
    simp [noRange, noEntries]
  · by_cases noEntries :
        Annotations.listEntries (annotations.text Key.whitelistSourceRange) = []
    · simp [noRange, noEntries]
    · simp [noRange, noEntries]

/-- The redirect to the root of the application is the same for both spellings of the root of a
host, and for no other path is there one. -/
theorem appRoot_eq (host path : String) :
    appRoot annotations host path =
      if annotations.text Key.appRoot ≠ "" ∧ (path = "" ∨ path = "/") then
        some (.redirectRegex
          { regex := host ++ "/$"
            replacement := withoutTrailingSlashes host ++ "/" ++
              withoutLeadingSlashes (annotations.text Key.appRoot)
            permanent := annotations.flag Key.redirectPermanent false })
      else none := by
  have slashDropped :
      withoutTrailingSlashes (host ++ "/") = withoutTrailingSlashes host := by
    unfold withoutTrailingSlashes
    rw [String.toList_append]
    exact congrArg String.ofList (List.rdropWhile_concat_pos isSlash host.toList '/' (by decide))
  unfold appRoot
  rw [Annotations.value?_eq annotations Key.appRoot]
  by_cases noRoot : annotations.text Key.appRoot = ""
  · simp [noRoot]
  · by_cases emptyPath : path = ""
    · simp [noRoot, emptyPath]
    · by_cases rootPath : path = "/"
      · have regex : host ++ "/" ++ "$" = host ++ "/$" := by
          rw [String.append_assoc]
          rfl
        simp [noRoot, rootPath, slashDropped, regex]
      · simp [noRoot, emptyPath, rootPath]

/-! ### Headers -/

/-- The annotations that are header maps. -/
@[simp] def headerMapKeys : List String :=
  [Key.customRequestHeaders, Key.customResponseHeaders, Key.sslProxyHeaders]

/-- The header annotations that are lists. -/
@[simp] def headerListKeys : List String :=
  [Key.allowedHosts, Key.proxyHeaders]

/-- The header annotations that are flags. -/
@[simp] def headerFlagKeys : List String :=
  [Key.sslTemporaryRedirect, Key.sslForceHost, Key.hstsIncludeSubdomains, Key.hstsPreload,
    Key.forceHsts, Key.frameDeny, Key.contentTypeNosniff, Key.browserXssFilter, Key.isDevelopment]

/-- The header annotations that are taken as they are. -/
@[simp] def headerTextKeys : List String :=
  [Key.sslHost, Key.customFrameOptionsValue, Key.customBrowserXssValue, Key.contentSecurityPolicy,
    Key.publicKey, Key.referrerPolicy]

/-- Some header annotation yields a value: a map or list with something in it, a true flag, a text
that is not empty, or a positive age. -/
def YieldsHeader (annotations : Annotations) : Prop :=
  (∃ key ∈ headerMapKeys, (annotations.headerMap key).value ≠ none) ∨
    (∃ key ∈ headerListKeys, annotations.list? key ≠ none) ∨
    (∃ key ∈ headerFlagKeys, annotations.flag key false = true) ∨
    (∃ key ∈ headerTextKeys, annotations.text key ≠ "") ∨
    0 < annotations.integer Key.hstsMaxAge 0

theorem headerSettings_eq_unset_iff :
    (headerSettings annotations).value = Headers.unset ↔ ¬YieldsHeader annotations := by
  have textUnset (key : String) : annotations.value? key = none ↔ annotations.text key = "" := by
    rw [Annotations.value?_eq]
    simp
  have flagUnset (key : String) :
      trueOrUnset annotations key = none ↔ annotations.flag key false = false := by
    simp [trueOrUnset]
  have secondsUnset : seconds? annotations Key.hstsMaxAge = none ↔
      annotations.integer Key.hstsMaxAge 0 ≤ 0 := by
    simp [seconds?, Option.filter]
  simp only [headerSettings, Logged.value_bind, Logged.value_pure, Headers.unset, Headers.mk.injEq,
    textUnset, flagUnset, secondsUnset]
  simp only [YieldsHeader, headerMapKeys, headerListKeys, headerFlagKeys, headerTextKeys,
    List.mem_cons, List.not_mem_nil, or_false, not_or, not_exists, not_and, forall_eq_or_imp,
    forall_eq, ne_eq, not_not, Bool.not_eq_true, Int.not_lt]
  grind

instance : Decidable (YieldsHeader annotations) :=
  decidable_of_iff ((headerSettings annotations).value ≠ Headers.unset)
    (not_congr (headerSettings_eq_unset_iff annotations) |>.trans not_not)

theorem headers_value :
    (headers annotations).value =
      if YieldsHeader annotations then some (.headers (headerSettings annotations).value)
      else none := by
  unfold headers
  rw [Logged.value_bind, Logged.value_pure]
  by_cases yields : YieldsHeader annotations
  · rw [if_pos yields, if_neg fun unset => (headerSettings_eq_unset_iff annotations).1 unset yields]
  · rw [if_neg yields, if_pos ((headerSettings_eq_unset_iff annotations).2 yields)]

end Directive

end TraefikUpgrade
