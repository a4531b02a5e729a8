import Mathlib.Algebra.Group.Int.Defs
import TraefikUpgrade.Proofs.Annotation.CommaList
import TraefikUpgrade.Proofs.Annotation.HeaderMap
import TraefikUpgrade.Proofs.Decimal.Integer
import TraefikUpgrade.Proofs.Directive.Condition

/-!
Contract: what each header annotation sets.

Owns: the settings of the headers middleware, the annotation of each, what the
text of an annotation yields when it is read as a map, a list, a flag, a text or
an age, and the agreement of the middleware with it: a setting has the value that
its own annotation yields, and no other annotation has a part in it.

Does not own: the laws of header maps and comma lists
(`TraefikUpgrade.Proofs.Annotation`).
-/

set_option autoImplicit false

namespace TraefikUpgrade

/-! ### Settings -/

/-- The fields of the headers middleware. -/
inductive HeaderSetting where
  | customRequestHeaders
  | customResponseHeaders
  | allowedHosts
  | hostsProxyHeaders
  | sslTemporaryRedirect
  | sslHost
  | sslProxyHeaders
  | sslForceHost
  | stsSeconds
  | stsIncludeSubdomains
  | stsPreload
  | forceStsHeader
  | frameDeny
  | customFrameOptionsValue
  | contentTypeNosniff
  | browserXssFilter
  | customBrowserXssValue
  | contentSecurityPolicy
  | publicKey
  | referrerPolicy
  | isDevelopment
deriving DecidableEq, Repr

/-- How the text of an annotation is understood. -/
inductive SettingReading where
  | map
  | list
  | flag
  | text
  | age
deriving DecidableEq, Repr

inductive SettingValue where
  | map (headers : TextMap)
  | list (entries : List String)
  | flag (isSet : Bool)
  | text (content : String)
  | age (seconds : Int)
deriving DecidableEq, Repr

/-- A value that is as good as none. -/
def SettingValue.IsVacant : SettingValue → Prop
  | .map headers => headers.toList = []
  | .list entries => entries = []
  | .flag isSet => isSet = false
  | .text content => content = ""
  | .age seconds => seconds ≤ 0

namespace HeaderSetting

open Annotation

/-- The annotation that a setting comes from. -/
def key : HeaderSetting → String
  | customRequestHeaders => Key.customRequestHeaders
  | customResponseHeaders => Key.customResponseHeaders
  | allowedHosts => Key.allowedHosts
  | hostsProxyHeaders => Key.proxyHeaders
  | sslTemporaryRedirect => Key.sslTemporaryRedirect
  | sslHost => Key.sslHost
  | sslProxyHeaders => Key.sslProxyHeaders
  | sslForceHost => Key.sslForceHost
  | stsSeconds => Key.hstsMaxAge
  | stsIncludeSubdomains => Key.hstsIncludeSubdomains
  | stsPreload => Key.hstsPreload
  | forceStsHeader => Key.forceHsts
  | frameDeny => Key.frameDeny
  | customFrameOptionsValue => Key.customFrameOptionsValue
  | contentTypeNosniff => Key.contentTypeNosniff
  | browserXssFilter => Key.browserXssFilter
  | customBrowserXssValue => Key.customBrowserXssValue
  | contentSecurityPolicy => Key.contentSecurityPolicy
  | publicKey => Key.publicKey
  | referrerPolicy => Key.referrerPolicy
  | isDevelopment => Key.isDevelopment

def reading : HeaderSetting → SettingReading
  | customRequestHeaders | customResponseHeaders | sslProxyHeaders => .map
  | allowedHosts | hostsProxyHeaders => .list
  | sslTemporaryRedirect | sslForceHost | stsIncludeSubdomains | stsPreload | forceStsHeader
  | frameDeny | contentTypeNosniff | browserXssFilter | isDevelopment => .flag
  | sslHost | customFrameOptionsValue | customBrowserXssValue | contentSecurityPolicy
  | publicKey | referrerPolicy => .text
  | stsSeconds => .age

/-- All settings, in the order in which they are written. -/
def all : List HeaderSetting :=
  [customRequestHeaders, customResponseHeaders, allowedHosts, hostsProxyHeaders,
    sslTemporaryRedirect, sslHost, sslProxyHeaders, sslForceHost, stsSeconds,
    stsIncludeSubdomains, stsPreload, forceStsHeader, frameDeny, customFrameOptionsValue,
    contentTypeNosniff, browserXssFilter, customBrowserXssValue, contentSecurityPolicy, publicKey,
    referrerPolicy, isDevelopment]

theorem mem_all (setting : HeaderSetting) : setting ∈ all := by
  cases setting <;> decide

/-- No two settings come from one annotation. -/
theorem key_injective : Function.Injective key := by
  have distinct : (all.map key).Nodup := by decide +kernel
  intro first second sameKey
  exact List.inj_on_of_nodup_map distinct (mem_all first) (mem_all second) sameKey

end HeaderSetting

/-- The value of a setting, if it is set. -/
def Headers.value? (headers : Headers) : HeaderSetting → Option SettingValue
  | .customRequestHeaders => headers.customRequestHeaders.map .map
  | .customResponseHeaders => headers.customResponseHeaders.map .map
  | .allowedHosts => headers.allowedHosts.map .list
  | .hostsProxyHeaders => headers.hostsProxyHeaders.map .list
  | .sslTemporaryRedirect => headers.sslTemporaryRedirect.map .flag
  | .sslHost => headers.sslHost.map .text
  | .sslProxyHeaders => headers.sslProxyHeaders.map .map
  | .sslForceHost => headers.sslForceHost.map .flag
  | .stsSeconds => headers.stsSeconds.map .age
  | .stsIncludeSubdomains => headers.stsIncludeSubdomains.map .flag
  | .stsPreload => headers.stsPreload.map .flag
  | .forceStsHeader => headers.forceStsHeader.map .flag
  | .frameDeny => headers.frameDeny.map .flag
  | .customFrameOptionsValue => headers.customFrameOptionsValue.map .text
  | .contentTypeNosniff => headers.contentTypeNosniff.map .flag
  | .browserXssFilter => headers.browserXssFilter.map .flag
  | .customBrowserXssValue => headers.customBrowserXssValue.map .text
  | .contentSecurityPolicy => headers.contentSecurityPolicy.map .text
  | .publicKey => headers.publicKey.map .text
  | .referrerPolicy => headers.referrerPolicy.map .text
  | .isDevelopment => headers.isDevelopment.map .flag

theorem Headers.eq_unset_iff {headers : Headers} :
    headers = Headers.unset ↔ ∀ setting, headers.value? setting = none := by
  have overAll : (∀ setting, headers.value? setting = none) ↔
      ∀ setting ∈ HeaderSetting.all, headers.value? setting = none :=
    ⟨fun noneSet setting _ => noneSet setting,
      fun noneSet setting => noneSet setting setting.mem_all⟩
  rw [overAll]
  cases headers
  simp [HeaderSetting.all, Headers.value?, Headers.unset]

/-! ### What the text of an annotation yields -/

/-- A map in which each name has the value of its last well-formed entry in a text. -/
def HoldsHeaders (text : String) (headers : TextMap) : Prop :=
  ∃ entries, Annotation.AreEntries text entries ∧ ∀ name value,
    headers.get? name = some value ↔
      ∃ earlier entry later, entries = earlier ++ entry :: later ∧
        Annotation.IsHeader entry name value ∧
        ∀ other ∈ later, ∀ shadowed, ¬ Annotation.IsHeader other name shadowed

/-- The values that a text stands for in each way of reading it. -/
inductive SettingReading.Yields : SettingReading → String → SettingValue → Prop where
  | map {text : String} {headers : TextMap} (holds : HoldsHeaders text headers)
      (present : headers.toList ≠ []) : Yields .map text (.map headers)
  | list {text : String} {entries : List String}
      (lists : Annotations.ListsEntries text entries) (present : entries ≠ []) :
      Yields .list text (.list entries)
  | flag {text : String} (spelled : text ∈ ["1", "t", "T", "TRUE", "true", "True"]) :
      Yields .flag text (.flag true)
  | text {text : String} (present : text ≠ "") : Yields .text text (.text text)
  | age {text : String} {seconds : Int}
      (written : Decimal.IsInteger (Text.trim text.toList) seconds) (positive : 1 ≤ seconds)
      (bounded : seconds ≤ 2 ^ 63 - 1) : Yields .age text (.age seconds)

/-- Nothing that is as good as none is yielded. -/
theorem SettingReading.Yields.not_isVacant {reading : SettingReading} {text : String}
    {value : SettingValue} (yields : reading.Yields text value) : ¬value.IsVacant := by
  cases yields with
  | map holds present => exact present
  | list lists present => exact present
  | flag spelled => exact Bool.noConfusion
  | text present => exact present
  | age written positive bounded => exact Int.not_le.2 positive

/-! ### The reading of an annotation -/

namespace Annotations

open Annotation

variable {annotations : Annotations} {key : String}

theorem headerMapOf_eq_iff {text : String} {headers : TextMap} :
    headerMapOf text = headers ↔ HoldsHeaders text headers := by
  constructor
  · rintro rfl
    exact ⟨_, areEntries_iff.2 rfl, fun name value => get?_headerMapOf⟩
  · rintro ⟨entries, areEntries, holds⟩
    rw [areEntries_iff.1 areEntries] at holds
    refine TextMap.ext_of_get? fun name => Option.ext fun value => ?_
    rw [get?_headerMapOf, holds]

theorem headerMap_eq_some_iff {headers : TextMap} :
    (annotations.headerMap key).value = some headers ↔
      HoldsHeaders (annotations.text key) headers ∧ headers.toList ≠ [] := by
  have ofEmpty : ( Annotation.headerMap key "").value = none := by
    rw [value_headerMap_eq_none_iff]
    decide
  have ofText : (annotations.headerMap key).value =
      ( Annotation.headerMap key (annotations.text key)).value := by
    have bound := @value?_bind _ (fun text => ( Annotation.headerMap key text).value) ofEmpty
      annotations key
    rw [← bound, headerMap]
    cases annotations.value? key <;> rfl
  rw [ofText, ← headerMapOf_eq_iff, Annotation.headerMap, Option.ite_none_left_eq_some,
    Option.some.injEq, TextMap.isEmpty, List.isEmpty_iff, and_comm]
  exact and_congr_right fun same => by rw [same]

theorem trueOrUnset_eq_some_iff {isSet : Bool} :
    Directive.trueOrUnset annotations key = some isSet ↔
      annotations.text key ∈ ["1", "t", "T", "TRUE", "true", "True"] ∧ isSet = true := by
  rw [← flag_eq_true_iff, Directive.trueOrUnset, Option.ite_none_right_eq_some, Option.some.injEq]
  exact and_congr_right fun _ => eq_comm

theorem value?_eq_some_iff {content : String} :
    annotations.value? key = some content ↔
      annotations.text key ≠ "" ∧ annotations.text key = content := by
  rw [value?_eq, Option.ite_none_left_eq_some, Option.some.injEq]

theorem isInt64_iff {value : Int} (positive : 0 < value) :
    Decimal.isInt64 value = true ↔ value ≤ 2 ^ 63 - 1 := by
  have limit : Int.pow 2 63 = 2 ^ 63 := rfl
  simp only [Decimal.isInt64, limit, Bool.and_eq_true, decide_eq_true_iff]
  omega

theorem seconds?_eq_some_iff {seconds : Int} :
    Directive.seconds? annotations key = some seconds ↔
      Decimal.IsInteger (Text.trim (annotations.text key).toList) seconds ∧
        1 ≤ seconds ∧ seconds ≤ 2 ^ 63 - 1 := by
  have read : annotations.integer key 0 = (integer? (annotations.text key)).getD 0 := by
    rw [integer, value?_bind (by decide)]
  unfold Directive.seconds?
  rw [Option.filter_eq_some_iff, Option.some.injEq, read, decide_eq_true_iff,
    ← Decimal.integer?_eq_some_iff]
  constructor
  · rintro ⟨isRead, positive⟩
    -- the default is not positive, so it is not what was read
    cases written : integer? (annotations.text key) with
    | none =>
        rw [written, Option.getD_none] at isRead
        omega
    | some value =>
        rw [written, Option.getD_some] at isRead
        subst isRead
        obtain ⟨isInteger, fits⟩ := Option.filter_eq_some_iff.1 written
        exact ⟨isInteger, positive, (isInt64_iff positive).1 fits⟩
  · rintro ⟨isInteger, positive, bounded⟩
    have written : integer? (annotations.text key) = some seconds :=
      Option.filter_eq_some_iff.2 ⟨isInteger, (isInt64_iff positive).2 bounded⟩
    rw [written]
    exact ⟨rfl, positive⟩

/-- What an annotation is read as. -/
def settingValue? (annotations : Annotations) (key : String) :
    SettingReading → Option SettingValue
  | .map => (annotations.headerMap key).value.map .map
  | .list => (annotations.list? key).map .list
  | .flag => (Directive.trueOrUnset annotations key).map .flag
  | .text => (annotations.value? key).map .text
  | .age => (Directive.seconds? annotations key).map .age

theorem settingValue?_eq_some_iff {reading : SettingReading} {value : SettingValue} :
    annotations.settingValue? key reading = some value ↔
      reading.Yields (annotations.text key) value := by
  constructor
  · intro isRead
    cases reading with
    | map =>
        obtain ⟨headers, isMap, rfl⟩ := Option.map_eq_some_iff.1 isRead
        obtain ⟨holds, present⟩ := headerMap_eq_some_iff.1 isMap
        exact .map holds present
    | list =>
        obtain ⟨entries, isList, rfl⟩ := Option.map_eq_some_iff.1 isRead
        obtain ⟨present, lists⟩ := list?_eq_some_iff.1 isList
        exact .list lists present
    | flag =>
        obtain ⟨isSet, isFlag, rfl⟩ := Option.map_eq_some_iff.1 isRead
        obtain ⟨spelled, rfl⟩ := trueOrUnset_eq_some_iff.1 isFlag
        exact .flag spelled
    | text =>
        obtain ⟨content, isText, rfl⟩ := Option.map_eq_some_iff.1 isRead
        obtain ⟨present, rfl⟩ := value?_eq_some_iff.1 isText
        exact .text present
    | age =>
        obtain ⟨seconds, isAge, rfl⟩ := Option.map_eq_some_iff.1 isRead
        obtain ⟨written, positive, bounded⟩ := seconds?_eq_some_iff.1 isAge
        exact .age written positive bounded
  · intro yields
    cases yields with
    | map holds present =>
        exact congrArg (Option.map _) (headerMap_eq_some_iff.2 ⟨holds, present⟩)
    | list lists present =>
        exact congrArg (Option.map _) (list?_eq_some_iff.2 ⟨present, lists⟩)
    | flag spelled =>
        exact congrArg (Option.map _) (trueOrUnset_eq_some_iff.2 ⟨spelled, rfl⟩)
    | text present =>
        exact congrArg (Option.map _) (value?_eq_some_iff.2 ⟨present, rfl⟩)
    | age written positive bounded =>
        exact congrArg (Option.map _) (seconds?_eq_some_iff.2 ⟨written, positive, bounded⟩)

end Annotations

/-! ### The middleware -/

namespace Directive

open Annotation

variable (annotations : Annotations)

theorem value?_headerSettings (setting : HeaderSetting) :
    (headerSettings annotations).value.value? setting =
      annotations.settingValue? setting.key setting.reading := by
  cases setting <;> rfl

theorem headers_eq_none_iff :
    (headers annotations).value = none ↔
      ∀ setting : HeaderSetting,
        annotations.settingValue? setting.key setting.reading = none := by
  unfold headers
  rw [Logged.value_bind, Logged.value_pure, ite_eq_left_iff, Headers.eq_unset_iff]
  simp [value?_headerSettings]

theorem eq_headerSettings_of_headers {annotations : Annotations} {kind : MiddlewareKind}
    (isMade : (headers annotations).value = some kind) :
    kind = .headers (headerSettings annotations).value := by
  unfold headers at isMade
  rw [Logged.value_bind, Logged.value_pure, Option.ite_none_left_eq_some] at isMade
  exact (Option.some.inj isMade.2).symm

/-- The value of a setting in a middleware, if there is one. -/
def setIn? (kind : Option MiddlewareKind) (setting : HeaderSetting) : Option SettingValue :=
  match kind with
  | some (.headers settings) => settings.value? setting
  | _ => none

theorem setIn?_headers (setting : HeaderSetting) :
    setIn? (headers annotations).value setting =
      annotations.settingValue? setting.key setting.reading := by
  cases made : (headers annotations).value with
  | none => exact ((headers_eq_none_iff annotations).1 made setting).symm
  | some kind =>
      rw [eq_headerSettings_of_headers made]
      exact value?_headerSettings annotations setting

/-- There is a headers middleware just where some header annotation yields a value. Each of its
settings then has the value that its own annotation yields, and is unset where that one yields none;
it is never set to a value that is as good as none. No two settings come from one annotation, and a
change of one annotation leaves the settings of all others as they are. -/
theorem header_settings_are_exact (annotations : Annotations) :
    ((headers annotations).value = none ↔
      ∀ (setting : HeaderSetting) (value : SettingValue),
        ¬setting.reading.Yields (annotations.text setting.key) value) ∧
    (∀ kind, (headers annotations).value = some kind →
      ∃ settings, kind = .headers settings ∧ ∀ setting value,
        (settings.value? setting = some value ↔
          setting.reading.Yields (annotations.text setting.key) value) ∧
        (settings.value? setting = some value → ¬value.IsVacant)) ∧
    Function.Injective HeaderSetting.key ∧
    ∀ (changed : Annotations) (key : String),
      (∀ other, other ≠ key → changed.map.bind (fun map => map.get? other) =
        annotations.map.bind (fun map => map.get? other)) →
      ∀ setting : HeaderSetting, setting.key ≠ key →
        setIn? (headers changed).value setting = setIn? (headers annotations).value setting := by
  refine ⟨?_, ?_, HeaderSetting.key_injective, ?_⟩
  · rw [headers_eq_none_iff]
    simp only [Option.eq_none_iff_forall_ne_some, Ne, Annotations.settingValue?_eq_some_iff]
  · intro kind isMade
    refine ⟨_, eq_headerSettings_of_headers isMade, fun setting value => ?_⟩
    rw [value?_headerSettings, Annotations.settingValue?_eq_some_iff]
    exact ⟨Iff.rfl, SettingReading.Yields.not_isVacant⟩
  · intro changed key agree setting notChanged
    have sameText : changed.text setting.key = annotations.text setting.key := by
      rw [Annotations.text_eq, Annotations.text_eq, agree setting.key notChanged]
    rw [setIn?_headers, setIn?_headers]
    refine Option.ext fun value => ?_
    rw [Annotations.settingValue?_eq_some_iff, Annotations.settingValue?_eq_some_iff, sameText]

private def plainSettings : TextMap :=
  TextMap.ofList [(Key.frameDeny, "T"), (Key.isDevelopment, "yes"), (Key.allowedHosts, " , ")]

private def withAge : Annotations :=
  ⟨some (plainSettings.insert Key.hstsMaxAge " +0042 ")⟩

/-- An age with a sign and zeros in front, a flag that spells no truth value, and the same annotations
without the age. -/
theorem header_settings_are_exact_withAge :
    ∃ settings, (headers withAge).value = some (.headers settings) ∧
      settings.value? .stsSeconds = some (.age 42) ∧ settings.value? .isDevelopment = none ∧
      setIn? (headers ⟨some plainSettings⟩).value .frameDeny = some (.flag true) := by
  obtain ⟨absent, present, -, frame⟩ := header_settings_are_exact withAge
  have age : SettingReading.age.Yields (withAge.text Key.hstsMaxAge) (.age 42) := by
    have written : withAge.text Key.hstsMaxAge = " +0042 " := by decide +kernel
    rw [written]
    exact .age (Decimal.integer?_eq_some_iff.1 (by decide)) (by decide) (by decide)
  have deny : SettingReading.flag.Yields (withAge.text Key.frameDeny) (.flag true) :=
    .flag (by decide +kernel)
  obtain ⟨kind, isMade⟩ :=
    Option.ne_none_iff_exists'.1 fun isNone => absent.1 isNone .stsSeconds _ age
  obtain ⟨settings, rfl, values⟩ := present kind isMade
  refine ⟨settings, isMade, (values .stsSeconds _).1.2 age, ?_, ?_⟩
  · refine Option.eq_none_iff_forall_ne_some.2 fun value isSet => ?_
    have yields : SettingReading.flag.Yields (withAge.text Key.isDevelopment) value :=
      (values .isDevelopment value).1.1 isSet
    cases yields with
    | flag spelled => exact absurd spelled (by decide +kernel)
  · have agree : ∀ other, other ≠ Key.hstsMaxAge →
        plainSettings.get? other = (plainSettings.insert Key.hstsMaxAge " +0042 ").get? other := by
      intro other notAge
      rw [TextMap.get?_insert, if_neg notAge]
    rw [frame ⟨some plainSettings⟩ Key.hstsMaxAge agree .frameDeny (by decide), isMade]
    exact (values .frameDeny _).1.2 deny

end Directive

end TraefikUpgrade
