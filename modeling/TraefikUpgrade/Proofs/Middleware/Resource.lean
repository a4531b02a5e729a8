import TraefikUpgrade.Middleware.Resource
import TraefikUpgrade.Proofs.Kubernetes.ObjectMeta

/-!
Contract: a Middleware is read back from what is written for it.

Owns: the settings of each kind read from their written form, the kinds that a
reading can give, the one key of a written specification, and the round trip
of a whole resource, for one that is made of a name, a namespace and a kind as
well as for one that was read.

Does not own: that a written document is read as the value that it was written
for, which is assumed where it is needed.
-/

set_option autoImplicit false

namespace TraefikUpgrade

open Yaml (Value)
open Kubernetes

namespace MiddlewareKind

/-! ### Flags that are written when they are true -/

@[simp] theorem get?_writtenIfTrue (other : String) (flag : Bool) (name : String) :
    Fields.get? (writtenIfTrue other flag) name =
      if other = name then (if flag then some (.bool true) else none) else none := by
  cases flag with
  | false => simp [writtenIfTrue, Fields.get?]
  | true => exact Fields.get?_written other (.bool true) name

theorem names_writtenIfTrue (name : String) (flag : Bool) :
    ((writtenIfTrue name flag).map Prod.fst).Sublist [name] := by
  cases flag with
  | false => exact List.nil_sublist _
  | true => exact List.Sublist.refl _

theorem flagOrFalse_eq_elim (fields : Fields) (name : String) :
    flagOrFalse fields name = (fields.get? name).elim (some false) bool? := by
  unfold flagOrFalse
  cases fields.get? name <;> rfl

@[simp] theorem elim_writtenIfTrue (flag : Bool) :
    (if flag then some (Value.bool true) else none).elim (some false) bool? = some flag := by
  cases flag <;> rfl

/-! ### Settings -/

theorem basicAuth?_ofBasicAuth (settings : BasicAuth) :
    basicAuth? (ofBasicAuth settings) = some (.basicAuth settings) := by
  rw [basicAuth?, ofBasicAuth, bind_eq_some_iff]
  refine ⟨_, record?_ofFields ?_ (by decide) _ _, ?_⟩
  · rw [List.append_assoc]
    refine names_written_append _ ?_
    rw [List.map_append]
    exact (names_writtenIfTrue _ _).append (names_writtenIfSet _ _ _)
  · simp [↓bind_eq_some_iff, Fields.required, Fields.optional_eq_readIfSet, flagOrFalse_eq_elim]

theorem headers?_ofHeaders {settings : Headers}
    (fits : ∀ seconds ∈ settings.stsSeconds, Decimal.isInt64 seconds = true) :
    headers? (ofHeaders settings) = some (.headers settings) := by
  rw [headers?, ofHeaders, bind_eq_some_iff]
  refine ⟨_, record?_ofFields ?_ (by decide) _ _, ?_⟩
  · simp only [List.append_assoc]
    repeat first
      | exact names_writtenIfSet _ _ _
      | refine names_writtenIfSet_append _ _ ?_
  · simp [↓bind_eq_some_iff, Fields.optional_eq_readIfSet, readIfSet_int64 fits]

theorem readsAs_ipStrategy {strategy : IpStrategy}
    (fits : ∀ depth ∈ strategy.depth, Decimal.isInt64 depth = true) :
    ReadsAs ipStrategy? (ofIpStrategy strategy) strategy := by
  refine ⟨nofun, ?_⟩
  rw [ipStrategy?, ofIpStrategy, bind_eq_some_iff]
  refine ⟨_, record?_ofFields ?_ (by decide) _ _, ?_⟩
  · exact names_writtenIfSet_append _ _ (names_writtenIfSet _ _ _)
  · simp [↓bind_eq_some_iff, Fields.optional_eq_readIfSet, readIfSet_int64 fits]

theorem ipWhiteList?_ofIpWhiteList {settings : IpWhiteList}
    (fits : ∀ strategy ∈ settings.ipStrategy, ∀ depth ∈ strategy.depth,
      Decimal.isInt64 depth = true) :
    ipWhiteList? (ofIpWhiteList settings) = some (.ipWhiteList settings) := by
  have strategy : readIfSet ipStrategy? (settings.ipStrategy.map ofIpStrategy) =
      some settings.ipStrategy :=
    readIfSet_map_self fun strategy isSet => readsAs_ipStrategy (fits strategy isSet)
  rw [ipWhiteList?, ofIpWhiteList, bind_eq_some_iff]
  refine ⟨_, record?_ofFields ?_ (by decide) _ _, ?_⟩
  · exact names_written_append _ (names_writtenIfSet _ _ _)
  · simp [↓bind_eq_some_iff, Fields.required, Fields.optional_eq_readIfSet, strategy]

theorem redirectRegex?_ofRedirectRegex (settings : RedirectRegex) :
    redirectRegex? (ofRedirectRegex settings) = some (.redirectRegex settings) := by
  rw [redirectRegex?, ofRedirectRegex, bind_eq_some_iff]
  refine ⟨_, record?_ofFields ?_ (by decide) _ _, ?_⟩
  · rw [List.append_assoc]
    exact names_written_append _ (names_written_append _ (names_writtenIfTrue _ _))
  · simp [↓bind_eq_some_iff, Fields.required, flagOrFalse_eq_elim]

theorem replacePathRegex?_ofReplacePathRegex (settings : ReplacePathRegex) :
    replacePathRegex? (ofReplacePathRegex settings) = some (.replacePathRegex settings) := by
  rw [replacePathRegex?, ofReplacePathRegex, bind_eq_some_iff]
  refine ⟨_, record?_ofFields ?_ (by decide) _ _, ?_⟩
  · exact names_written_append _ (List.Sublist.refl _)
  · simp [↓bind_eq_some_iff, Fields.required]

theorem replacePath?_written (path : String) :
    replacePath? (ofFields (written "path" (.string path))) = some (.replacePath path) := by
  simp [replacePath?, Fields.required]

theorem addPrefix?_written (added : String) :
    addPrefix? (ofFields (written "prefix" (.string added))) = some (.addPrefix added) := by
  simp [addPrefix?, Fields.required]

theorem stripPrefix?_written (prefixes : List String) :
    stripPrefix? (ofFields (written "prefixes" (ofTexts prefixes))) =
      some (.stripPrefix prefixes) := by
  simp [stripPrefix?, Fields.required]

/-- The numbers of the settings are integers of 64 bits. -/
def IntegersFit : MiddlewareKind → Prop
  | .headers settings => ∀ seconds ∈ settings.stsSeconds, Decimal.isInt64 seconds = true
  | .ipWhiteList settings =>
      ∀ strategy ∈ settings.ipStrategy, ∀ depth ∈ strategy.depth, Decimal.isInt64 depth = true
  | _ => True

/-- The key of a kind names the reading of its settings. -/
theorem ofEntries?_written {kind : MiddlewareKind} (fits : kind.IntegersFit) :
    ofEntries? [(.string kind.key, kind.settings)] = some kind := by
  cases kind with
  | basicAuth settings => exact basicAuth?_ofBasicAuth settings
  | headers settings => exact headers?_ofHeaders fits
  | ipWhiteList settings => exact ipWhiteList?_ofIpWhiteList fits
  | redirectRegex settings => exact redirectRegex?_ofRedirectRegex settings
  | replacePath path => exact replacePath?_written path
  | replacePathRegex settings => exact replacePathRegex?_ofReplacePathRegex settings
  | addPrefix added => exact addPrefix?_written added
  | stripPrefix prefixes => exact stripPrefix?_written prefixes

/-! ### No tag is written -/

theorem hasNoTag_append (first second : Fields) :
    hasNoTag (ofFields (first ++ second)) =
      (hasNoTag (ofFields first) && hasNoTag (ofFields second)) := by
  induction first with
  | nil => rfl
  | cons field rest inductionHypothesis =>
      rw [ofFields, ofFields, ofFields, hasNoTag, hasNoTag, hasNoTag] at inductionHypothesis ⊢
      rw [List.cons_append, List.map_cons, List.map_cons, entriesHaveNoTag, entriesHaveNoTag,
        inductionHypothesis]
      exact (Bool.and_assoc _ _ _).symm

theorem hasNoTag_written (name : String) (value : Value) :
    hasNoTag (ofFields (written name value)) = hasNoTag value := by
  simp [ofFields, written, hasNoTag, entriesHaveNoTag]

theorem hasNoTag_writtenIfSet {α : Type} (name : String) (write : α → Value) (value : Option α) :
    hasNoTag (ofFields (writtenIfSet name write value)) =
      value.all fun set => hasNoTag (write set) := by
  cases value with
  | none => rfl
  | some value => exact hasNoTag_written name (write value)

theorem hasNoTag_writtenIfTrue (name : String) (flag : Bool) :
    hasNoTag (ofFields (writtenIfTrue name flag)) = true := by
  cases flag with
  | false => rfl
  | true => exact hasNoTag_written name (.bool true)

theorem hasNoTag_ofTexts (texts : List String) : hasNoTag (ofTexts texts) = true := by
  rw [ofTexts, ofList, hasNoTag]
  induction texts with
  | nil => rfl
  | cons text rest inductionHypothesis => exact inductionHypothesis

theorem hasNoTag_ofTextMap (map : TextMap) : hasNoTag (ofTextMap map) = true := by
  rw [ofTextMap, hasNoTag]
  induction map.toList with
  | nil => rfl
  | cons entry rest inductionHypothesis => exact inductionHypothesis

theorem hasNoTag_settings (kind : MiddlewareKind) : hasNoTag kind.settings = true := by
  have ofStrategy (strategy : IpStrategy) : hasNoTag (ofIpStrategy strategy) = true := by
    simp [ofIpStrategy, hasNoTag_append, hasNoTag_writtenIfSet, hasNoTag, hasNoTag_ofTexts]
  cases kind <;>
    simp [settings, ofBasicAuth, ofHeaders, ofIpWhiteList, ofRedirectRegex, ofReplacePathRegex,
      hasNoTag_append, hasNoTag_written, hasNoTag_writtenIfSet, hasNoTag_writtenIfTrue, hasNoTag,
      hasNoTag_ofTexts, hasNoTag_ofTextMap, ofStrategy]

/-! ### Specifications -/

theorem toValue_eq (kind : MiddlewareKind) :
    kind.toValue = .mapping [(.string kind.key, kind.settings)] := rfl

theorem ofValue?_toValue {kind : MiddlewareKind} (fits : kind.IntegersFit) :
    ofValue? kind.toValue = some kind := by
  have noTag : entriesHaveNoTag [(.string kind.key, kind.settings)] = true := by
    simp [entriesHaveNoTag, hasNoTag, hasNoTag_settings]
  rw [toValue_eq, ofValue?, if_pos noTag]
  exact ofEntries?_written fits

/-! ### Numbers that are read -/

theorem integersFit_of_headers? {value : Value} {kind : MiddlewareKind}
    (reads : headers? value = some kind) : kind.IntegersFit := by
  simp only [headers?, ↓bind_eq_some_iff] at reads
  obtain ⟨_, -, _, -, _, -, _, -, _, -, _, -, _, -, _, -, _, -, _, ofSeconds, _, -, _, -, _, -, _, -,
    _, -, _, -, _, -, _, -, _, -, _, -, _, -, _, -, ⟨⟩⟩ := reads
  exact forall_of_optional isInt64_of_int64? ofSeconds

theorem isInt64_of_ipStrategy? {value : Value} {strategy : IpStrategy}
    (reads : ipStrategy? value = some strategy) :
    ∀ depth ∈ strategy.depth, Decimal.isInt64 depth = true := by
  simp only [ipStrategy?, ↓bind_eq_some_iff] at reads
  obtain ⟨_, -, _, ofDepth, _, -, ⟨⟩⟩ := reads
  exact forall_of_optional isInt64_of_int64? ofDepth

theorem integersFit_of_ipWhiteList? {value : Value} {kind : MiddlewareKind}
    (reads : ipWhiteList? value = some kind) : kind.IntegersFit := by
  simp only [ipWhiteList?, ↓bind_eq_some_iff] at reads
  obtain ⟨_, -, _, -, _, ofStrategy, ⟨⟩⟩ := reads
  exact forall_of_optional isInt64_of_ipStrategy? ofStrategy

/-- A reading gives a kind only if the numbers of its settings are integers of 64 bits. -/
theorem integersFit_of_reading? {key : String} {read : Value → Option MiddlewareKind}
    (isReading : reading? key = some read) {value : Value} {kind : MiddlewareKind}
    (reads : read value = some kind) : kind.IntegersFit := by
  unfold reading? at isReading
  split at isReading
  -- only the headers and the white list of addresses hold numbers
  case h_2 => exact integersFit_of_headers? (Option.some.inj isReading ▸ reads)
  case h_3 => exact integersFit_of_ipWhiteList? (Option.some.inj isReading ▸ reads)
  case h_9 => cases isReading
  all_goals
    obtain rfl := Option.some.inj isReading
    simp only [basicAuth?, redirectRegex?, replacePath?, replacePathRegex?, addPrefix?, stripPrefix?,
      ↓bind_eq_some_iff, Option.pure_def, Option.some.injEq] at reads
    grind [IntegersFit]

theorem integersFit_of_ofEntries? {entries : List (Value × Value)} {kind : MiddlewareKind}
    (reads : ofEntries? entries = some kind) : kind.IntegersFit := by
  fun_induction ofEntries? entries with
  | case1 => cases reads
  | case2 key value rest read isReading => exact integersFit_of_reading? isReading reads
  | case3 key value rest noReading inductionHypothesis => exact inductionHypothesis reads
  | case4 entry rest notText inductionHypothesis => exact inductionHypothesis reads

theorem integersFit_of_ofValue? {value : Value} {kind : MiddlewareKind}
    (reads : ofValue? value = some kind) : kind.IntegersFit := by
  unfold ofValue? at reads
  split at reads
  · exact integersFit_of_ofEntries? (Option.ite_none_right_eq_some.1 reads).2
  · cases reads

end MiddlewareKind

namespace Middleware

/-! ### What is read -/

/-- A Middleware that a reading can give. -/
structure IsReadable (middleware : Middleware) : Prop where
  metadata : middleware.metadata.IsReadable
  kind : middleware.kind.IntegersFit

theorem isReadable_of_ofValue? {value : Value} {middleware : Middleware}
    (reads : ofValue? value = some middleware) : middleware.IsReadable := by
  simp only [ofValue?, ↓bind_eq_some_iff] at reads
  obtain ⟨fields, -, metadata, ofMetadata, kind, ofKind, ⟨⟩⟩ := reads
  obtain ⟨_, -, ofMetadata⟩ := Option.bind_eq_some_iff.1 ofMetadata
  obtain ⟨_, -, ofKind⟩ := Option.bind_eq_some_iff.1 ofKind
  exact ⟨ObjectMeta.isReadable_of_ofValue? ofMetadata, MiddlewareKind.integersFit_of_ofValue? ofKind⟩

theorem isReadable_of_ofContent? {content : Yaml.Content} {middleware : Middleware}
    (reads : ofContent? content = some middleware) : middleware.IsReadable := by
  unfold ofContent? at reads
  split at reads
  · replace reads := (Option.ite_none_right_eq_some.1 reads).2
    simp only [↓bind_eq_some_iff] at reads
    obtain ⟨_, -, _, -, _, -, _, -, metadata, ofMetadata, kind, ofKind, ⟨⟩⟩ := reads
    exact ⟨ObjectMeta.isReadable_of_ofValue? ofMetadata,
      MiddlewareKind.integersFit_of_ofValue? ofKind⟩
  · cases reads

theorem isReadable_of_ofText? {text : String} {middleware : Middleware}
    (reads : ofText? text = some middleware) : middleware.IsReadable := by
  unfold ofText? at reads
  cases plain : (Yaml.parse text).bind ofValue? with
  | some first =>
      obtain ⟨value, -, ofValue⟩ := Option.bind_eq_some_iff.1 plain
      rw [plain] at reads
      obtain rfl : first = middleware := Option.some.inj reads
      exact isReadable_of_ofValue? ofValue
  | none =>
      rw [plain] at reads
      obtain ⟨_, -, reads⟩ := Option.bind_eq_some_iff.1 reads
      obtain ⟨content, -, ofContent⟩ := Option.bind_eq_some_iff.1 reads
      exact isReadable_of_ofContent? ofContent

theorem isReadable_named (namespaceName name : String) {kind : MiddlewareKind}
    (fits : kind.IntegersFit) : (named namespaceName name kind).IsReadable :=
  ⟨⟨nofun, nofun, nofun, nofun, nofun⟩, fits⟩

/-! ### What was written is read -/

theorem ofValue?_toValue {middleware : Middleware} (readable : middleware.IsReadable) :
    ofValue? middleware.toValue =
      some { middleware with metadata := middleware.metadata.withoutNulls } := by
  rw [ofValue?, toValue, object?_ofFields, Option.filter_some, if_pos]
  · simp [Fields.required, ObjectMeta.ofValue?_toValue readable.metadata,
      MiddlewareKind.ofValue?_toValue readable.kind]
  · apply Fields.distinct_of_nodup
    change ["apiVersion", "kind", "metadata", "spec"].Nodup
    decide

theorem ofText?_render {middleware : Middleware}
    (faithful : Yaml.parse middleware.render = some middleware.toValue)
    (readable : middleware.IsReadable) :
    ofText? middleware.render =
      some { middleware with metadata := middleware.metadata.withoutNulls } := by
  rw [ofText?, faithful, Option.bind_some, ofValue?_toValue readable]
  rfl

/-- A Middleware made of a namespace, a name and a kind is read back as it was, from a text whose
specification has the key of the kind and no other. A Middleware that was read from a text is read
back from what is written for it with the same name, namespace and kind. Both assume that the text
that is written for a value is read as the value. -/
theorem middlewares_round_trip :
    (∀ (namespaceName name : String) (kind : MiddlewareKind), kind.IntegersFit →
      Yaml.parse (named namespaceName name kind).render =
        some (named namespaceName name kind).toValue →
      ofText? (named namespaceName name kind).render = some (named namespaceName name kind) ∧
        ∃ document settings, Yaml.parse (named namespaceName name kind).render = some document ∧
          document.field? "spec" = some (.mapping [(.string kind.key, settings)])) ∧
    ∀ (text : String) (middleware : Middleware), ofText? text = some middleware →
      Yaml.parse middleware.render = some middleware.toValue →
      ∃ reread, ofText? middleware.render = some reread ∧
        reread.metadata.name = middleware.metadata.name ∧
        reread.metadata.namespaceName = middleware.metadata.namespaceName ∧
        reread.kind = middleware.kind := by
  constructor
  · intro namespaceName name kind fits faithful
    have readable := isReadable_named namespaceName name fits
    exact ⟨ofText?_render faithful readable, _, kind.settings, faithful, rfl⟩
  · intro text middleware reads faithful
    have readable := isReadable_of_ofText? reads
    exact ⟨_, ofText?_render faithful readable, rfl, rfl, rfl⟩

private def transport : MiddlewareKind :=
  .headers
    { sslProxyHeaders := some TextMap.empty
      stsSeconds := some (-9223372036854775808) }

private def listed : String :=
  "spec:\n  note: 1\n  ipWhiteList: [[10.0.0.0/8]]\n  headers: []\n" ++
  "metadata:\n  name: lan\n"

private def lan : Middleware where
  metadata := { name := some "lan" }
  kind := .ipWhiteList ⟨["10.0.0.0/8"], none⟩

/-- The kind has an empty map and the least number. The text that is read names a second kind, and
has its settings as a list. -/
theorem middlewares_round_trip_transport_and_lan :
    (ofText? (named "web" "sts" transport).render = some (named "web" "sts" transport) ∧
      ∃ document settings, Yaml.parse (named "web" "sts" transport).render = some document ∧
        document.field? "spec" = some (.mapping [(.string "headers", settings)])) ∧
    ∃ reread, ofText? lan.render = some reread ∧ reread.metadata.name = some "lan" ∧
      reread.metadata.namespaceName = none ∧ reread.kind = .ipWhiteList ⟨["10.0.0.0/8"], none⟩ :=
  ⟨middlewares_round_trip.1 "web" "sts" transport
      (by rintro seconds ⟨⟩; decide) (by decide +kernel),
    middlewares_round_trip.2 listed lan (by decide +kernel) (by decide +kernel)⟩

end Middleware

end TraefikUpgrade
