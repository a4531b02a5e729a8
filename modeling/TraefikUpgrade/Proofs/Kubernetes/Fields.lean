import TraefikUpgrade.Kubernetes.Fields
import TraefikUpgrade.Proofs.Text.Map

/-!
Contract: what is written for the fields of an object is read back.

Owns: the values of fields that are written one after another, the reading of
an object and of a record from its written fields, the reading of a field that
may be unset from what is written for it, and the values that are read as they
were written.

Does not own: which fields an object has.
-/

set_option autoImplicit false

namespace TraefikUpgrade.Kubernetes

open Yaml (Value)

variable {α β : Type}

/-! ### Readings of several parts -/

/-- One step of a reading. As a rewrite it opens a reading from the front, part by part. -/
theorem bind_eq_some_iff {first : Option α} {next : α → Option β} {result : β} :
    (first >>= next) = some result ↔ ∃ value, first = some value ∧ next value = some result :=
  Option.bind_eq_some_iff

section Lists

variable {Written : Type} {read : Written → Option α}

theorem mapM_map_eq_some {write : β → Written} {again : β → α} {items : List β}
    (reads : ∀ item ∈ items, read (write item) = some (again item)) :
    (items.map write).mapM read = some (items.map again) := by
  induction items with
  | nil => rfl
  | cons item rest inductionHypothesis =>
      obtain ⟨ofItem, ofRest⟩ := List.forall_mem_cons.1 reads
      simp [List.mapM_cons, ofItem, inductionHypothesis ofRest]

theorem mapM_map_eq_self {write : α → Written} {items : List α}
    (reads : ∀ item ∈ items, read (write item) = some item) :
    (items.map write).mapM read = some items :=
  (mapM_map_eq_some reads).trans (by rw [List.map_id'])

theorem exists_of_mem_mapM {items : List Written} {results : List α}
    (reads : items.mapM read = some results) :
    ∀ result ∈ results, ∃ item ∈ items, read item = some result := by
  induction items generalizing results with
  | nil =>
      obtain rfl : [] = results := by simpa using reads
      simp
  | cons item rest inductionHypothesis =>
      rw [List.mapM_cons] at reads
      obtain ⟨first, ofItem, reads⟩ := Option.bind_eq_some_iff.1 reads
      obtain ⟨following, ofRest, same⟩ := Option.bind_eq_some_iff.1 reads
      obtain rfl : first :: following = results := Option.some.inj same
      refine List.forall_mem_cons.2 ⟨⟨item, List.mem_cons_self, ofItem⟩, fun result member => ?_⟩
      obtain ⟨origin, isItem, ofOrigin⟩ := inductionHypothesis ofRest result member
      exact ⟨origin, List.mem_cons_of_mem _ isItem, ofOrigin⟩

end Lists

/-! ### Objects and records -/

@[simp] theorem object?_ofFields (nullObject : NullObject) (fields : Fields) :
    object? nullObject (ofFields fields) = some fields :=
  mapM_map_eq_self fun _ _ => rfl

namespace Fields

@[simp] theorem get?_append (first second : Fields) (name : String) :
    Fields.get? (first ++ second) name = (second.get? name).or (first.get? name) := by
  simp [get?, List.reverse_append, List.find?_append, Option.map_or]

@[simp] theorem get?_written (other : String) (value : Value) (name : String) :
    Fields.get? (written other value) name = if other = name then some value else none := by
  by_cases same : other = name <;> simp [get?, written, same]

@[simp] theorem get?_writtenIfSet (other : String) (write : α → Value) (value : Option α)
    (name : String) :
    Fields.get? (writtenIfSet other write value) name =
      if other = name then value.map write else none := by
  cases value with
  | none => simp [writtenIfSet, get?]
  | some value => exact get?_written other (write value) name

theorem distinct_of_nodup {fields : Fields} (nodup : (fields.map Prod.fst).Nodup)
    (names : List String) : fields.distinct names = true := by
  rw [distinct, List.all_eq_true]
  intro name _
  have once := List.nodup_iff_count_le_one.1 nodup name
  rw [List.count, List.countP_map, List.countP_eq_length_filter] at once
  exact decide_eq_true once

end Fields

theorem record?_ofFields {fields : Fields} {names : List String}
    (sublist : (fields.map Prod.fst).Sublist names) (nodup : names.Nodup) (nullObject : NullObject)
    (least : Nat) : record? nullObject names least (ofFields fields) = some fields := by
  have distinct := Fields.distinct_of_nodup (sublist.nodup nodup) names
  exact (congrArg (Option.filter _) (object?_ofFields nullObject fields)).trans
    (by simp [distinct])

/-- A record with a single field. -/
@[simp] theorem record?_written (nullObject : NullObject) (name : String) (least : Nat)
    (value : Value) :
    record? nullObject [name] least (ofFields (written name value)) = some (written name value) :=
  record?_ofFields (.refl ((written name value).map Prod.fst)) (List.nodup_singleton name)
    nullObject least

section Names

variable {name : String} {names : List String} {rest : Fields}

theorem names_writtenIfSet (name : String) (write : α → Value) (value : Option α) :
    ((writtenIfSet name write value).map Prod.fst).Sublist [name] := by
  cases value with
  | none => exact List.nil_sublist _
  | some value => exact List.Sublist.refl _

theorem names_written_append (value : Value) (sublist : (rest.map Prod.fst).Sublist names) :
    ((written name value ++ rest).map Prod.fst).Sublist (name :: names) :=
  sublist.cons_cons name

theorem names_writtenIfSet_append (write : α → Value) (value : Option α)
    (sublist : (rest.map Prod.fst).Sublist names) :
    ((writtenIfSet name write value ++ rest).map Prod.fst).Sublist (name :: names) := by
  rw [List.map_append]
  exact (names_writtenIfSet name write value).append sublist

end Names

/-! ### Fields that may be unset -/

/-- The reading of a field that may be null or not there. -/
def readIfSet (read : Value → Option α) : Option Value → Option (Option α)
  | none => some none
  | some .null => some none
  | some value => (read value).map some

theorem Fields.optional_eq_readIfSet (fields : Fields) (name : String) (read : Value → Option α) :
    fields.optional name read = readIfSet read (fields.get? name) := rfl

/-- What is written is no null, and is read as the value. -/
structure ReadsAs (read : Value → Option α) (written : Value) (value : α) : Prop where
  notNull : written ≠ .null
  read_written : read written = some value

theorem readIfSet_map {read : Value → Option α} {write : β → Value} {again : β → α}
    {value : Option β} (reads : ∀ set ∈ value, ReadsAs read (write set) (again set)) :
    readIfSet read (value.map write) = some (value.map again) := by
  cases value with
  | none => rfl
  | some value =>
      obtain ⟨notNull, read_written⟩ := reads value rfl
      rw [Option.map_some, readIfSet, read_written]
      · rfl
      · exact notNull

theorem readIfSet_map_self {read : Value → Option α} {write : α → Value} {value : Option α}
    (reads : ∀ set ∈ value, ReadsAs read (write set) set) :
    readIfSet read (value.map write) = some value :=
  (readIfSet_map reads).trans (by rw [Option.map_id'])

/-- What holds of all that a reading gives holds of a field that is set. -/
theorem forall_of_optional {fields : Fields} {name : String} {read : Value → Option α}
    {setting : Option α} {holds : α → Prop}
    (law : ∀ {value : Value} {set : α}, read value = some set → holds set)
    (reads : fields.optional name read = some setting) : ∀ set ∈ setting, holds set := by
  rintro set rfl
  unfold Fields.optional at reads
  split at reads
  · cases reads
  · cases reads
  · obtain ⟨value, ofValue, same⟩ := Option.map_eq_some_iff.1 reads
    exact law (Option.some.inj same ▸ ofValue)

/-! ### Values that are read as they were written -/

@[simp] theorem text?_string (text : String) : Value.text? (.string text) = some text := rfl

theorem readsAs_text (text : String) : ReadsAs Value.text? (.string text) text :=
  ⟨by simp, rfl⟩

theorem readsAs_bool (flag : Bool) : ReadsAs bool? (.bool flag) flag :=
  ⟨by simp, rfl⟩

theorem readsAs_int64 {number : Int} (inRange : Decimal.isInt64 number = true) :
    ReadsAs int64? (.integer number) number :=
  ⟨by simp, Option.filter_eq_some_iff.2 ⟨rfl, inRange⟩⟩

theorem isInt64_of_int64? {value : Value} {number : Int} (reads : int64? value = some number) :
    Decimal.isInt64 number = true :=
  (Option.filter_eq_some_iff.1 reads).2

theorem readsAs_list {read : Value → Option α} {write : β → Value} {again : β → α}
    {items : List β} (reads : ∀ item ∈ items, read (write item) = some (again item))
    (nullObject : NullObject) :
    ReadsAs (list? nullObject read) (ofList write items) (items.map again) :=
  ⟨nofun, mapM_map_eq_some reads⟩

theorem forall_of_list? {read : Value → Option α} {nullObject : NullObject} {value : Value}
    {items : List α} {holds : α → Prop}
    (law : ∀ {origin : Value} {item : α}, read origin = some item → holds item)
    (reads : list? nullObject read value = some items) : ∀ item ∈ items, holds item := by
  unfold list? at reads
  split at reads
  · intro item member
    obtain ⟨origin, -, ofOrigin⟩ := exists_of_mem_mapM reads item member
    exact law ofOrigin
  · obtain ⟨-, same⟩ := Option.ite_none_right_eq_some.1 reads
    obtain rfl : [] = items := Option.some.inj same
    simp
  · cases reads

@[simp] theorem texts?_ofTexts (texts : List String) (nullObject : NullObject) :
    texts? nullObject (ofTexts texts) = some texts :=
  @mapM_map_eq_self _ _ Value.text? .string texts fun text _ => text?_string text

theorem readsAs_texts (texts : List String) (nullObject : NullObject) :
    ReadsAs (texts? nullObject) (ofTexts texts) texts :=
  ⟨nofun, texts?_ofTexts texts nullObject⟩

theorem readsAs_textMap (map : TextMap) (nullObject : NullObject) :
    ReadsAs (textMap? nullObject) (ofTextMap map) map := by
  have entries : ofTextMap map = ofFields (map.toList.map fun entry => (entry.1, .string entry.2)) := by
    simp [ofTextMap, ofFields]
  have texts : (map.toList.map fun entry => (entry.1, Value.string entry.2)).mapM
      (fun field => field.2.text?.map fun text => (field.1, text)) = some map.toList :=
    mapM_map_eq_self fun _ _ => rfl
  refine ⟨nofun, ?_⟩
  rw [entries, textMap?, object?_ofFields]
  simp [texts]

section Settings

@[simp] theorem readIfSet_text (text : Option String) :
    readIfSet Value.text? (text.map .string) = some text :=
  readIfSet_map_self fun set _ => readsAs_text set

@[simp] theorem readIfSet_some_text (text : String) :
    readIfSet Value.text? (some (.string text)) = some (some text) := rfl

@[simp] theorem readIfSet_bool (flag : Option Bool) :
    readIfSet bool? (flag.map .bool) = some flag :=
  readIfSet_map_self fun set _ => readsAs_bool set

@[simp] theorem readIfSet_texts (texts : Option (List String)) (nullObject : NullObject) :
    readIfSet (texts? nullObject) (texts.map ofTexts) = some texts :=
  readIfSet_map_self fun set _ => readsAs_texts set nullObject

@[simp] theorem readIfSet_textMap (map : Option TextMap) (nullObject : NullObject) :
    readIfSet (textMap? nullObject) (map.map ofTextMap) = some map :=
  readIfSet_map_self fun set _ => readsAs_textMap set nullObject

theorem readIfSet_int64 {number : Option Int}
    (inRange : ∀ set ∈ number, Decimal.isInt64 set = true) :
    readIfSet int64? (number.map .integer) = some number :=
  readIfSet_map_self fun set isSet => readsAs_int64 (inRange set isSet)

end Settings

end TraefikUpgrade.Kubernetes
