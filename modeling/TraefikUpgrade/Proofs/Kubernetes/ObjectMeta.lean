import TraefikUpgrade.Kubernetes.ObjectMeta
import TraefikUpgrade.Proofs.Kubernetes.Fields
import TraefikUpgrade.Proofs.Timestamp

/-!
Contract: metadata is read back from what is written for it.

Owns: the values without tags that are read as they are, the metadata that a
reading can give, and the metadata that is read from what is written for it: it
is the same, except that a null among the fields of a manager is not there.

Does not own: the reading of single fields (`TraefikUpgrade.Kubernetes.Fields`).
-/

set_option autoImplicit false

namespace TraefikUpgrade.Kubernetes

open Yaml (Value)

/-! ### Values without tags -/

/-- Fields in ascending order of their names, none of which stands twice. -/
def AscendingNames (fields : Fields) : Prop :=
  fields.Pairwise fun first second => first.1 < second.1

theorem mem_insertField {name : String} {value : Value} {fields : Fields} {field : String × Value}
    (member : field ∈ insertField name value fields) : field = (name, value) ∨ field ∈ fields := by
  induction fields with
  | nil => simpa [insertField] using member
  | cons head rest inductionHypothesis =>
      rw [insertField] at member
      split at member
      · simpa using member
      · split at member
        · rcases List.mem_cons.1 member with inserted | kept
          · exact .inl inserted
          · exact .inr (List.mem_cons_of_mem _ kept)
        · rcases List.mem_cons.1 member with isHead | later
          · exact .inr (isHead ▸ List.mem_cons_self)
          · exact (inductionHypothesis later).imp_right (List.mem_cons_of_mem _)

theorem ascendingNames_insertField (name : String) (value : Value) {fields : Fields}
    (ascending : AscendingNames fields) : AscendingNames (insertField name value fields) := by
  induction fields with
  | nil => exact List.pairwise_singleton _ _
  | cons head rest inductionHypothesis =>
      obtain ⟨headBelow, restAscending⟩ := List.pairwise_cons.1 ascending
      rw [insertField]
      split
      · rename_i below
        refine List.pairwise_cons.2 ⟨?_, ascending⟩
        exact List.forall_mem_cons.2
          ⟨below, fun field member => String.lt_trans below (headBelow field member)⟩
      · split
        · rename_i same
          exact List.pairwise_cons.2 ⟨fun field member => same ▸ headBelow field member, restAscending⟩
        · rename_i notBelow different
          have above : head.1 < name := by
            refine Decidable.byContradiction fun notAbove => different ?_
            exact String.le_antisymm (String.not_lt.1 notAbove) (String.not_lt.1 notBelow)
          refine List.pairwise_cons.2 ⟨fun field member => ?_, inductionHypothesis restAscending⟩
          rcases mem_insertField member with rfl | later
          · exact above
          · exact headBelow field later

theorem insertField_of_below {name : String} {value : Value} {fields : Fields}
    (below : ∀ field ∈ fields, name < field.1) :
    insertField name value fields = (name, value) :: fields := by
  cases fields with
  | nil => rfl
  | cons head rest => rw [insertField, if_pos (below head List.mem_cons_self)]

theorem untypedFields?_eq_self {fields : Fields} (ascending : AscendingNames fields)
    (fixed : ∀ field ∈ fields, untyped? field.2 = some field.2) :
    untypedFields? (fields.map fun (name, value) => (.string name, value)) = some fields := by
  induction fields with
  | nil => rfl
  | cons head rest inductionHypothesis =>
      obtain ⟨headBelow, restAscending⟩ := List.pairwise_cons.1 ascending
      obtain ⟨headFixed, restFixed⟩ := List.forall_mem_cons.1 fixed
      rw [List.map_cons, untypedFields?, headFixed, inductionHypothesis restAscending restFixed]
      exact congrArg some (insertField_of_below headBelow)

mutual

/-- A value without tags is read as it is. -/
theorem untyped?_of_untyped? : ∀ {value plain : Value},
    untyped? value = some plain → untyped? plain = some plain
  | .null, plain, reads => by
      obtain rfl := Option.some.inj reads
      rfl
  | .bool _, plain, reads => by
      obtain rfl := Option.some.inj reads
      rfl
  | .integer _, plain, reads => by
      obtain rfl := Option.some.inj reads
      rfl
  | .string _, plain, reads => by
      obtain rfl := Option.some.inj reads
      rfl
  | .float number, plain, reads => by
      obtain rfl := Option.some.inj reads
      by_cases finite : number.isFinite = true
      · rw [if_pos finite, untyped?, if_pos finite]
      · rw [if_neg finite]
        rfl
  | .sequence items, plain, reads => by
      obtain ⟨plainItems, ofItems, same⟩ := Option.bind_eq_some_iff.1 reads
      obtain rfl := Option.some.inj same
      rw [untyped?, untypedItems?_of_untypedItems? ofItems]
      rfl
  | .mapping entries, plain, reads => by
      obtain ⟨fields, ofEntries, same⟩ := Option.bind_eq_some_iff.1 reads
      obtain rfl := Option.some.inj same
      obtain ⟨ascending, fixed⟩ := untypedFields?_fixed ofEntries
      rw [ofFields, untyped?, untypedFields?_eq_self ascending fixed]
      rfl

theorem untypedItems?_of_untypedItems? : ∀ {items plain : List Value},
    untypedItems? items = some plain → untypedItems? plain = some plain
  | [], plain, reads => by
      obtain rfl := Option.some.inj reads
      rfl
  | item :: rest, plain, reads => by
      obtain ⟨plainItem, ofItem, reads⟩ := Option.bind_eq_some_iff.1 reads
      obtain ⟨plainRest, ofRest, same⟩ := Option.bind_eq_some_iff.1 reads
      obtain rfl := Option.some.inj same
      rw [untypedItems?, untyped?_of_untyped? ofItem, untypedItems?_of_untypedItems? ofRest]
      rfl

theorem untypedFields?_fixed : ∀ {entries : List (Value × Value)} {fields : Fields},
    untypedFields? entries = some fields →
      AscendingNames fields ∧ ∀ field ∈ fields, untyped? field.2 = some field.2
  | [], fields, reads => by
      obtain rfl := Option.some.inj reads
      exact ⟨List.Pairwise.nil, by simp⟩
  | (.string name, value) :: rest, fields, reads => by
      obtain ⟨plain, ofValue, reads⟩ := Option.bind_eq_some_iff.1 reads
      obtain ⟨following, ofRest, same⟩ := Option.bind_eq_some_iff.1 reads
      obtain rfl := Option.some.inj same
      obtain ⟨ascending, fixed⟩ := untypedFields?_fixed ofRest
      refine ⟨ascendingNames_insertField name plain ascending, fun field member => ?_⟩
      rcases mem_insertField member with rfl | later
      · exact untyped?_of_untyped? ofValue
      · exact fixed field later

end

/-! ### Points in time -/

theorem readsAs_timestamp {timestamp : Timestamp} (valid : timestamp.IsValid) :
    ReadsAs timestamp? (ofTimestamp timestamp) timestamp := by
  have text : Value.text? (ofTimestamp timestamp) = some timestamp.text := rfl
  refine ⟨nofun, ?_⟩
  rw [timestamp?, text, Option.bind_some, Timestamp.ofText?_text valid]

theorem readIfSet_timestamp {timestamp : Option Timestamp}
    (valid : ∀ set ∈ timestamp, set.IsValid) :
    readIfSet timestamp? (timestamp.map ofTimestamp) = some timestamp :=
  readIfSet_map_self fun set isSet => readsAs_timestamp (valid set isSet)

theorem isValid_of_timestamp? {value : Value} {timestamp : Timestamp}
    (reads : timestamp? value = some timestamp) : timestamp.IsValid := by
  obtain ⟨text, -, ofText⟩ := Option.bind_eq_some_iff.1 reads
  exact Timestamp.isValid_of_ofText? ofText

/-! ### Fields of a manager -/

/-- What a reading can give for the fields that a manager has set. -/
structure ManagedFields.IsReadable (managed : ManagedFields) : Prop where
  untyped : ∀ value ∈ managed.fieldsV1, untyped? value = some value
  time : ∀ time ∈ managed.time, time.IsValid

/-- Null is no value when it is read again. -/
def ManagedFields.withoutNull (managed : ManagedFields) : ManagedFields :=
  { managed with fieldsV1 := managed.fieldsV1.filter fun value => value ≠ .null }

theorem readIfSet_untyped {value : Option Value}
    (fixed : ∀ set ∈ value, untyped? set = some set) :
    readIfSet untyped? value = some (value.filter fun set => set ≠ .null) := by
  cases value with
  | none => rfl
  | some value =>
      by_cases isNull : value = .null
      · rw [isNull]
        rfl
      · rw [readIfSet, fixed value rfl]
        · simp [Option.filter, isNull]
        · exact isNull

theorem ManagedFields.ofValue?_toValue {managed : ManagedFields} (readable : managed.IsReadable)
    (nullObject : NullObject) : ofValue? nullObject managed.toValue = some managed.withoutNull := by
  rw [ofValue?, toValue, bind_eq_some_iff]
  refine ⟨_, object?_ofFields nullObject _, ?_⟩
  simp [↓bind_eq_some_iff, Fields.optional_eq_readIfSet, readIfSet_untyped readable.untyped,
    readIfSet_timestamp readable.time, withoutNull]

theorem ManagedFields.isReadable_of_ofValue? {nullObject : NullObject} {value : Value}
    {managed : ManagedFields} (reads : ofValue? nullObject value = some managed) :
    managed.IsReadable := by
  simp only [ofValue?, ↓bind_eq_some_iff] at reads
  obtain ⟨fields, -, _, -, _, -, _, ofFieldsV1, _, -, _, -, _, -, _, ofTime, ⟨⟩⟩ := reads
  exact
    { untyped := forall_of_optional untyped?_of_untyped? ofFieldsV1
      time := forall_of_optional isValid_of_timestamp? ofTime }

theorem OwnerReference.ofValue?_toValue (reference : OwnerReference) (nullObject : NullObject) :
    ofValue? nullObject reference.toValue = some reference := by
  rw [ofValue?, toValue, bind_eq_some_iff]
  refine ⟨_, object?_ofFields nullObject _, ?_⟩
  simp [↓bind_eq_some_iff, Fields.orDefault, Fields.optional_eq_readIfSet]

/-! ### Metadata -/

namespace ObjectMeta

/-- What a reading can give for metadata. -/
structure IsReadable (metadata : ObjectMeta) : Prop where
  creationTimestamp : ∀ timestamp ∈ metadata.creationTimestamp, timestamp.IsValid
  deletionGracePeriodSeconds :
    ∀ seconds ∈ metadata.deletionGracePeriodSeconds, Decimal.isInt64 seconds = true
  deletionTimestamp : ∀ timestamp ∈ metadata.deletionTimestamp, timestamp.IsValid
  generation : ∀ number ∈ metadata.generation, Decimal.isInt64 number = true
  managedFields : ∀ managers ∈ metadata.managedFields, ∀ managed ∈ managers, managed.IsReadable

/-- The metadata without the nulls among the fields of its managers. -/
def withoutNulls (metadata : ObjectMeta) : ObjectMeta :=
  { metadata with managedFields := metadata.managedFields.map (·.map ManagedFields.withoutNull) }

theorem ofValue?_toValue {metadata : ObjectMeta} (readable : metadata.IsReadable)
    (nullObject : NullObject) : ofValue? nullObject metadata.toValue = some metadata.withoutNulls := by
  have managers : readIfSet (list? nullObject (ManagedFields.ofValue? nullObject))
      (metadata.managedFields.map (ofList ManagedFields.toValue)) =
        some (metadata.managedFields.map (·.map ManagedFields.withoutNull)) :=
    readIfSet_map fun managers isSet => readsAs_list
      (fun managed member => ManagedFields.ofValue?_toValue
        (readable.managedFields managers isSet managed member) nullObject) nullObject
  have owners : readIfSet (list? nullObject (OwnerReference.ofValue? nullObject))
      (metadata.ownerReferences.map (ofList OwnerReference.toValue)) =
        some metadata.ownerReferences := by
    refine readIfSet_map_self fun references _ => ⟨nofun, mapM_map_eq_self fun reference _ => ?_⟩
    exact reference.ofValue?_toValue nullObject
  rw [ofValue?, toValue, bind_eq_some_iff]
  refine ⟨_, object?_ofFields nullObject _, ?_⟩
  simp [↓bind_eq_some_iff, Fields.optional_eq_readIfSet, readIfSet_timestamp readable.creationTimestamp,
    readIfSet_timestamp readable.deletionTimestamp,
    readIfSet_int64 readable.deletionGracePeriodSeconds, readIfSet_int64 readable.generation,
    managers, owners, withoutNulls]

theorem isReadable_of_ofValue? {nullObject : NullObject} {value : Value} {metadata : ObjectMeta}
    (reads : ofValue? nullObject value = some metadata) : metadata.IsReadable := by
  simp only [ofValue?, ↓bind_eq_some_iff] at reads
  obtain ⟨fields, -, _, -, _, ofCreation, _, ofGrace, _, ofDeletion, _, -, _, -, _, ofGeneration, _, -,
    _, ofManagers, _, -, _, -, _, -, _, -, _, -, _, -, ⟨⟩⟩ := reads
  exact
    { creationTimestamp := forall_of_optional isValid_of_timestamp? ofCreation
      deletionGracePeriodSeconds := forall_of_optional isInt64_of_int64? ofGrace
      deletionTimestamp := forall_of_optional isValid_of_timestamp? ofDeletion
      generation := forall_of_optional isInt64_of_int64? ofGeneration
      managedFields := forall_of_optional
        (forall_of_list? ManagedFields.isReadable_of_ofValue?) ofManagers }

end ObjectMeta

end TraefikUpgrade.Kubernetes
