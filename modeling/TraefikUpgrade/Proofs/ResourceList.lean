import TraefikUpgrade.ResourceList

/-!
Contract: which documents hold items, and what taking the Ingresses out leaves.

Owns: the condition under which a document is taken apart, the parts that it is
taken apart into, and what the list that is left says about itself: it is still
a list, with an Ingress neither among its items nor in itself.

Does not own: what becomes of the documents (`TraefikUpgrade.Proofs.Manifest`).
-/

set_option autoImplicit false

namespace TraefikUpgrade

open Yaml (Value)

namespace Yaml.Value

theorem entryOf?_replaceEntry_same {name : String} {replacement : Value}
    {entries : List (Value × Value)} (present : (entryOf? name entries).isSome) :
    entryOf? name (replaceEntry name replacement entries) = some replacement := by
  induction entries with
  | nil => cases present
  | cons entry rest inductionHypothesis =>
      obtain ⟨key, value⟩ := entry
      rw [replaceEntry]
      by_cases isKey : key = .string name
      · rw [if_pos isKey, isKey, entryOf?, if_pos rfl]
      · rw [if_neg isKey]
        cases key with
        | string text =>
            have different : text ≠ name := fun same => isKey (same ▸ rfl)
            rw [entryOf?, if_neg different] at present ⊢
            exact inductionHypothesis present
        | _ =>
            rw [entryOf?] at present ⊢
            · exact inductionHypothesis present
            all_goals simp

theorem entryOf?_replaceEntry_other {name other : String} (different : other ≠ name)
    (replacement : Value) (entries : List (Value × Value)) :
    entryOf? other (replaceEntry name replacement entries) = entryOf? other entries := by
  induction entries with
  | nil => rfl
  | cons entry rest inductionHypothesis =>
      obtain ⟨key, value⟩ := entry
      rw [replaceEntry]
      by_cases isKey : key = .string name
      · rw [if_pos isKey, isKey, entryOf?, entryOf?, if_neg different.symm, if_neg different.symm]
      · rw [if_neg isKey]
        cases key with
        | string text => rw [entryOf?, entryOf?, inductionHypothesis]
        | _ =>
            rw [entryOf?, entryOf?]
            · exact inductionHypothesis
            all_goals simp

end Yaml.Value

namespace ResourceType

theorem isIngress_iff {type : ResourceType} :
    type.isIngress = true ↔
      type.kind = "Ingress" ∧
        type.apiVersion ∈
          ["extensions/v1beta1", "networking.k8s.io/v1beta1", "networking.k8s.io/v1"] := by
  unfold isIngress
  rw [Bool.and_eq_true, decide_eq_true_iff, List.contains_iff_mem]
  rfl

theorem ofValue?_mapping (entries : List (Value × Value)) :
    ofValue? (.mapping entries) =
      ((Value.entryOf? "apiVersion" entries).bind Value.text?).bind fun apiVersion =>
        ((Value.entryOf? "kind" entries).bind Value.text?).map fun kind => ⟨apiVersion, kind⟩ := by
  have field (name : String) :
      (Value.mapping entries).field? name = Value.entryOf? name entries := rfl
  unfold ofValue?
  rw [field, field]
  simp only [Option.bind_eq_bind, Option.pure_def, Option.bind_assoc, Option.map_eq_bind]
  rfl

theorem kind_of_ofValue? {entries : List (Value × Value)} {type : ResourceType} {kind : String}
    (named : ofValue? (.mapping entries) = some type)
    (kindEntry : (Value.entryOf? "kind" entries).bind Value.text? = some kind) :
    type.kind = kind := by
  rw [ofValue?_mapping, kindEntry] at named
  obtain ⟨version, -, isType⟩ := Option.bind_eq_some_iff.1 named
  cases isType
  rfl

end ResourceType

namespace Resource

/-- Only a value of a known Ingress type can be read as an Ingress. -/
theorem ingress?_ofValue_eq_none {value : Value}
    (otherKind : ∀ type, ResourceType.ofValue? value = some type → type.isIngress = false) :
    (ofValue value).ingress? = none := by
  unfold ofValue
  cases named : ResourceType.ofValue? value with
  | none => rfl
  | some type => simp [otherKind type named, ingress?]

end Resource

namespace ResourceList

/-- A value names the kind and a known version of an Ingress. -/
def IsKnownIngress (value : Value) : Prop :=
  ∃ type, ResourceType.ofValue? value = some type ∧
    type.kind = "Ingress" ∧
    type.apiVersion ∈ ["extensions/v1beta1", "networking.k8s.io/v1beta1", "networking.k8s.io/v1"]

theorem isIngress_iff {item : Value} : isIngress item = true ↔ IsKnownIngress item := by
  unfold isIngress IsKnownIngress
  rw [Option.any_eq_true]
  simp only [ResourceType.isIngress_iff]

instance (value : Value) : Decidable (IsKnownIngress value) :=
  decidable_of_iff (isIngress value = true) isIngress_iff

theorem isIngress_eq_decide (item : Value) : isIngress item = decide (IsKnownIngress item) := by
  rw [Bool.eq_iff_iff, decide_eq_true_iff, isIngress_iff]

theorem filter_isIngress (items : List Value) :
    items.filter isIngress = items.filter fun item => IsKnownIngress item :=
  List.filter_congr fun item _ => isIngress_eq_decide item

theorem filter_not_isIngress (items : List Value) :
    (items.filter fun item => !isIngress item) = items.filter fun item => ¬IsKnownIngress item :=
  List.filter_congr fun item _ => by rw [isIngress_eq_decide, decide_not]

/-- Every item stays or is taken out, and none is both. -/
theorem filter_append_perm (items : List Value) :
    ((items.filter fun item => ¬IsKnownIngress item) ++
      items.filter fun item => IsKnownIngress item).Perm items := by
  simp only [decide_not]
  exact List.perm_append_comm.trans (List.filter_append_perm _ _)

/-- A document is a mapping without a tag, its kind ends in `List`, and there is an Ingress of a
known version among its items. -/
structure HoldsItems (document : String) (entries : List (Value × Value)) (items : List Value) :
    Prop where
  parsed : Yaml.parse document = some (.mapping entries)
  listKind : ∃ kind, (Value.entryOf? "kind" entries).bind Value.text? = some kind ∧
    "List".toList <:+ kind.toList
  itemsEntry : (Value.entryOf? "items" entries).bind Value.items? = some items
  hasIngress : ∃ item ∈ items, IsKnownIngress item

theorem items?_eq_some_iff {entries : List (Value × Value)} {items : List Value} :
    items? entries = some items ↔
      (∃ kind, (Value.entryOf? "kind" entries).bind Value.text? = some kind ∧
        "List".toList <:+ kind.toList) ∧
      (Value.entryOf? "items" entries).bind Value.items? = some items := by
  have steps : items? entries =
      ((Value.entryOf? "kind" entries).bind Value.text?).bind fun kind =>
        if endsWith kindEnding kind then (Value.entryOf? itemsKey entries).bind Value.items?
        else none := by
    unfold items?
    cases Value.entryOf? "kind" entries with
    | none => rfl
    | some value => cases value.text? <;> rfl
  have ends (kind : String) : endsWith kindEnding kind = true ↔ "List".toList <:+ kind.toList :=
    List.isSuffixOf_iff_suffix
  rw [steps, Option.bind_eq_some_iff]
  simp only [Option.ite_none_right_eq_some, ends, ← and_assoc, exists_and_right]
  rfl

/-- A document is taken apart exactly when it holds items: into the Ingresses among them in their
order, and the others in theirs. -/
theorem parts?_eq_some_iff {document : String} {parts : Parts} :
    parts? document = some parts ↔
      ∃ items, HoldsItems document parts.entries items ∧
        parts.ingresses = items.filter (fun item => IsKnownIngress item) ∧
        parts.kept = items.filter fun item => ¬IsKnownIngress item := by
  unfold parts?
  simp only [filter_isIngress, filter_not_isIngress, List.isEmpty_iff]
  constructor
  · intro taken
    split at taken
    · rename_i entries parsed
      cases listed : items? entries with
      | none => simp [listed] at taken
      | some items =>
          obtain ⟨listKind, itemsEntry⟩ := items?_eq_some_iff.1 listed
          rw [listed] at taken
          by_cases noIngress : items.filter (fun item => decide (IsKnownIngress item)) = []
          · simp only [Option.bind_eq_bind, Option.bind_some, noIngress, if_true] at taken
            cases taken
          · simp only [Option.bind_eq_bind, Option.bind_some, noIngress, if_false,
              Option.some.injEq] at taken
            subst taken
            obtain ⟨item, member⟩ := List.exists_mem_of_ne_nil _ noIngress
            obtain ⟨isItem, isKnown⟩ := List.mem_filter.1 member
            exact ⟨items, ⟨parsed, listKind, itemsEntry, item, isItem, of_decide_eq_true isKnown⟩,
              rfl, rfl⟩
    · cases taken
  · rintro ⟨items, holds, ingresses, kept⟩
    obtain ⟨item, member, isKnown⟩ := holds.hasIngress
    have listed := items?_eq_some_iff.2 ⟨holds.listKind, holds.itemsEntry⟩
    have someIngress : items.filter (fun item => decide (IsKnownIngress item)) ≠ [] :=
      List.ne_nil_of_mem (List.mem_filter.2 ⟨member, decide_eq_true isKnown⟩)
    simp only [holds.parsed, listed, Option.bind_eq_bind, Option.bind_some, someIngress, if_false,
      Option.some.injEq]
    rw [← ingresses, ← kept]

theorem parts?_eq_none_iff {document : String} :
    parts? document = none ↔ ∀ entries items, ¬HoldsItems document entries items := by
  constructor
  · intro whole entries items holds
    have taken : parts? document = some
        { entries
          ingresses := items.filter fun item => IsKnownIngress item
          kept := items.filter fun item => ¬IsKnownIngress item } :=
      parts?_eq_some_iff.2 ⟨items, holds, rfl, rfl⟩
    rw [whole] at taken
    cases taken
  · intro holdsNone
    cases taken : parts? document with
    | none => rfl
    | some parts =>
        obtain ⟨items, holds, _⟩ := parts?_eq_some_iff.1 taken
        exact absurd holds (holdsNone _ _)

/-! ### What is left of a list -/

/-- A document whose kind is not that of a list is not taken apart. -/
theorem parts?_eq_none_of_kind {document : String} {value : Value} {type : ResourceType}
    (parsed : Yaml.parse document = some value)
    (named : ResourceType.ofValue? value = some type)
    (notList : ¬"List".toList <:+ type.kind.toList) : parts? document = none := by
  rw [parts?_eq_none_iff]
  intro entries items holds
  obtain ⟨kind, kindEntry, endsInList⟩ := holds.listKind
  have isMapping : value = .mapping entries := by
    rw [holds.parsed] at parsed
    exact (Option.some.inj parsed).symm
  rw [isMapping] at named
  rw [ResourceType.kind_of_ofValue? named kindEntry] at notList
  exact notList endsInList

theorem parts?_eq_none_of_isIngress {document : String} {value : Value}
    (parsed : Yaml.parse document = some value) (isKnown : isIngress value = true) :
    parts? document = none := by
  obtain ⟨type, named, isIngressKind, _⟩ := isIngress_iff.1 isKnown
  refine parts?_eq_none_of_kind parsed named ?_
  rw [isIngressKind]
  decide

theorem parts?_eq_none_of_ingress? {document : String} {ingress : Kubernetes.Ingress}
    (read : (Resource.ofText document).ingress? = some ingress) : parts? document = none := by
  unfold Resource.ofText at read
  cases parsed : Yaml.parse document with
  | none =>
      rw [parsed] at read
      cases read
  | some value =>
      rw [parsed] at read
      refine parts?_eq_none_of_isIngress parsed ?_
      by_cases isKnown : isIngress value = true
      · exact isKnown
      · have noIngress : (Resource.ofValue value).ingress? = none := by
          apply Resource.ingress?_ofValue_eq_none
          intro type named
          unfold isIngress at isKnown
          simpa [named] using isKnown
        simp only [noIngress] at read
        cases read

/-- The entries of the list that is left of one that is taken apart. -/
def Parts.left (parts : Parts) : List (Value × Value) :=
  Value.replaceEntry itemsKey (.sequence parts.kept) parts.entries

variable {document left : String} {parts : Parts}

theorem itemsEntry_left (taken : parts? document = some parts) :
    (Value.entryOf? itemsKey parts.left).bind Value.items? = some parts.kept := by
  obtain ⟨items, holds, _⟩ := parts?_eq_some_iff.1 taken
  obtain ⟨value, isEntry, _⟩ := Option.bind_eq_some_iff.1 holds.itemsEntry
  have present : (Value.entryOf? itemsKey parts.entries).isSome := Option.isSome_of_mem isEntry
  unfold Parts.left
  rw [Value.entryOf?_replaceEntry_same present]
  rfl

theorem kindEntry_left (taken : parts? document = some parts) :
    ∃ kind, (Value.entryOf? "kind" parts.left).bind Value.text? = some kind ∧
      "List".toList <:+ kind.toList := by
  obtain ⟨items, holds, _⟩ := parts?_eq_some_iff.1 taken
  unfold Parts.left
  rw [Value.entryOf?_replaceEntry_other (by decide)]
  exact holds.listKind

/-- The list that is left is not taken apart again. -/
theorem parts?_left (taken : parts? document = some parts)
    (parsed : Yaml.parse left = some (.mapping parts.left)) : parts? left = none := by
  rw [parts?_eq_none_iff]
  intro entries others holds
  have sameEntries : entries = parts.left :=
    Value.mapping.inj (Option.some.inj (holds.parsed.symm.trans parsed))
  have areKept : some others = some parts.kept := by
    rw [← itemsEntry_left taken, ← sameEntries]
    exact holds.itemsEntry.symm
  obtain ⟨items, _, _, kept⟩ := parts?_eq_some_iff.1 taken
  obtain ⟨item, member, isKnown⟩ := holds.hasIngress
  rw [Option.some.inj areKept, kept] at member
  exact of_decide_eq_true (List.mem_filter.1 member).2 isKnown

/-- The list that is left is a resource of another type if it names its version, and without a
type otherwise. -/
theorem ofText_left (taken : parts? document = some parts)
    (parsed : Yaml.parse left = some (.mapping parts.left)) :
    ∃ kind, "List".toList <:+ kind.toList ∧
      Resource.ofText left =
        match (Value.entryOf? "apiVersion" parts.entries).bind Value.text? with
        | some apiVersion => .other ⟨apiVersion, kind⟩
        | none => .unreadable .untyped := by
  obtain ⟨kind, kindEntry, endsInList⟩ := kindEntry_left taken
  have sameVersion : (Value.entryOf? "apiVersion" parts.left).bind Value.text? =
      (Value.entryOf? "apiVersion" parts.entries).bind Value.text? := by
    unfold Parts.left
    rw [Value.entryOf?_replaceEntry_other (by decide)]
  have notIngress (apiVersion : String) :
      (⟨apiVersion, kind⟩ : ResourceType).isIngress = false := by
    rw [Bool.eq_false_iff, Ne, ResourceType.isIngress_iff]
    rintro ⟨isIngressKind, -⟩
    dsimp only at isIngressKind
    rw [isIngressKind] at endsInList
    exact absurd endsInList (by decide)
  refine ⟨kind, endsInList, ?_⟩
  unfold Resource.ofText Resource.ofValue
  rw [parsed]
  dsimp only
  rw [ResourceType.ofValue?_mapping, kindEntry, sameVersion]
  cases (Value.entryOf? "apiVersion" parts.entries).bind Value.text? with
  | none => rfl
  | some apiVersion => simp [notIngress]

theorem ingress?_left (taken : parts? document = some parts)
    (parsed : Yaml.parse left = some (.mapping parts.left)) :
    (Resource.ofText left).ingress? = none := by
  obtain ⟨kind, -, isResource⟩ := ofText_left taken parsed
  rw [isResource]
  cases (Value.entryOf? "apiVersion" parts.entries).bind Value.text? with
  | none => rfl
  | some version => rfl

/-- What is taken out of a document is not taken apart again. -/
theorem parts?_of_mem_extract {fragment : String}
    (readBack : ∀ parts, parts? fragment = some parts →
      ∀ value ∈ parts.documents, Yaml.parse (Yaml.render value) = some value)
    (isExtract : document ∈ (extract fragment).value) : parts? document = none := by
  unfold extract at isExtract
  cases taken : parts? fragment with
  | none =>
      rw [taken] at isExtract
      rw [List.mem_singleton.1 isExtract]
      exact taken
  | some parts =>
      rw [taken] at isExtract
      obtain ⟨value, isPart, rfl⟩ := List.mem_map.1 isExtract
      have parsed := readBack parts taken value isPart
      rcases List.mem_append.1 isPart with isLeft | isIngress
      · unfold Parts.rest at isLeft
        split at isLeft
        · cases isLeft
        · rw [List.mem_singleton.1 isLeft] at parsed ⊢
          exact parts?_left taken parsed
      · obtain ⟨items, _, ingresses, _⟩ := parts?_eq_some_iff.1 taken
        rw [ingresses, ← filter_isIngress] at isIngress
        exact parts?_eq_none_of_isIngress parsed (List.mem_filter.1 isIngress).2

end ResourceList

end TraefikUpgrade
