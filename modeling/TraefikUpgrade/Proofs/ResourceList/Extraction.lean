import TraefikUpgrade.Proofs.ResourceList

/-!
Contract: what is taken out of a list, and how it is read afterwards.

Owns: the reasons for which a document stays whole, the division of every other
one into the entries around its items, the items that stay and those that are
taken out, and the agreement between the test of an item and the
classification of a document.

Does not own: that a written document is read as its value, which is assumed
for the documents that are written here.
-/

set_option autoImplicit false

namespace TraefikUpgrade

open Yaml (Value)

/-! ### The place of an entry -/

namespace Yaml.Value

theorem exists_place {name : String} {value : Value} {entries : List (Value × Value)}
    (isEntry : entryOf? name entries = some value) :
    ∃ before after, entries = before ++ (.string name, value) :: after ∧
      ∀ entry ∈ before, entry.1 ≠ .string name := by
  induction entries with
  | nil => cases isEntry
  | cons entry rest inductionHypothesis =>
      obtain ⟨key, first⟩ := entry
      by_cases isKey : key = .string name
      · rw [isKey, entryOf?, if_pos rfl] at isEntry
        cases isEntry
        exact ⟨[], rest, by rw [isKey]; rfl, by simp⟩
      · have later : entryOf? name rest = some value := by
          -- keys that are not text are passed over
          cases key with
          | string text =>
              have different : text ≠ name := fun same => isKey (same ▸ rfl)
              rwa [entryOf?, if_neg different] at isEntry
          | _ =>
              rw [entryOf?] at isEntry
              · exact isEntry
              · simp
        obtain ⟨before, after, place, noneBefore⟩ := inductionHypothesis later
        refine ⟨(key, first) :: before, after, by rw [place]; rfl, ?_⟩
        exact List.forall_mem_cons.2 ⟨isKey, noneBefore⟩

/-- A new value for an entry leaves everything before and after the entry in its place. -/
theorem replaceEntry_place {name : String} {before after : List (Value × Value)}
    (noneBefore : ∀ entry ∈ before, entry.1 ≠ .string name) (value replacement : Value) :
    replaceEntry name replacement (before ++ (.string name, value) :: after) =
      before ++ (.string name, replacement) :: after := by
  induction before with
  | nil => simp [replaceEntry]
  | cons entry rest inductionHypothesis =>
      obtain ⟨otherKey, restNone⟩ := List.forall_mem_cons.1 noneBefore
      rw [List.cons_append, replaceEntry, if_neg otherKey, inductionHypothesis restNone]
      rfl

end Yaml.Value

/-! ### Classification -/

/-- The resource is an Ingress, or says to be one without having the fields of its version. -/
def Resource.IsIngressLike : Resource → Prop
  | .legacyIngress _ => True
  | .ingress _ => True
  | .unreadable (.mismatched _) => True
  | _ => False

theorem Resource.isIngressLike_ofIngressValue (type : ResourceType) (value : Value) :
    (ofIngressValue type value).IsIngressLike := by
  unfold ofIngressValue
  dsimp only
  split
  · cases Kubernetes.LegacyIngress.ofValue? value with
    | none => trivial
    | some legacy => trivial
  · cases Kubernetes.Ingress.ofValue? .empty value with
    | none => trivial
    | some current => trivial

namespace ResourceList

/-- The test of an item and the classification of a document agree on every value. -/
theorem isKnownIngress_iff_isIngressLike {value : Value} :
    IsKnownIngress value ↔ (Resource.ofValue value).IsIngressLike := by
  rw [← isIngress_iff]
  unfold isIngress Resource.ofValue
  cases ResourceType.ofValue? value with
  | none => simp [Resource.IsIngressLike]
  | some type =>
      cases isKnown : type.isIngress with
      | true => simp [isKnown, Resource.isIngressLike_ofIngressValue]
      | false => simp [isKnown, Resource.IsIngressLike]

/-- Why a document is not taken apart. -/
inductive StaysWhole (document : String) : Prop where
  | unreadable (noValue : Yaml.parse document = none)
  /-- The value is no mapping, or one with a tag. -/
  | noMapping {value : Value} (parsed : Yaml.parse document = some value)
      (other : ∀ entries, value ≠ .mapping entries)
  /-- The kind is no text that ends in `List`. -/
  | noListKind {entries : List (Value × Value)}
      (parsed : Yaml.parse document = some (.mapping entries))
      (otherKind : ∀ kind, (Value.entryOf? "kind" entries).bind Value.text? = some kind →
        ¬"List".toList <:+ kind.toList)
  | noItems {entries : List (Value × Value)}
      (parsed : Yaml.parse document = some (.mapping entries))
      (noSequence : (Value.entryOf? "items" entries).bind Value.items? = none)
  | noIngress {entries : List (Value × Value)} {items : List Value}
      (parsed : Yaml.parse document = some (.mapping entries))
      (itemsEntry : (Value.entryOf? "items" entries).bind Value.items? = some items)
      (others : ∀ item ∈ items, ¬IsKnownIngress item)

theorem staysWhole_iff {document : String} :
    StaysWhole document ↔ ∀ entries items, ¬HoldsItems document entries items := by
  constructor
  · intro stays entries items holds
    obtain ⟨kind, kindEntry, endsInList⟩ := holds.listKind
    obtain ⟨item, member, isKnown⟩ := holds.hasIngress
    cases stays with
    | unreadable noValue =>
        rw [holds.parsed] at noValue
        cases noValue
    | noMapping parsed other =>
        rw [holds.parsed] at parsed
        exact other entries (Option.some.inj parsed).symm
    | noListKind parsed otherKind =>
        rw [holds.parsed] at parsed
        cases parsed
        exact otherKind kind kindEntry endsInList
    | noItems parsed noSequence =>
        rw [holds.parsed] at parsed
        cases parsed
        rw [holds.itemsEntry] at noSequence
        cases noSequence
    | noIngress parsed itemsEntry others =>
        rw [holds.parsed] at parsed
        cases parsed
        rw [holds.itemsEntry] at itemsEntry
        cases itemsEntry
        exact others item member isKnown
  · intro holdsNone
    cases parsed : Yaml.parse document with
    | none => exact .unreadable parsed
    | some value =>
        by_cases isMapping : ∃ entries, value = .mapping entries
        · obtain ⟨entries, rfl⟩ := isMapping
          cases itemsEntry : (Value.entryOf? "items" entries).bind Value.items? with
          | none => exact .noItems parsed itemsEntry
          | some items =>
              by_cases listKind : ∃ kind,
                  (Value.entryOf? "kind" entries).bind Value.text? = some kind ∧
                    "List".toList <:+ kind.toList
              · refine .noIngress parsed itemsEntry fun item member isKnown => ?_
                exact holdsNone entries items ⟨parsed, listKind, itemsEntry, item, member, isKnown⟩
              · exact .noListKind parsed fun kind kindEntry endsInList =>
                  listKind ⟨kind, kindEntry, endsInList⟩
        · exact .noMapping parsed fun entries same => isMapping ⟨entries, same⟩

/-! ### Division -/

/-- A list with its entries around the items, and the items apart by what becomes of them. -/
structure Division where
  before : List (Value × Value)
  /-- The entry of the items as it stands. -/
  listed : Value
  after : List (Value × Value)
  items : List Value
  kept : List Value
  ingresses : List Value
deriving DecidableEq, Repr

namespace Division

/-- The entries of the list with another value for its items. -/
def entries (division : Division) (listed : Value) : List (Value × Value) :=
  division.before ++ (.string "items", listed) :: division.after

/-- The list that is left: everything is in its place, and the items are those that stay. -/
def left (division : Division) : Value :=
  .mapping (division.entries (.sequence division.kept))

/-- What is written: the list that is left, unless it holds nothing, and each Ingress. -/
def written (division : Division) : List Value :=
  (if division.kept = [] then [] else [division.left]) ++ division.ingresses

/-- The division is that of a document: it holds the items, and both kinds of items keep their
order. -/
structure IsOf (division : Division) (document : String) : Prop where
  holds : HoldsItems document (division.entries division.listed) division.items
  listed : division.listed.items? = some division.items
  firstEntry : ∀ entry ∈ division.before, entry.1 ≠ .string "items"
  kept : division.kept = division.items.filter fun item => ¬IsKnownIngress item
  ingresses : division.ingresses = division.items.filter fun item => IsKnownIngress item

/-- The parts of the list that the division describes. -/
def parts (division : Division) : Parts where
  entries := division.entries division.listed
  ingresses := division.ingresses
  kept := division.kept

namespace IsOf

variable {division : Division} {document : String} (isOf : division.IsOf document)

include isOf

theorem taken : parts? document = some division.parts :=
  parts?_eq_some_iff.2 ⟨division.items, isOf.holds, isOf.ingresses, isOf.kept⟩

theorem perm : (division.kept ++ division.ingresses).Perm division.items := by
  rw [isOf.kept, isOf.ingresses]
  exact filter_append_perm division.items

theorem left_eq : division.left = .mapping division.parts.left :=
  congrArg Value.mapping
    (Value.replaceEntry_place isOf.firstEntry division.listed (.sequence division.kept)).symm

theorem written_eq : division.written = division.parts.documents := by
  unfold written Parts.documents Parts.rest
  rw [isOf.left_eq]
  simp only [List.isEmpty_iff]
  rfl

theorem extract_value : (extract document).value = division.written.map Yaml.render := by
  unfold extract
  rw [isOf.taken, isOf.written_eq]

end IsOf

theorem exists_isOf {document : String} {parts : Parts} (taken : parts? document = some parts) :
    ∃ division : Division, division.IsOf document := by
  obtain ⟨items, holds, ingresses, kept⟩ := parts?_eq_some_iff.1 taken
  obtain ⟨listed, isEntry, isItems⟩ := Option.bind_eq_some_iff.1 holds.itemsEntry
  obtain ⟨before, after, place, noneBefore⟩ := Value.exists_place isEntry
  refine ⟨⟨before, listed, after, items, parts.kept, parts.ingresses⟩, ?_⟩
  rw [place] at holds
  exact ⟨holds, isItems, noneBefore, kept, ingresses⟩

end Division

/-- How the documents that a list becomes are read, when each is read as the value it was written
from. -/
structure IsReadBack (document : String) (division : Division) : Prop where
  /-- None of them is the list itself. -/
  changed : document ∉ (extract document).value
  /-- None of them is taken apart again. -/
  stable : ∀ part ∈ (extract document).value, extract part = pure [part]
  ingresses : ∀ item ∈ division.ingresses,
    (Resource.ofText (Yaml.render item)).IsIngressLike
  left : division.kept ≠ [] →
    ∃ kind, "List".toList <:+ kind.toList ∧
      Resource.ofText (Yaml.render division.left) =
        match (Value.entryOf? "apiVersion" (division.entries division.listed)).bind Value.text? with
        | some apiVersion => .other ⟨apiVersion, kind⟩
        | none => .unreadable .untyped

theorem isReadBack_of_parsed {document : String} {division : Division}
    (isOf : division.IsOf document)
    (parsed : ∀ value ∈ division.written, Yaml.parse (Yaml.render value) = some value) :
    IsReadBack document division := by
  have partsWhole : ∀ part ∈ (extract document).value, parts? part = none := by
    intro part member
    refine parts?_of_mem_extract ?_ member
    intro parts taken
    rw [isOf.taken] at taken
    cases taken
    rwa [← isOf.written_eq]
  refine { changed := ?_, stable := ?_, ingresses := ?_, left := ?_ }
  · intro member
    have whole := partsWhole document member
    rw [isOf.taken] at whole
    cases whole
  · intro part member
    unfold extract
    rw [partsWhole part member]
  · intro item isIngress
    have isWritten : item ∈ division.written := List.mem_append_right _ isIngress
    have isKnown : IsKnownIngress item := by
      rw [isOf.ingresses] at isIngress
      exact of_decide_eq_true (List.mem_filter.1 isIngress).2
    unfold Resource.ofText
    rw [parsed item isWritten]
    exact isKnownIngress_iff_isIngressLike.1 isKnown
  · intro someKept
    have isWritten : division.left ∈ division.written := by
      unfold Division.written
      rw [if_neg someKept]
      exact List.mem_append_left _ (List.mem_singleton_self _)
    refine ofText_left isOf.taken ?_
    rw [parsed _ isWritten, isOf.left_eq]

theorem staysWhole_iff_parts? {document : String} :
    StaysWhole document ↔ parts? document = none := by
  rw [parts?_eq_none_iff, staysWhole_iff]

/-- The record of an extraction is there even if the texts should be the same. -/
theorem extract_eq_pure_iff {document : String} :
    extract document = pure [document] ↔ StaysWhole document := by
  rw [staysWhole_iff_parts?]
  unfold extract
  cases parts? document with
  | none => exact iff_of_true rfl rfl
  | some parts =>
      refine iff_of_false ?_ nofun
      intro unchanged
      cases congrArg Logged.records unchanged

/-- A document stays as it is for one of the stated reasons, and every other one has a division. It
becomes the list without its Ingresses, unless nothing is left of it, and each Ingress; these are
then read as what they are. -/
theorem extraction_divides_lists (document : String) :
    (extract document = pure [document] ↔ StaysWhole document) ∧
      (¬StaysWhole document ↔ ∃ division : Division, division.IsOf document) ∧
      ∀ division : Division, division.IsOf document →
        (division.kept ++ division.ingresses).Perm division.items ∧
        (extract document).value = division.written.map Yaml.render ∧
        ((∀ value ∈ division.written, Yaml.parse (Yaml.render value) = some value) →
          IsReadBack document division) := by
  refine ⟨extract_eq_pure_iff, ?_, ?_⟩
  · rw [staysWhole_iff_parts?, ← Ne, Option.ne_none_iff_exists']
    constructor
    · rintro ⟨parts, taken⟩
      exact Division.exists_isOf taken
    · rintro ⟨division, isOf⟩
      exact ⟨division.parts, isOf.taken⟩
  · intro division isOf
    exact ⟨isOf.perm, isOf.extract_value, isReadBack_of_parsed isOf⟩

/-- A list of a note and an Ingress, with an entry after the items. -/
def namedList : String :=
  "apiVersion: v1\nkind: NoteList\nitems:\n- kind: Note\n- apiVersion: extensions/v1beta1\n  kind: Ingress\nname: a\n"

def namedListDivision : Division :=
  let note : Value := .mapping [(.string "kind", .string "Note")]
  let ingress : Value :=
    .mapping [(.string "apiVersion", .string "extensions/v1beta1"), (.string "kind", .string "Ingress")]
  { before := [(.string "apiVersion", .string "v1"), (.string "kind", .string "NoteList")]
    listed := .sequence [note, ingress]
    after := [(.string "name", .string "a")]
    items := [note, ingress]
    kept := [note]
    ingresses := [ingress] }

theorem extraction_divides_lists_namedList :
    namedListDivision.IsOf namedList ∧
      (extract namedList).value =
        ["apiVersion: v1\nkind: NoteList\nitems:\n- kind: Note\nname: a\n",
          "apiVersion: extensions/v1beta1\nkind: Ingress\n"] ∧
      IsReadBack namedList namedListDivision := by
  have isOf : namedListDivision.IsOf namedList :=
    { holds :=
        { parsed := by decide +kernel
          listKind := ⟨"NoteList", rfl, by decide⟩
          itemsEntry := rfl
          hasIngress := by decide }
      listed := rfl
      firstEntry := by decide
      kept := by decide
      ingresses := by decide }
  have texts : namedListDivision.written.map Yaml.render =
      ["apiVersion: v1\nkind: NoteList\nitems:\n- kind: Note\nname: a\n",
        "apiVersion: extensions/v1beta1\nkind: Ingress\n"] := by
    decide +kernel
  have parsed : ∀ value ∈ namedListDivision.written,
      Yaml.parse (Yaml.render value) = some value := by
    decide +kernel
  obtain ⟨-, value, readBack⟩ := (extraction_divides_lists namedList).2.2 namedListDivision isOf
  exact ⟨isOf, value.trans texts, readBack parsed⟩

end ResourceList

end TraefikUpgrade
