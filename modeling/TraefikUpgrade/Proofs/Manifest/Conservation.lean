import Mathlib.Data.List.Forall2
import TraefikUpgrade.Proofs.Conversion.Outcome
import TraefikUpgrade.Proofs.Manifest.Block

/-!
Contract: no resource of a manifest is lost, and none is made up.

Owns: the resources that a fragment holds, what each of them becomes, what a
fragment contributes to the output, and the account of both: the resources of
the output, the generated middlewares aside, are what the resources of the
input become.

Does not own: what the encoder and the parser make of each other's results;
that every written value is read back is an assumption here.
-/

set_option autoImplicit false

namespace TraefikUpgrade.Manifest

open Kubernetes (Ingress)
open Yaml (Value)
open ResourceList (HoldsItems)

/-! ### Resources and what becomes of them -/

/-- A resource of a manifest. -/
inductive Held where
  /-- A fragment as a whole. -/
  | document (text : String)
  /-- An item of a list. -/
  | item (value : Value)
deriving DecidableEq, Repr

namespace Held

/-- The value of a resource; a document that cannot be read has none. -/
def value? : Held → Option Value
  | .document text => Yaml.parse text
  | .item value => some value

/-- The Ingress that a resource is, if it can be read as one of any known version. -/
def ingress? : Held → Option Ingress
  | .document text => (Resource.ofText text).ingress?
  | .item value => (Resource.ofValue value).ingress?

/-- The value that a resource has in the output: that of its converted form, or its own. -/
def fate (configuration : Configuration) (held : Held) : Option Value :=
  match held.ingress? with
  | none => held.value?
  | some ingress =>
      match (Conversion.convert configuration ingress).value with
      | .ok conversion => some conversion.ingress.toValue
      | .error _ => held.value?

end Held

/-- A block that stands in the output for a resource. -/
inductive Block.StandsFor (configuration : Configuration) (held : Held) : Block → Prop where
  /-- The converted form of an Ingress, with the middlewares that belong to it right after it. -/
  | converted {ingress : Ingress} {conversion : Conversion}
      (isIngress : held.ingress? = some ingress)
      (converted : (Conversion.convert configuration ingress).value = .ok conversion)
      (owned : ∀ middleware ∈ conversion.middlewares,
        Conversion.IsOwned configuration ingress middleware) :
      StandsFor configuration held (.converted conversion)
  /-- A document with the value of the resource. If the resource is a fragment, it is that fragment
  to the last character. -/
  | kept {document : String}
      (unconverted : ∀ ingress, held.ingress? = some ingress →
        ∀ conversion, (Conversion.convert configuration ingress).value ≠ .ok conversion)
      (sameValue : Yaml.parse document = held.value?)
      (sameText : ∀ text, held = .document text → document = text) :
      StandsFor configuration held (.kept document)

/-! ### What a fragment contributes -/

/-- What a fragment holds, and what stands in the output for it. -/
structure Contribution where
  held : List Held
  /-- The entries of the list that is left, if one is. -/
  left : Option (List (Value × Value))
  blocks : List Block
deriving DecidableEq, Repr

/-- The items that a document says to hold. -/
def itemsOf (document : String) : List Value :=
  match Yaml.parse document with
  | some (.mapping entries) => ((Value.entryOf? "items" entries).bind Value.items?).getD []
  | _ => []

/-- The value of the document that stands for a resource. -/
def Block.value? : Block → Option Value
  | .kept document => Yaml.parse document
  | .converted conversion => Yaml.parse (Yaml.render conversion.ingress.toValue)

namespace Contribution

/-- The documents in the output: the list that is left, and the blocks after it. -/
def documents (contribution : Contribution) : List String :=
  contribution.left.toList.map (fun entries => Yaml.render (.mapping entries)) ++
    contribution.blocks.flatMap (Block.documents 1)

/-- The values of the resources in the output, without the generated middlewares. -/
def values (contribution : Contribution) : List (Option Value) :=
  (contribution.left.toList.flatMap fun entries =>
      (itemsOf (Yaml.render (.mapping entries))).map some) ++
    contribution.blocks.map Block.value?

end Contribution

/-- What a fragment contributes to the output. -/
inductive Contributes (configuration : Configuration) (fragment : String) :
    Contribution → Prop where
  /-- A list with an Ingress holds its items. Those that are no Ingresses stay in it in their
  order; it is left out if there are none. Each of the others has a block of its own. -/
  | ofItems {entries : List (Value × Value)} {items : List Value} {blocks : List Block}
      (holds : HoldsItems fragment entries items)
      (standFor : List.Forall₂ (Block.StandsFor configuration)
        ((items.filter fun item => ResourceList.IsKnownIngress item).map .item) blocks) :
      Contributes configuration fragment
        { held := items.map .item
          left :=
            if items.filter (fun item => ¬ResourceList.IsKnownIngress item) = [] then none
            else some (Value.replaceEntry "items"
              (.sequence (items.filter fun item => ¬ResourceList.IsKnownIngress item)) entries)
          blocks }
  /-- Every other fragment holds itself and makes one block. -/
  | ofWhole {block : Block}
      (holdsNone : ∀ entries items, ¬HoldsItems fragment entries items)
      (standsFor : block.StandsFor configuration (.document fragment)) :
      Contributes configuration fragment ⟨[.document fragment], none, [block]⟩

variable (configuration : Configuration)

/-- A contribution with its documents, in which each held resource has become its fate. -/
structure Accounts (fragment : String) (contribution : Contribution) : Prop where
  contributes : Contributes configuration fragment contribution
  documents : (fragmentBlocks configuration fragment).flatMap (Block.documents 1) =
    contribution.documents
  conserved : contribution.values.Perm (contribution.held.map (Held.fate configuration))

variable {configuration}

theorem standsFor_ofIngress? {held : Held} {document : String}
    (sameValue : Yaml.parse document = held.value?)
    (sameText : ∀ text, held = .document text → document = text) :
    (Block.ofIngress? configuration document held.ingress?).StandsFor configuration held := by
  cases isIngress : held.ingress? with
  | none =>
      refine .kept ?_ sameValue sameText
      intro ingress found
      rw [isIngress] at found
      cases found
  | some ingress =>
      unfold Block.ofIngress?
      cases result : (Conversion.convert configuration ingress).value with
      | ok conversion =>
          simp only [result]
          exact .converted isIngress result (Conversion.isOwned_of_converted _ _ result)
      | error error =>
          simp only [result]
          refine .kept ?_ sameValue sameText
          intro other found conversion converted
          rw [isIngress] at found
          cases found
          rw [result] at converted
          cases converted

theorem value?_of_standsFor {held : Held} {block : Block}
    (standsFor : block.StandsFor configuration held)
    (readBack : ∀ item ∈ block.written, item.IsParsedBack) :
    block.value? = held.fate configuration := by
  cases standsFor with
  | @converted ingress conversion isIngress converted owned =>
      have parsed : (Written.ingress conversion.ingress).IsParsedBack :=
        readBack (.ingress conversion.ingress) (Block.ingress_mem_written conversion)
      unfold Held.fate
      rw [isIngress]
      simp only [converted]
      exact parsed
  | kept unconverted sameValue sameText =>
      unfold Held.fate Block.value?
      cases isIngress : held.ingress? with
      | none => exact sameValue
      | some ingress =>
          cases result : (Conversion.convert configuration ingress).value with
          | ok conversion => exact absurd result (unconverted ingress isIngress conversion)
          | error error =>
              simp only [result]
              exact sameValue

/-! ### The account of a fragment -/

theorem accounts_of_whole {fragment : String} (whole : ResourceList.parts? fragment = none)
    (readBack : ∀ item ∈ writtenOf configuration fragment, item.IsParsedBack) :
    Accounts configuration fragment
      ⟨[.document fragment], none, [Block.ofDocument configuration fragment]⟩ := by
  have oneBlock := fragmentBlocks_of_whole configuration whole
  have standsFor : (Block.ofDocument configuration fragment).StandsFor configuration
      (.document fragment) := by
    refine standsFor_ofIngress? rfl ?_
    rintro text ⟨⟩
    rfl
  have value : (Block.ofDocument configuration fragment).value? =
      (Held.document fragment).fate configuration := by
    refine value?_of_standsFor standsFor fun item isWritten => readBack item ?_
    refine mem_writtenOf_of_block ?_ isWritten
    rw [oneBlock]
    exact List.mem_singleton_self _
  refine ⟨.ofWhole (ResourceList.parts?_eq_none_iff.1 whole) standsFor, ?_, ?_⟩
  · rw [oneBlock]
    rfl
  · unfold Contribution.values
    simp [value]

theorem standsFor_item {item : Value} (parsed : Yaml.parse (Yaml.render item) = some item) :
    (Block.ofDocument configuration (Yaml.render item)).StandsFor configuration (.item item) := by
  have sameIngress : (Resource.ofText (Yaml.render item)).ingress? = (Held.item item).ingress? := by
    unfold Resource.ofText
    rw [parsed]
    rfl
  unfold Block.ofDocument
  rw [sameIngress]
  exact standsFor_ofIngress? parsed fun text isDocument => nomatch isDocument

theorem fate_of_not_isKnownIngress {item : Value} (other : ¬ResourceList.IsKnownIngress item) :
    (Held.item item).fate configuration = some item := by
  have noIngress : (Held.item item).ingress? = none := by
    apply Resource.ingress?_ofValue_eq_none
    intro type named
    rw [Bool.eq_false_iff, Ne, ResourceType.isIngress_iff]
    intro isIngress
    exact other ⟨type, named, isIngress⟩
  unfold Held.fate
  rw [noIngress]
  rfl

section Items

variable {fragment : String} {parts : ResourceList.Parts}
  (taken : ResourceList.parts? fragment = some parts)

include taken

theorem parse_left (readBack : ∀ item ∈ writtenOf configuration fragment, item.IsParsedBack)
    (someKept : parts.kept ≠ []) :
    Yaml.parse (Yaml.render (.mapping parts.left)) = some (.mapping parts.left) := by
  refine readBack (.part (.mapping parts.left)) (mem_writtenOf_of_extracted ?_)
  unfold extracted ResourceList.Parts.documents ResourceList.Parts.rest
  simp [taken, someKept, ResourceList.Parts.left]

theorem parse_ingress (readBack : ∀ item ∈ writtenOf configuration fragment, item.IsParsedBack)
    {item : Value} (isIngress : item ∈ parts.ingresses) :
    Yaml.parse (Yaml.render item) = some item := by
  refine readBack (.part item) (mem_writtenOf_of_extracted ?_)
  unfold extracted ResourceList.Parts.documents
  simp [taken, isIngress]

/-- The list that is left makes the first block, if one is left, and each Ingress another one. -/
theorem fragmentBlocks_of_parts
    (readBack : ∀ item ∈ writtenOf configuration fragment, item.IsParsedBack) :
    fragmentBlocks configuration fragment =
      (if parts.kept = [] then [] else [.kept (Yaml.render (.mapping parts.left))]) ++
        parts.ingresses.map fun item => Block.ofDocument configuration (Yaml.render item) := by
  unfold fragmentBlocks ResourceList.extract ResourceList.Parts.documents ResourceList.Parts.rest
  simp only [taken]
  by_cases noneKept : parts.kept = []
  · simp [noneKept]
  · have leftBlock : Block.ofDocument configuration (Yaml.render (.mapping parts.left)) =
        .kept (Yaml.render (.mapping parts.left)) := by
      unfold Block.ofDocument
      rw [ResourceList.ingress?_left taken (parse_left taken readBack noneKept)]
      rfl
    simp only [noneKept, List.isEmpty_iff, if_false, List.map_append, List.map_map]
    exact congrArg (fun block => [block] ++ _) leftBlock

theorem itemsOf_left (readBack : ∀ item ∈ writtenOf configuration fragment, item.IsParsedBack)
    (someKept : parts.kept ≠ []) :
    itemsOf (Yaml.render (.mapping parts.left)) = parts.kept := by
  unfold itemsOf
  rw [parse_left taken readBack someKept]
  exact congrArg (Option.getD · []) (ResourceList.itemsEntry_left taken)

omit taken in
/-- What a list with an Ingress contributes. -/
def ofParts (configuration : Configuration) (items : List Value) (parts : ResourceList.Parts) :
    Contribution where
  held := items.map .item
  left := if parts.kept = [] then none else some parts.left
  blocks := parts.ingresses.map fun item => Block.ofDocument configuration (Yaml.render item)

theorem values_ofParts (readBack : ∀ item ∈ writtenOf configuration fragment, item.IsParsedBack)
    (items : List Value) :
    (ofParts configuration items parts).values =
      parts.kept.map some ++ parts.ingresses.map fun item => (Held.item item).fate configuration := by
  have blockValues : (ofParts configuration items parts).blocks.map Block.value? =
      parts.ingresses.map fun item => (Held.item item).fate configuration := by
    unfold ofParts
    rw [List.map_map]
    refine List.map_congr_left fun item isIngress => ?_
    refine value?_of_standsFor (standsFor_item (parse_ingress taken readBack isIngress)) ?_
    intro part isWritten
    refine readBack part (mem_writtenOf_of_block ?_ isWritten)
    rw [fragmentBlocks_of_parts taken readBack]
    exact List.mem_append_right _ (List.mem_map_of_mem isIngress)
  unfold Contribution.values
  rw [blockValues]
  by_cases noneKept : parts.kept = []
  · simp [ofParts, noneKept]
  · simp [ofParts, noneKept, itemsOf_left taken readBack noneKept]

/-- The kept items and the Ingresses together are what the items become. -/
theorem values_perm {items : List Value}
    (ingresses : parts.ingresses = items.filter fun item => ResourceList.IsKnownIngress item)
    (kept : parts.kept = items.filter fun item => ¬ResourceList.IsKnownIngress item)
    (readBack : ∀ item ∈ writtenOf configuration fragment, item.IsParsedBack) :
    (ofParts configuration items parts).values.Perm
      ((ofParts configuration items parts).held.map (Held.fate configuration)) := by
  have keptFates : parts.kept.map some =
      parts.kept.map fun item => (Held.item item).fate configuration := by
    refine List.map_congr_left fun item isKept => ?_
    rw [kept] at isKept
    rw [fate_of_not_isKnownIngress (of_decide_eq_true (List.mem_filter.1 isKept).2)]
  have allItems : (parts.kept ++ parts.ingresses).Perm items := by
    rw [kept, ingresses]
    exact ResourceList.filter_append_perm items
  rw [values_ofParts taken readBack, keptFates, ← List.map_append]
  unfold ofParts
  rw [List.map_map]
  exact allItems.map _

theorem accounts_of_parts
    (readBack : ∀ item ∈ writtenOf configuration fragment, item.IsParsedBack) :
    ∃ contribution, Accounts configuration fragment contribution := by
  obtain ⟨items, holds, ingresses, kept⟩ := ResourceList.parts?_eq_some_iff.1 taken
  refine ⟨ofParts configuration items parts, ?_, ?_, values_perm taken ingresses kept readBack⟩
  · unfold ofParts ResourceList.Parts.left
    rw [ingresses, kept]
    refine .ofItems holds ?_
    rw [← ingresses, List.forall₂_map_left_iff, List.forall₂_map_right_iff, List.forall₂_same]
    intro item isIngress
    exact standsFor_item (parse_ingress taken readBack isIngress)
  · rw [fragmentBlocks_of_parts taken readBack]
    unfold Contribution.documents ofParts
    by_cases noneKept : parts.kept = []
    · simp [noneKept]
    · simp [noneKept, Block.documents]

end Items

/-! ### The account of a manifest -/

theorem exists_accounts {fragment : String}
    (readBack : ∀ item ∈ writtenOf configuration fragment, item.IsParsedBack) :
    ∃ contribution, Accounts configuration fragment contribution := by
  cases taken : ResourceList.parts? fragment with
  | none => exact ⟨_, accounts_of_whole taken readBack⟩
  | some parts => exact accounts_of_parts taken readBack

/-- Every fragment of a manifest contributes what the resources become that it holds, in the order
of the fragments. -/
theorem resources_are_conserved (configuration : Configuration) (content : String)
    (readBack : ∀ item ∈ written configuration content, item.IsParsedBack) :
    ∃ contributions : List Contribution,
      List.Forall₂ (Contributes configuration) (split content) contributions ∧
      (convertedDocuments configuration content).value =
        contributions.flatMap Contribution.documents ∧
      (contributions.flatMap Contribution.values).Perm
        ((contributions.flatMap Contribution.held).map (Held.fate configuration)) := by
  have each : ∀ fragment ∈ split content,
      ∃ contribution, Accounts configuration fragment contribution :=
    fun fragment isFragment =>
      exists_accounts fun item isWritten => readBack item (mem_written isFragment isWritten)
  rw [convertedDocuments_value]
  unfold blocks
  rw [List.flatMap_assoc]
  -- only the accounts of the fragments count, not that they make up a manifest
  generalize split content = fragments at each
  induction fragments with
  | nil => exact ⟨[], .nil, rfl, .nil⟩
  | cons fragment rest inductionHypothesis =>
      obtain ⟨contribution, accounts⟩ := each fragment List.mem_cons_self
      obtain ⟨contributions, contribute, documents, conserved⟩ :=
        inductionHypothesis fun other member => each other (List.mem_cons_of_mem _ member)
      refine ⟨contribution :: contributions, .cons accounts.contributes contribute, ?_, ?_⟩
      · rw [List.flatMap_cons, List.flatMap_cons, accounts.documents, documents]
      · rw [List.flatMap_cons, List.flatMap_cons, List.map_append]
        exact accounts.conserved.append conserved

/-- A list of a note and an Ingress. -/
def mixedList : String :=
  "kind: List\nitems:\n- kind: Note\n- apiVersion: extensions/v1beta1\n  kind: Ingress\n"

theorem resources_are_conserved_mixedList :
    (written .default mixedList).length = 3 ∧
      ∃ contributions : List Contribution,
        List.Forall₂ (Contributes .default) (split mixedList) contributions ∧
        (convertedDocuments .default mixedList).value =
          contributions.flatMap Contribution.documents ∧
        (contributions.flatMap Contribution.values).Perm
          ((contributions.flatMap Contribution.held).map (Held.fate .default)) := by
  have readBack : (written .default mixedList).length = 3 ∧
      ∀ item ∈ written .default mixedList, item.IsParsedBack := by
    decide +kernel
  exact ⟨readBack.1, resources_are_conserved .default mixedList readBack.2⟩

end TraefikUpgrade.Manifest
