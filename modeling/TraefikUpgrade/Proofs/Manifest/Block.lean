import TraefikUpgrade.Manifest.Convert
import TraefikUpgrade.Proofs.Manifest.Document
import TraefikUpgrade.Proofs.ResourceList
import TraefikUpgrade.Proofs.Yaml.Document

/-!
Contract: the conversion of a manifest as a sequence of blocks.

Owns: the block that a document becomes, which is the document as it stands or
a converted Ingress with its middlewares, the blocks of a manifest in their
order, the documents of a block, everything that the conversion of a manifest
hands to the encoder, and what a manifest becomes that is one Ingress, read
character by character.

Does not own: what the encoder makes of it (`TraefikUpgrade.Yaml.Writer`).
-/

set_option autoImplicit false

namespace TraefikUpgrade.Manifest

open Kubernetes (Ingress)
open Yaml (Value)

/-- What stands in the output for one document. -/
inductive Block where
  /-- The document as it stands. -/
  | kept (document : String)
  /-- A converted Ingress with its middlewares. -/
  | converted (conversion : Conversion)
deriving DecidableEq, Repr

namespace Block

/-- The documents of a block, with those of the middlewares as often as given. -/
def documents (repetitions : Nat) : Block → List String
  | .kept document => [document]
  | .converted conversion =>
      Yaml.render conversion.ingress.toValue ::
        (List.replicate repetitions (conversion.middlewares.map Middleware.render)).flatten

/-- The block that a document becomes which stands for an Ingress, or for none. -/
def ofIngress? (configuration : Configuration) (document : String) : Option Ingress → Block
  | none => .kept document
  | some ingress =>
      match (Conversion.convert configuration ingress).value with
      | .ok conversion => .converted conversion
      | .error _ => .kept document

/-- The block that a document becomes. -/
def ofDocument (configuration : Configuration) (document : String) : Block :=
  ofIngress? configuration document (Resource.ofText document).ingress?

end Block

variable (configuration : Configuration)

/-- The blocks that a fragment becomes: one for each document that is taken out of it. -/
def fragmentBlocks (fragment : String) : List Block :=
  (ResourceList.extract fragment).value.map (Block.ofDocument configuration)

/-- The blocks that a manifest becomes. -/
def blocks (content : String) : List Block :=
  (split content).flatMap (fragmentBlocks configuration)

/-! ### The documents of a conversion -/

theorem convertIngress_value (document : String) (ingress : Ingress) :
    (convertIngress configuration document ingress).value =
      (Block.ofIngress? configuration document (some ingress)).documents 1 := by
  unfold convertIngress Block.ofIngress?
  rw [Logged.value_bind]
  cases result : (Conversion.convert configuration ingress).value with
  | ok conversion => simp [result, Block.documents, documentsOf]
  | error error =>
      simp only [result]
      rfl

theorem convertDocument_value (document : String) :
    (convertDocument configuration document).value =
      (Block.ofDocument configuration document).documents 1 := by
  unfold convertDocument Block.ofDocument
  cases Resource.ofText document with
  | unreadable reason => rfl
  | other type => rfl
  | legacyIngress legacy => exact convertIngress_value configuration document legacy.toCurrent
  | ingress current => exact convertIngress_value configuration document current

theorem convertEach_value (convert : String → Logged (List String)) (documents : List String) :
    (convertEach convert documents).value =
      documents.flatMap fun document => (convert document).value := by
  induction documents with
  | nil => rfl
  | cons document rest inductionHypothesis =>
      rw [convertEach, Logged.value_bind, Logged.value_bind, Logged.value_pure,
        inductionHypothesis, List.flatMap_cons]

theorem convertFragment_value (fragment : String) :
    (convertFragment configuration fragment).value =
      (fragmentBlocks configuration fragment).flatMap (Block.documents 1) := by
  unfold convertFragment fragmentBlocks
  rw [Logged.value_bind, convertEach_value, List.flatMap_map]
  simp only [convertDocument_value]

theorem convertedDocuments_value (content : String) :
    (convertedDocuments configuration content).value =
      (blocks configuration content).flatMap (Block.documents 1) := by
  unfold convertedDocuments blocks
  rw [convertEach_value, List.flatMap_assoc]
  simp only [convertFragment_value]

theorem convert_value (content : String) :
    (convert configuration content).value =
      join ((blocks configuration content).flatMap (Block.documents 1)) := by
  unfold convert
  rw [Logged.value_bind, Logged.value_pure, convertedDocuments_value]

theorem fragmentBlocks_of_whole {fragment : String}
    (whole : ResourceList.parts? fragment = none) :
    fragmentBlocks configuration fragment = [Block.ofDocument configuration fragment] := by
  unfold fragmentBlocks ResourceList.extract
  rw [whole]
  rfl

/-! ### What is written -/

/-- What is handed to the encoder. -/
inductive Written where
  /-- A part of a list. -/
  | part (value : Value)
  | ingress (ingress : Ingress)
  | middleware (middleware : Middleware)
deriving DecidableEq, Repr

namespace Written

def toValue : Written → Value
  | .part value => value
  | .ingress converted => converted.toValue
  | .middleware generated => generated.toValue

/-- The document that the encoder makes. -/
def text (written : Written) : String :=
  Yaml.render written.toValue

/-- The characters of the document. -/
def characters (written : Written) : List Char :=
  Yaml.Writer.node .document 0 [] written.toValue

theorem text_eq (written : Written) : written.text = String.ofList written.characters := rfl

/-- The document is read as the value that it was made from. -/
def IsParsedBack (written : Written) : Prop :=
  Yaml.parse written.text = some written.toValue

theorem isParsedBack_iff {written : Written} :
    written.IsParsedBack ↔ Yaml.valueOf? written.characters = some written.toValue := by
  rw [IsParsedBack, text_eq, Yaml.parse_ofList]

instance (written : Written) : Decidable written.IsParsedBack :=
  decidable_of_iff _ isParsedBack_iff.symm

end Written

/-- What is written of a block. -/
def Block.written : Block → List Written
  | .kept _ => []
  | .converted conversion =>
      .ingress conversion.ingress :: conversion.middlewares.map .middleware

theorem Block.ingress_mem_written (conversion : Conversion) :
    .ingress conversion.ingress ∈ (Block.converted conversion).written :=
  List.mem_cons_self

theorem Block.middleware_mem_written {conversion : Conversion} {middleware : Middleware}
    (isMiddleware : middleware ∈ conversion.middlewares) :
    .middleware middleware ∈ (Block.converted conversion).written :=
  List.mem_cons_of_mem _ (List.mem_map_of_mem isMiddleware)

/-- What is written when a fragment is taken apart. -/
def extracted (fragment : String) : List Written :=
  match ResourceList.parts? fragment with
  | none => []
  | some parts => parts.documents.map .part

/-- Everything that is written in the conversion of a fragment. -/
def writtenOf (fragment : String) : List Written :=
  extracted fragment ++ (fragmentBlocks configuration fragment).flatMap Block.written

/-- Everything that is written in the conversion of a manifest. -/
def written (content : String) : List Written :=
  (split content).flatMap (writtenOf configuration)

variable {configuration} {content fragment : String} {item : Written}

theorem mem_writtenOf_of_extracted (isExtracted : item ∈ extracted fragment) :
    item ∈ writtenOf configuration fragment :=
  List.mem_append_left _ isExtracted

theorem mem_writtenOf_of_block {block : Block}
    (isBlock : block ∈ fragmentBlocks configuration fragment) (isWritten : item ∈ block.written) :
    item ∈ writtenOf configuration fragment :=
  List.mem_append_right _ (List.mem_flatMap.2 ⟨block, isBlock, isWritten⟩)

theorem mem_written (isFragment : fragment ∈ split content)
    (isWritten : item ∈ writtenOf configuration fragment) : item ∈ written configuration content :=
  List.mem_flatMap.2 ⟨fragment, isFragment, isWritten⟩

theorem mem_written_of_block {block : Block} (isBlock : block ∈ blocks configuration content)
    (isWritten : item ∈ block.written) : item ∈ written configuration content := by
  obtain ⟨fragment, isFragment, ofFragment⟩ := List.mem_flatMap.1 isBlock
  exact mem_written isFragment (mem_writtenOf_of_block ofFragment isWritten)

/-! ### Where a document of the output comes from -/

theorem eq_of_ofDocument_eq_kept {document other : String}
    (kept : Block.ofDocument configuration document = .kept other) : other = document := by
  unfold Block.ofDocument Block.ofIngress? at kept
  split at kept
  · exact (Block.kept.inj kept).symm
  · split at kept
    · cases kept
    · exact (Block.kept.inj kept).symm

theorem eq_kept_or_written {block : Block} {document : String} {repetitions : Nat}
    (member : document ∈ block.documents repetitions) :
    block = .kept document ∨ ∃ item ∈ block.written, document = item.text := by
  cases block with
  | kept kept =>
      rw [List.mem_singleton.1 member]
      exact .inl rfl
  | converted conversion =>
      rcases List.mem_cons.1 member with isIngress | isCopy
      · exact .inr ⟨.ingress conversion.ingress, Block.ingress_mem_written conversion, isIngress⟩
      · obtain ⟨copied, isRepeated, isDocument⟩ := List.mem_flatten.1 isCopy
        rw [(List.mem_replicate.1 isRepeated).2] at isDocument
        obtain ⟨middleware, isMiddleware, rfl⟩ := List.mem_map.1 isDocument
        exact .inr ⟨.middleware middleware, Block.middleware_mem_written isMiddleware, rfl⟩

/-- The documents of a fragment are that fragment alone, or they have all been written. -/
theorem documents_of_fragment (fragment : String) (repetitions : Nat) :
    (fragmentBlocks configuration fragment).flatMap (Block.documents repetitions) = [fragment] ∨
      ∀ document ∈ (fragmentBlocks configuration fragment).flatMap (Block.documents repetitions),
        ∃ item ∈ writtenOf configuration fragment, document = item.text := by
  -- a fragment that is neither taken apart nor converted is the only text that is not written
  by_cases whole : ResourceList.parts? fragment = none ∧
      Block.ofDocument configuration fragment = .kept fragment
  · left
    rw [fragmentBlocks_of_whole configuration whole.1, whole.2]
    rfl
  · right
    intro document member
    obtain ⟨block, isBlock, ofBlock⟩ := List.mem_flatMap.1 member
    rcases eq_kept_or_written ofBlock with isKept | ⟨item, isWritten, isText⟩
    · obtain ⟨source, isExtract, made⟩ := List.mem_map.1 isBlock
      rw [isKept] at made
      obtain rfl := eq_of_ofDocument_eq_kept made
      unfold ResourceList.extract at isExtract
      cases taken : ResourceList.parts? fragment with
      | none =>
          rw [taken] at isExtract
          obtain rfl := List.mem_singleton.1 isExtract
          exact absurd ⟨taken, made⟩ whole
      | some parts =>
          rw [taken] at isExtract
          obtain ⟨value, isPart, rfl⟩ := List.mem_map.1 isExtract
          refine ⟨.part value, mem_writtenOf_of_extracted ?_, rfl⟩
          unfold extracted
          rw [taken]
          exact List.mem_map_of_mem isPart
    · exact ⟨item, mem_writtenOf_of_block isBlock isWritten, isText⟩

/-! ### A manifest that is one Ingress -/

/-- The Ingress that the characters of a document stand for. -/
def ingressOf? (characters : List Char) : Option Ingress :=
  if Text.allBlank characters = false ∧ IsUnseparated characters then
    (Yaml.valueOf? characters).bind fun value => (Resource.ofValue value).ingress?
  else none

section

variable {text : String} {ingress : Ingress}

/-- What is read off the Ingress that a text spells is read off an Ingress that the text is. -/
theorem exists_ingress_of_spelled {Target : Type} {characters : List Char}
    (reading : Ingress → Target) (value : Target) (spelled : text = String.ofList characters)
    (read : (ingressOf? characters).map reading = some value) :
    ∃ ingress, IsDocument text ∧ (Resource.ofText text).ingress? = some ingress ∧
      reading ingress = value := by
  obtain ⟨ingress, isIngress, isValue⟩ := Option.map_eq_some_iff.1 read
  unfold ingressOf? at isIngress
  split at isIngress
  case isTrue isDocument =>
    obtain ⟨document, isParsed, isRead⟩ := Option.bind_eq_some_iff.1 isIngress
    refine ⟨ingress, ?_, ?_, isValue⟩
    · rw [spelled]
      exact isDocument_ofList.2 isDocument
    · rw [spelled, Resource.ofText, Yaml.parse_ofList, isParsed]
      exact isRead
  case isFalse => cases isIngress

theorem fragmentBlocks_of_ingress (isIngress : (Resource.ofText text).ingress? = some ingress) :
    fragmentBlocks configuration text = [Block.ofIngress? configuration text (some ingress)] := by
  have whole := ResourceList.parts?_eq_none_of_ingress? isIngress
  rw [fragmentBlocks_of_whole configuration whole, Block.ofDocument, isIngress]

theorem blocks_of_ingress (isDocument : IsDocument text)
    (isIngress : (Resource.ofText text).ingress? = some ingress) :
    blocks configuration text = [Block.ofIngress? configuration text (some ingress)] := by
  rw [blocks, isDocument.split_eq, List.flatMap_singleton, fragmentBlocks_of_ingress isIngress]

theorem written_of_ingress (isDocument : IsDocument text)
    (isIngress : (Resource.ofText text).ingress? = some ingress) :
    written configuration text = (Block.ofIngress? configuration text (some ingress)).written := by
  rw [written, isDocument.split_eq, List.flatMap_singleton, writtenOf,
    fragmentBlocks_of_ingress isIngress, extracted,
    ResourceList.parts?_eq_none_of_ingress? isIngress, List.nil_append, List.flatMap_singleton]

/-- What is written for an Ingress is the output, if anything is. -/
theorem convertedDocuments_of_ingress (isDocument : IsDocument text)
    (isIngress : (Resource.ofText text).ingress? = some ingress)
    (someWritten : (Block.ofIngress? configuration text (some ingress)).written ≠ []) :
    (convertedDocuments configuration text).value =
      (Block.ofIngress? configuration text (some ingress)).written.map Written.text := by
  rw [convertedDocuments_value, blocks_of_ingress isDocument isIngress, List.flatMap_singleton]
  generalize Block.ofIngress? configuration text (some ingress) = block at someWritten ⊢
  cases block with
  | kept document => exact absurd rfl someWritten
  | converted conversion =>
      simp [Block.documents, Block.written, Written.text, Written.toValue, Middleware.render]

theorem convertedDocuments_of_spelled {characters : List Char} (documents : List (List Char))
    (someDocument : documents ≠ []) (spelled : text = String.ofList characters)
    (converts : (ingressOf? characters).map (fun ingress =>
      (Block.ofIngress? configuration text (some ingress)).written.map Written.characters) =
        some documents) :
    (convertedDocuments configuration text).value = documents.map String.ofList := by
  obtain ⟨ingress, isDocument, isIngress, rfl⟩ := exists_ingress_of_spelled _ _ spelled converts
  rw [convertedDocuments_of_ingress isDocument isIngress (mt List.map_eq_nil_iff.2 someDocument),
    List.map_map]
  rfl

end

end TraefikUpgrade.Manifest
