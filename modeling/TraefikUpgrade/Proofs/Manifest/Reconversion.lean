import TraefikUpgrade.Proofs.Conversion.Dependence
import TraefikUpgrade.Proofs.Manifest.Block
import TraefikUpgrade.Proofs.Manifest.Document

/-!
Contract: what becomes of a manifest that is converted more than once.

Owns: what is assumed of the encoder, the documents that a further conversion
leaves alone, and the law of repeated conversions: a converted Ingress is
converted into itself, so each run adds its middlewares once more, and nothing
else changes.

Does not own: why a converted Ingress is converted into itself
(`TraefikUpgrade.Proofs.Conversion.Dependence`).
-/

set_option autoImplicit false

namespace TraefikUpgrade.Manifest

open Kubernetes (Ingress)
open Yaml (Value)

/-! ### What is assumed of the encoder -/

namespace Written

/-- An Ingress is the one that its value stands for. -/
def IsReadBack : Written → Prop
  | .part _ => True
  | .ingress converted => Resource.ofValue converted.toValue = .ingress converted
  | .middleware _ => True

instance (item : Written) : Decidable item.IsReadBack := by
  unfold IsReadBack
  split <;> infer_instance

/-- The encoder writes one document, whose last line ends, and which is read as what it was written
from. -/
structure IsFaithful (item : Written) : Prop where
  isDocument : IsDocument item.text
  isEnded : IsEnded item.text
  parsed : item.IsParsedBack
  readBack : item.IsReadBack

theorem isFaithful_iff {item : Written} :
    item.IsFaithful ↔
      (Text.allBlank item.characters = false ∧ IsUnseparated item.characters) ∧
        item.characters.getLast? = some '\n' ∧ item.IsParsedBack ∧ item.IsReadBack := by
  rw [← isDocument_ofList, ← isEnded_ofList, ← text_eq]
  constructor
  · rintro ⟨isDocument, isEnded, parsed, readBack⟩
    exact ⟨isDocument, isEnded, parsed, readBack⟩
  · rintro ⟨isDocument, isEnded, parsed, readBack⟩
    exact ⟨isDocument, isEnded, parsed, readBack⟩

instance (item : Written) : Decidable item.IsFaithful :=
  decidable_of_iff _ isFaithful_iff.symm

end Written

variable {configuration : Configuration} {content : String}

/-! ### Documents that stay as they are -/

theorem convertFragment_eq_self {document : String}
    (whole : ResourceList.parts? document = none)
    (kept : Block.ofDocument configuration document = .kept document) :
    (convertFragment configuration document).value = [document] := by
  rw [convertFragment_value, fragmentBlocks_of_whole configuration whole, kept]
  rfl

theorem convertFragment_kept (faithful : ∀ item ∈ written configuration content, item.IsFaithful)
    {document : String} (isBlock : .kept document ∈ blocks configuration content) :
    (convertFragment configuration document).value = [document] := by
  obtain ⟨fragment, isFragment, ofFragment⟩ := List.mem_flatMap.1 isBlock
  obtain ⟨source, isExtract, kept⟩ := List.mem_map.1 ofFragment
  obtain rfl := eq_of_ofDocument_eq_kept kept
  refine convertFragment_eq_self (ResourceList.parts?_of_mem_extract ?_ isExtract) kept
  intro parts taken value isPart
  have isExtracted : Written.part value ∈ extracted fragment := by
    unfold extracted
    rw [taken]
    exact List.mem_map_of_mem isPart
  exact (faithful _ (mem_written isFragment (mem_writtenOf_of_extracted isExtracted))).parsed

theorem convertFragment_middleware {middleware : Middleware}
    (parsed : Yaml.parse middleware.render = some middleware.toValue) :
    (convertFragment configuration middleware.render).value = [middleware.render] := by
  have named : ResourceType.ofValue? middleware.toValue =
      some ⟨Middleware.apiVersion, Middleware.resourceKind⟩ := rfl
  have noIngress : (Resource.ofText middleware.render).ingress? = none := by
    unfold Resource.ofText
    rw [parsed]
    apply Resource.ingress?_ofValue_eq_none
    intro type isType
    rw [named] at isType
    cases isType
    decide
  refine convertFragment_eq_self ?_ ?_
  · exact ResourceList.parts?_eq_none_of_kind parsed named (by decide)
  · unfold Block.ofDocument
    rw [noIngress]
    rfl

/-! ### Converted Ingresses -/

theorem exists_ingress_of_converted {conversion : Conversion}
    (isBlock : .converted conversion ∈ blocks configuration content) :
    ∃ ingress, (Conversion.convert configuration ingress).value = .ok conversion := by
  obtain ⟨fragment, _, ofFragment⟩ := List.mem_flatMap.1 isBlock
  obtain ⟨source, _, converted⟩ := List.mem_map.1 ofFragment
  unfold Block.ofDocument Block.ofIngress? at converted
  split at converted
  · cases converted
  · rename_i ingress isIngress
    split at converted
    · rename_i result ok
      exact ⟨ingress, ok.trans (congrArg Except.ok (Block.converted.inj converted))⟩
    · cases converted

/-- A converted Ingress becomes what it became before. -/
theorem convertFragment_converted
    (faithful : ∀ item ∈ written configuration content, item.IsFaithful)
    {conversion : Conversion} (isBlock : .converted conversion ∈ blocks configuration content) :
    (convertFragment configuration (Yaml.render conversion.ingress.toValue)).value =
      (Block.converted conversion).documents 1 := by
  have isWritten : Written.ingress conversion.ingress ∈ written configuration content :=
    mem_written_of_block isBlock (Block.ingress_mem_written conversion)
  have parsed : Yaml.parse (Yaml.render conversion.ingress.toValue) =
      some conversion.ingress.toValue := (faithful _ isWritten).parsed
  have readBack : Resource.ofValue conversion.ingress.toValue = .ingress conversion.ingress :=
    (faithful _ isWritten).readBack
  have read : (Resource.ofText (Yaml.render conversion.ingress.toValue)).ingress? =
      some conversion.ingress := by
    unfold Resource.ofText
    rw [parsed]
    exact congrArg Resource.ingress? readBack
  have sameBlock : Block.ofDocument configuration (Yaml.render conversion.ingress.toValue) =
      .converted conversion := by
    obtain ⟨ingress, converted⟩ := exists_ingress_of_converted isBlock
    unfold Block.ofDocument Block.ofIngress?
    rw [read]
    simp only [Conversion.convert_conversion converted]
  rw [convertFragment_value,
    fragmentBlocks_of_whole configuration (ResourceList.parts?_eq_none_of_ingress? read), sameBlock]
  simp

/-- One more conversion of the documents of a block adds the middlewares once more. -/
theorem flatMap_documents (faithful : ∀ item ∈ written configuration content, item.IsFaithful)
    {block : Block} (isBlock : block ∈ blocks configuration content) (repetitions : Nat) :
    (block.documents repetitions).flatMap
        (fun document => (convertFragment configuration document).value) =
      block.documents (repetitions + 1) := by
  cases block with
  | kept document => simp [Block.documents, convertFragment_kept faithful isBlock]
  | converted conversion =>
      have middlewaresStay :
          ∀ document ∈ (List.replicate repetitions
              (conversion.middlewares.map Middleware.render)).flatten,
            (convertFragment configuration document).value = [document] := by
        intro document member
        obtain ⟨repeated, isCopy, isDocument⟩ := List.mem_flatten.1 member
        rw [(List.mem_replicate.1 isCopy).2] at isDocument
        obtain ⟨middleware, isMiddleware, rfl⟩ := List.mem_map.1 isDocument
        have isWritten : Written.middleware middleware ∈ written configuration content :=
          mem_written_of_block isBlock (Block.middleware_mem_written isMiddleware)
        exact convertFragment_middleware (faithful _ isWritten).parsed
      rw [Block.documents, List.flatMap_cons, convertFragment_converted faithful isBlock,
        List.flatMap_congr middlewaresStay]
      simp [Block.documents, List.replicate_succ]

/-! ### The documents of all runs -/

/-- Every document of a run is a fragment or has been written, and all but the last one end. -/
theorem isDocument_of_mem_documents
    (faithful : ∀ item ∈ written configuration content, item.IsFaithful) {repetitions : Nat}
    {document : String}
    (member : document ∈ (blocks configuration content).flatMap (Block.documents repetitions)) :
    IsDocument document := by
  unfold blocks at member
  rw [List.flatMap_assoc] at member
  obtain ⟨fragment, isFragment, ofFragment⟩ := List.mem_flatMap.1 member
  rcases documents_of_fragment fragment repetitions with alone | areWritten
  · rw [alone] at ofFragment
    rw [List.mem_singleton.1 ofFragment]
    exact isDocument_of_mem_split isFragment
  · obtain ⟨item, isWritten, rfl⟩ := areWritten document ofFragment
    exact (faithful item (mem_written isFragment isWritten)).isDocument

theorem areEndedButLast_documents
    (faithful : ∀ item ∈ written configuration content, item.IsFaithful) (repetitions : Nat) :
    AreEndedButLast ((blocks configuration content).flatMap (Block.documents repetitions)) := by
  unfold blocks
  rw [List.flatMap_assoc]
  refine (areEndedButLast_split content).flatMap fun fragment isFragment => ?_
  rcases documents_of_fragment fragment repetitions with alone | areWritten
  · exact .inl alone
  · refine .inr fun document ofFragment => ?_
    obtain ⟨item, isWritten, rfl⟩ := areWritten document ofFragment
    exact (faithful item (mem_written isFragment isWritten)).isEnded

theorem split_join_documents
    (faithful : ∀ item ∈ written configuration content, item.IsFaithful) (repetitions : Nat) :
    split (join ((blocks configuration content).flatMap (Block.documents repetitions))) =
      (blocks configuration content).flatMap (Block.documents repetitions) :=
  split_join (fun _ member => isDocument_of_mem_documents faithful member)
    (areEndedButLast_documents faithful repetitions)

theorem convertedDocuments_join
    (faithful : ∀ item ∈ written configuration content, item.IsFaithful) (repetitions : Nat) :
    (convertedDocuments configuration
        (join ((blocks configuration content).flatMap (Block.documents repetitions)))).value =
      (blocks configuration content).flatMap (Block.documents (repetitions + 1)) := by
  unfold convertedDocuments
  rw [convertEach_value, split_join_documents faithful, List.flatMap_assoc]
  exact List.flatMap_congr fun block isBlock => flatMap_documents faithful isBlock repetitions

/-- The text after a number of conversions. -/
def convertTimes (configuration : Configuration) : Nat → String → String
  | 0, content => content
  | runs + 1, content => (convert configuration (convertTimes configuration runs content)).value

theorem convertTimes_succ (faithful : ∀ item ∈ written configuration content, item.IsFaithful)
    (runs : Nat) :
    convertTimes configuration (runs + 1) content =
      join ((blocks configuration content).flatMap (Block.documents (runs + 1))) := by
  induction runs with
  | zero => exact convert_value configuration content
  | succ runs inductionHypothesis =>
      have again := convertedDocuments_join faithful (runs + 1)
      rw [convertTimes, inductionHypothesis]
      unfold convert
      rw [Logged.value_bind, Logged.value_pure, again]

/-! ### Idempotence -/

/-- The middlewares of a block. -/
def Block.middlewares : Block → List Middleware
  | .kept _ => []
  | .converted conversion => conversion.middlewares

theorem length_documents_two (block : Block) :
    (block.documents 2).length = (block.documents 1).length + block.middlewares.length := by
  cases block with
  | kept document => rfl
  | converted conversion =>
      simp [Block.documents, Block.middlewares]
      omega

theorem length_flatMap_documents_two (blocks : List Block) :
    (blocks.flatMap (Block.documents 2)).length =
      (blocks.flatMap (Block.documents 1)).length + (blocks.flatMap Block.middlewares).length := by
  induction blocks with
  | nil => rfl
  | cons block rest inductionHypothesis =>
      simp only [List.flatMap_cons, List.length_append]
      rw [inductionHypothesis, length_documents_two]
      omega

/-- A second run changes nothing exactly when there are no middlewares. -/
theorem convert_convert_eq_iff
    (faithful : ∀ item ∈ written configuration content, item.IsFaithful) :
    convertTimes configuration 2 content = convertTimes configuration 1 content ↔
      ∀ conversion, .converted conversion ∈ blocks configuration content →
        conversion.middlewares = [] := by
  rw [convertTimes_succ faithful, convertTimes_succ faithful]
  constructor
  · intro same conversion isBlock
    have sameDocuments : (blocks configuration content).flatMap (Block.documents 2) =
        (blocks configuration content).flatMap (Block.documents 1) := by
      rw [← split_join_documents faithful 2, ← split_join_documents faithful 1]
      exact congrArg split same
    -- equal lists have equal lengths, which leaves no room for another middleware
    have lengths := length_flatMap_documents_two (blocks configuration content)
    rw [sameDocuments] at lengths
    have noMiddlewares : (blocks configuration content).flatMap Block.middlewares = [] :=
      List.length_eq_zero_iff.1 (by omega)
    exact List.flatMap_eq_nil_iff.1 noMiddlewares _ isBlock
  · intro noMiddlewares
    refine congrArg join (List.flatMap_congr fun block isBlock => ?_)
    cases block with
    | kept document => rfl
    | converted conversion => simp [Block.documents, noMiddlewares conversion isBlock]

/-! ### The law of repeated conversions -/

theorem convert_kept (faithful : ∀ item ∈ written configuration content, item.IsFaithful)
    {document : String} (isBlock : .kept document ∈ blocks configuration content) :
    (convert configuration document).value = document := by
  have isOutput : document ∈ (blocks configuration content).flatMap (Block.documents 1) :=
    List.mem_flatMap.2 ⟨.kept document, isBlock, List.mem_singleton_self document⟩
  have isDocument := isDocument_of_mem_documents faithful isOutput
  have joined : join [document] = document := by
    simp [join, joinCharacters]
  unfold convert convertedDocuments
  rw [Logged.value_bind, Logged.value_pure, isDocument.split_eq, convertEach_value, List.flatMap_singleton,
    convertFragment_kept faithful isBlock, joined]

/-- What holds of all conversions of a manifest. -/
structure Reconverts (configuration : Configuration) (content : String) : Prop where
  /-- The output consists of the documents of the blocks. -/
  documents : (convertedDocuments configuration content).value =
    (blocks configuration content).flatMap (Block.documents 1)
  joined : (convert configuration content).value =
    join (convertedDocuments configuration content).value
  /-- Cutting the output gives the documents back. -/
  cut : split (convert configuration content).value =
    (convertedDocuments configuration content).value
  /-- A second conversion adds the middlewares of each converted Ingress once more, right after the
  first ones, and changes nothing else. -/
  again : (convertedDocuments configuration (convert configuration content).value).value =
    (blocks configuration content).flatMap (Block.documents 2)
  /-- A second conversion changes nothing exactly when no Ingress has middlewares. -/
  idempotent : (convert configuration (convert configuration content).value).value =
      (convert configuration content).value ↔
    ∀ conversion, .converted conversion ∈ blocks configuration content →
      conversion.middlewares = []
  /-- After any number of conversions, the middlewares are there as many times. -/
  repeated : ∀ runs, 0 < runs →
    split (convertTimes configuration runs content) =
      (blocks configuration content).flatMap (Block.documents runs)
  /-- Documents that are no Ingresses, or cannot be read or converted, stay as they are. -/
  fixed : ∀ document, .kept document ∈ blocks configuration content →
    ∀ runs, convertTimes configuration runs document = document

theorem reconverts (configuration : Configuration) (content : String)
    (faithful : ∀ item ∈ written configuration content, item.IsFaithful) :
    Reconverts configuration content := by
  have output := convert_value configuration content
  have documents := convertedDocuments_value configuration content
  refine
    { documents
      joined := ?_
      cut := ?_
      again := ?_
      idempotent := convert_convert_eq_iff faithful
      repeated := ?_
      fixed := ?_ }
  · rw [output, documents]
  · rw [output, documents]
    exact split_join_documents faithful 1
  · rw [output]
    exact convertedDocuments_join faithful 1
  · intro runs someRuns
    obtain ⟨earlier, rfl⟩ := Nat.exists_eq_succ_of_ne_zero (Nat.ne_of_gt someRuns)
    rw [convertTimes_succ faithful]
    exact split_join_documents faithful (earlier + 1)
  · intro document isKept runs
    induction runs with
    | zero => rfl
    | succ runs inductionHypothesis =>
        rw [convertTimes, inductionHypothesis]
        exact convert_kept faithful isKept

/-- An Ingress with a header, which makes one middleware. -/
def secureIngress : String :=
  "apiVersion: networking.k8s.io/v1\nkind: Ingress\nmetadata:\n  annotations:\n    ingress.kubernetes.io/ssl-host: b\n"

set_option maxRecDepth 2000 in
theorem isFaithful_secureIngress :
    (written ⟨"traefik", "s", "k", "n"⟩ secureIngress).length = 2 ∧
      ∀ item ∈ written ⟨"traefik", "s", "k", "n"⟩ secureIngress, item.IsFaithful := by
  have spelled : secureIngress = String.ofList _ := rfl
  obtain ⟨ingress, isDocument, isIngress, checked⟩ := exists_ingress_of_spelled
    (fun ingress =>
      let items := (Block.ofIngress? ⟨"traefik", "s", "k", "n"⟩ secureIngress (some ingress)).written
      decide (items.length = 2 ∧ ∀ item ∈ items, item.IsFaithful))
    true spelled (by decide +kernel)
  rw [written_of_ingress isDocument isIngress]
  exact of_decide_eq_true checked

theorem reconverts_secureIngress :
    (written ⟨"traefik", "s", "k", "n"⟩ secureIngress).length = 2 ∧
      Reconverts ⟨"traefik", "s", "k", "n"⟩ secureIngress :=
  ⟨isFaithful_secureIngress.1, reconverts _ secureIngress isFaithful_secureIngress.2⟩

end TraefikUpgrade.Manifest
