import Mathlib
import TraefikUpgrade.Annotation.HeaderMap
import TraefikUpgrade.Proofs.Text.Utf8

/-!
Contract: the spelling that stands for all spellings of a header name.

Owns: the texts that can be header names, which texts are equal in any case of
ASCII letters, where the capitals of a canonical spelling stand, that each name
has exactly one such spelling, and the texts with one canonical spelling.

Does not own: the reading of entries (`TraefikUpgrade.Proofs.Annotation.HeaderMap`).
-/

set_option autoImplicit false

namespace TraefikUpgrade.Annotation

/-! ### Names -/

/-- The visible ASCII characters that stand between the parts of a header. -/
def delimiters : List Char :=
  "\"(),/:;<=>?@[\\]\x7b\x7d".toList

/-- A visible ASCII character that is no delimiter. -/
def IsNameCharacter (character : Char) : Prop :=
  0x20 < character.toNat ∧ character.toNat < 0x7F ∧ character ∉ delimiters

instance (character : Char) : Decidable (IsNameCharacter character) :=
  inferInstanceAs (Decidable (_ ∧ _ ∧ _))

/-- A text of characters that can stand in the name of a header. -/
def IsToken (name : List Char) : Prop :=
  ∀ character ∈ name, IsNameCharacter character

/-- Texts that are equal up to the case of ASCII letters. -/
def SameInAnyCase (first second : List Char) : Prop :=
  first.map Char.toLower = second.map Char.toLower

instance (first second : List Char) : Decidable (SameInAnyCase first second) :=
  inferInstanceAs (Decidable (_ = _))

section Characters

variable {character first second : Char}

theorem toNat_lt_of_isTokenCharacter (isToken : isTokenCharacter character = true) :
    character.toNat < 0x7F := by
  have ofMark : ∀ mark ∈ "!#$%&'*+-.^_\x60|~".toList, mark.toNat < 0x7F := by simp
  rcases Bool.or_eq_true_iff.1 isToken with isAlphanum | isMark
  · simp only [Char.isAlphanum, Char.isAlpha, Char.isUpper, Char.isLower, Char.isDigit,
      Bool.or_eq_true, Bool.and_eq_true, decide_eq_true_eq, UInt32.le_iff_toNat_le, ge_iff_le,
      Char.reduceVal, UInt32.reduceToNat, Char.toNat_val] at isAlphanum
    omega
  · exact ofMark character (List.contains_iff_mem.1 isMark)

/-- Below 0x7F the two descriptions are compared code by code. -/
theorem isTokenCharacter_iff : isTokenCharacter character = true ↔ IsNameCharacter character := by
  have table : ∀ code < 0x7F,
      isTokenCharacter (Char.ofNat code) = decide (IsNameCharacter (Char.ofNat code)) := by
    decide +kernel
  by_cases below : character.toNat < 0x7F
  · have compared := table character.toNat below
    rw [Char.ofNat_toNat] at compared
    rw [compared, decide_eq_true_iff]
  · constructor
    · intro isToken
      exact absurd (toNat_lt_of_isTokenCharacter isToken) below
    · intro isName
      exact absurd isName.2.1 below

theorem all_isTokenCharacter_iff {name : List Char} :
    name.all isTokenCharacter = true ↔ IsToken name := by
  simp only [List.all_eq_true, isTokenCharacter_iff, IsToken]

instance (name : List Char) : Decidable (IsToken name) :=
  decidable_of_iff _ all_isTokenCharacter_iff

theorem isTokenCharacter_of_isAlpha (isLetter : character.isAlpha = true) :
    isTokenCharacter character = true := by
  simp [isTokenCharacter, Char.isAlphanum, isLetter]

theorem isAlpha_of_isUpper (isUpper : character.isUpper = true) : character.isAlpha = true := by
  simp [Char.isAlpha, isUpper]

theorem isTokenCharacter_toLower (character : Char) :
    isTokenCharacter character.toLower = isTokenCharacter character := by
  by_cases isLetter : character.isAlpha = true
  · rw [isTokenCharacter_of_isAlpha isLetter]
    apply isTokenCharacter_of_isAlpha
    rwa [Char.isAlpha_toLower_eq_isAlpha]
  · have notUpper : ¬character.isUpper = true := mt isAlpha_of_isUpper isLetter
    rw [Char.toLower_eq_of_not_isUpper notUpper]

/-- A letter is known by its lower case form and by whether it is a capital. -/
theorem eq_of_toLower_eq (sameLower : first.toLower = second.toLower)
    (sameCase : first.isUpper = true ↔ second.isUpper = true) : first = second := by
  by_cases isUpper : first.isUpper = true
  · have upperCase {letter : Char} (isUpper : letter.isUpper = true) :
        letter.toLower.toUpper = letter := by
      rw [Char.toUpper_toLower_eq_toUpper]
      exact Char.toUpper_eq_of_not_isLower (Char.not_isLower_of_isUpper isUpper)
    rw [← upperCase isUpper, sameLower, upperCase (sameCase.1 isUpper)]
  · have notUpper : ¬second.isUpper = true := mt sameCase.2 isUpper
    rw [← Char.toLower_eq_of_not_isUpper isUpper, sameLower,
      Char.toLower_eq_of_not_isUpper notUpper]

/-- Only letters have a case, so the same rule for their capitals is enough. -/
theorem eq_of_isUpper_iff {isCapital : Prop} (sameLower : first.toLower = second.toLower)
    (ofFirst : first.isAlpha = true → (first.isUpper = true ↔ isCapital))
    (ofSecond : second.isAlpha = true → (second.isUpper = true ↔ isCapital)) :
    first = second := by
  have sameLetter : first.isAlpha = second.isAlpha := by
    rw [← Char.isAlpha_toLower_eq_isAlpha first, sameLower, Char.isAlpha_toLower_eq_isAlpha]
  apply eq_of_toLower_eq sameLower
  by_cases isLetter : first.isAlpha = true
  · exact (ofFirst isLetter).trans (ofSecond (sameLetter ▸ isLetter)).symm
  · have firstNotUpper : ¬first.isUpper = true := mt isAlpha_of_isUpper isLetter
    have secondNotUpper : ¬second.isUpper = true := mt isAlpha_of_isUpper (sameLetter ▸ isLetter)
    exact iff_of_false firstNotUpper secondNotUpper

end Characters

section Names

variable {first second name spelling : List Char} {startsPart : Bool}

theorem SameInAnyCase.isToken_iff (same : SameInAnyCase first second) :
    IsToken first ↔ IsToken second := by
  have ofLower (name : List Char) :
      (name.map Char.toLower).all isTokenCharacter = name.all isTokenCharacter := by
    rw [List.all_map]
    exact congrArg name.all (funext isTokenCharacter_toLower)
  rw [← all_isTokenCharacter_iff, ← all_isTokenCharacter_iff, ← ofLower first, ← ofLower second,
    same]

theorem SameInAnyCase.length_eq (same : SameInAnyCase first second) :
    first.length = second.length := by
  simpa using congrArg List.length same

/-- A name has as many bytes as characters. -/
theorem IsToken.length_toUtf8 (isToken : IsToken name) :
    (Text.toUtf8 (String.ofList name)).length = name.length := by
  have oneByte : ∀ character ∈ name, (String.utf8EncodeChar character).length = 1 := by
    intro character member
    have ascii : character.toNat < 0x7F := (isToken character member).2.1
    rw [String.length_utf8EncodeChar, Char.utf8Size_eq_one_iff, UInt32.le_iff_toNat_le]
    exact Nat.le_of_lt ascii
  rw [Text.toUtf8_eq_flatMap, String.toList_ofList, List.length_flatMap,
    List.map_congr_left oneByte]
  simp

/-! ### Capitals -/

/-- Each letter is a capital exactly where a part starts: behind a hyphen and, if `startsPart`, at
the front. -/
def IsCapitalized (startsPart : Bool) (name : List Char) : Prop :=
  ∀ before letter after, name = before ++ letter :: after → letter.isAlpha = true →
    (letter.isUpper = true ↔ before = [] ∧ startsPart = true ∨ before.getLast? = some '-')

theorem isCapitalized_nil : IsCapitalized startsPart [] := by
  intro before letter after split
  simp at split

/-- The front of what follows a character starts a part just if that character is a hyphen. -/
theorem isCapitalized_cons {character : Char} {rest : List Char} :
    IsCapitalized startsPart (character :: rest) ↔
      (character.isAlpha = true → (character.isUpper = true ↔ startsPart = true)) ∧
        IsCapitalized (character = '-') rest := by
  have moved (before : List Char) :
      (before = [] ∧ decide (character = '-') = true ∨ before.getLast? = some '-') ↔
        (character :: before).getLast? = some '-' := by
    cases before <;> simp
  constructor
  · intro capitalized
    constructor
    · intro isLetter
      simpa using capitalized [] character rest rfl isLetter
    · intro before letter after split isLetter
      rw [moved]
      simpa using capitalized (character :: before) letter after (by rw [split]; rfl) isLetter
  · intro ⟨ofFirst, ofRest⟩ before letter after split isLetter
    cases before with
    | nil =>
        obtain ⟨rfl, rfl⟩ := List.cons.inj split
        simpa using ofFirst isLetter
    | cons first before =>
        obtain ⟨rfl, ofTail⟩ := List.cons.inj split
        have place := ofRest before letter after ofTail isLetter
        rw [moved] at place
        simpa using place

theorem sameInAnyCase_capitalizeParts (startsPart : Bool) (name : List Char) :
    SameInAnyCase (capitalizeParts startsPart name) name := by
  unfold SameInAnyCase
  induction name generalizing startsPart with
  | nil => rfl
  | cons character rest inductionHypothesis =>
      rw [capitalizeParts, List.map_cons, List.map_cons, inductionHypothesis]
      cases startsPart <;> simp

theorem isCapitalized_capitalizeParts (startsPart : Bool) (name : List Char) :
    IsCapitalized startsPart (capitalizeParts startsPart name) := by
  induction name generalizing startsPart with
  | nil => exact isCapitalized_nil
  | cons character rest inductionHypothesis =>
      rw [capitalizeParts, isCapitalized_cons]
      refine ⟨?_, inductionHypothesis _⟩
      cases startsPart <;> simp

/-- The first characters of the two texts are equal, so what follows them starts alike in both. -/
theorem SameInAnyCase.eq_of_isCapitalized (same : SameInAnyCase first second)
    (ofFirst : IsCapitalized startsPart first) (ofSecond : IsCapitalized startsPart second) :
    first = second := by
  induction first generalizing second startsPart with
  | nil =>
      symm
      simpa [SameInAnyCase] using same.symm
  | cons character rest inductionHypothesis =>
      cases second with
      | nil => simp [SameInAnyCase] at same
      | cons other others =>
          obtain ⟨sameLower, sameRest⟩ := List.cons.inj same
          rw [isCapitalized_cons] at ofFirst ofSecond
          obtain rfl := eq_of_isUpper_iff sameLower ofFirst.1 ofSecond.1
          rw [inductionHypothesis sameRest ofFirst.2 ofSecond.2]

/-! ### The canonical spelling -/

theorem canonicalHeaderName_of_isToken (isToken : IsToken name) :
    canonicalHeaderName name = capitalizeParts true name :=
  if_pos (all_isTokenCharacter_iff.2 isToken)

theorem canonicalHeaderName_of_not_isToken (notToken : ¬IsToken name) :
    canonicalHeaderName name = name :=
  if_neg (mt all_isTokenCharacter_iff.1 notToken)

theorem sameInAnyCase_canonicalHeaderName (name : List Char) :
    SameInAnyCase (canonicalHeaderName name) name := by
  by_cases isToken : IsToken name
  · rw [canonicalHeaderName_of_isToken isToken]
    exact sameInAnyCase_capitalizeParts true name
  · rw [canonicalHeaderName_of_not_isToken isToken]
    rfl

theorem isToken_canonicalHeaderName_iff :
    IsToken (canonicalHeaderName name) ↔ IsToken name :=
  (sameInAnyCase_canonicalHeaderName name).isToken_iff

theorem IsToken.isCapitalized_canonicalHeaderName (isToken : IsToken name) :
    IsCapitalized true (canonicalHeaderName name) := by
  rw [canonicalHeaderName_of_isToken isToken]
  exact isCapitalized_capitalizeParts true name

/-- The canonical spelling of a name is its only capitalised one. -/
theorem IsToken.canonicalHeaderName_eq_iff_isCapitalized (isToken : IsToken name) :
    canonicalHeaderName name = spelling ↔
      SameInAnyCase name spelling ∧ IsCapitalized true spelling := by
  constructor
  · intro isSpelling
    rw [← isSpelling]
    exact ⟨(sameInAnyCase_canonicalHeaderName name).symm, isToken.isCapitalized_canonicalHeaderName⟩
  · intro ⟨same, capitalized⟩
    have sameSpelling : SameInAnyCase (canonicalHeaderName name) spelling :=
      (sameInAnyCase_canonicalHeaderName name).trans same
    exact sameSpelling.eq_of_isCapitalized isToken.isCapitalized_canonicalHeaderName capitalized

theorem canonicalHeaderName_eq_self_iff :
    canonicalHeaderName name = name ↔ (IsToken name → IsCapitalized true name) := by
  by_cases isToken : IsToken name
  · rw [isToken.canonicalHeaderName_eq_iff_isCapitalized]
    constructor
    · intro ⟨_, capitalized⟩ _
      exact capitalized
    · intro capitalized
      exact ⟨rfl, capitalized isToken⟩
  · exact iff_of_true (canonicalHeaderName_of_not_isToken isToken) fun isName => absurd isName isToken

theorem canonicalHeaderName_canonicalHeaderName (name : List Char) :
    canonicalHeaderName (canonicalHeaderName name) = canonicalHeaderName name := by
  rw [canonicalHeaderName_eq_self_iff, isToken_canonicalHeaderName_iff]
  exact fun isToken => isToken.isCapitalized_canonicalHeaderName

/-- Names have one canonical spelling exactly when they are equal in any case. -/
theorem IsToken.canonicalHeaderName_eq_iff (isToken : IsToken first) :
    canonicalHeaderName first = canonicalHeaderName second ↔ SameInAnyCase first second := by
  rw [isToken.canonicalHeaderName_eq_iff_isCapitalized]
  constructor
  · intro ⟨same, _⟩
    exact same.trans (sameInAnyCase_canonicalHeaderName second)
  · intro same
    refine ⟨same.trans (sameInAnyCase_canonicalHeaderName second).symm, ?_⟩
    exact (same.isToken_iff.1 isToken).isCapitalized_canonicalHeaderName

/-- A text that is no name shares its canonical spelling with no other text, name or not. -/
theorem canonicalHeaderName_eq_iff_of_not_isToken (notToken : ¬IsToken first) :
    canonicalHeaderName first = canonicalHeaderName second ↔ first = second := by
  constructor
  · intro sameSpelling
    rw [canonicalHeaderName_of_not_isToken notToken] at sameSpelling
    have otherNotToken : ¬IsToken second := by
      rwa [← isToken_canonicalHeaderName_iff, ← sameSpelling]
    rwa [canonicalHeaderName_of_not_isToken otherNotToken] at sameSpelling
  · exact congrArg canonicalHeaderName

theorem length_canonicalHeaderName (name : List Char) :
    (canonicalHeaderName name).length = name.length :=
  (sameInAnyCase_canonicalHeaderName name).length_eq

theorem length_toUtf8_canonicalHeaderName (name : List Char) :
    (Text.toUtf8 (String.ofList (canonicalHeaderName name))).length =
      (Text.toUtf8 (String.ofList name)).length := by
  by_cases isToken : IsToken name
  · rw [(isToken_canonicalHeaderName_iff.2 isToken).length_toUtf8, isToken.length_toUtf8,
      length_canonicalHeaderName]
  · rw [canonicalHeaderName_of_not_isToken isToken]

end Names

/-- A canonical spelling is its own one and as long as the text, in characters and in bytes. Names have
one canonical spelling exactly when they are equal in any case of ASCII letters; it is one of their
spellings, and its capitals are the letters at the front and behind hyphens. A text with a character
that no name has stands for itself alone. -/
theorem header_names_are_canonical (name other : List Char) :
    canonicalHeaderName (canonicalHeaderName name) = canonicalHeaderName name ∧
    (canonicalHeaderName name).length = name.length ∧
    (Text.toUtf8 (String.ofList (canonicalHeaderName name))).length =
      (Text.toUtf8 (String.ofList name)).length ∧
    (IsToken name →
      (canonicalHeaderName name = canonicalHeaderName other ↔ SameInAnyCase name other) ∧
      SameInAnyCase (canonicalHeaderName name) name ∧
      IsCapitalized true (canonicalHeaderName name)) ∧
    (¬IsToken name →
      (canonicalHeaderName name = canonicalHeaderName other ↔ name = other) ∧
      canonicalHeaderName name = name) := by
  refine ⟨canonicalHeaderName_canonicalHeaderName name, length_canonicalHeaderName name,
    length_toUtf8_canonicalHeaderName name, ?_, ?_⟩
  · intro isToken
    exact ⟨isToken.canonicalHeaderName_eq_iff, sameInAnyCase_canonicalHeaderName name,
      isToken.isCapitalized_canonicalHeaderName⟩
  · intro notToken
    exact ⟨canonicalHeaderName_eq_iff_of_not_isToken notToken,
      canonicalHeaderName_of_not_isToken notToken⟩

/-- With a blank in it a text is no name, so the case of its letters counts. -/
theorem header_names_are_canonical_contentType :
    IsToken "content-TYPE".toList ∧
      canonicalHeaderName "content-TYPE".toList = canonicalHeaderName "CONTENT-type".toList ∧
      ¬IsToken "content TYPE".toList ∧
      canonicalHeaderName "content TYPE".toList ≠ canonicalHeaderName "Content Type".toList := by
  have isToken : IsToken "content-TYPE".toList := by decide
  have notToken : ¬IsToken "content TYPE".toList := by decide
  obtain ⟨-, -, -, ofNames, -⟩ :=
    header_names_are_canonical "content-TYPE".toList "CONTENT-type".toList
  obtain ⟨-, -, -, -, ofOthers⟩ :=
    header_names_are_canonical "content TYPE".toList "Content Type".toList
  refine ⟨isToken, (ofNames isToken).1.2 (by decide), notToken, ?_⟩
  intro sameSpelling
  exact absurd ((ofOthers notToken).1.1 sameSpelling) (by decide)

end TraefikUpgrade.Annotation
