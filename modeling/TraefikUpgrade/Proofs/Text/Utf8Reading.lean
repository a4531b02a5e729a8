import TraefikUpgrade.Proofs.Text.Utf8

/-!
Contract: the reading of bytes as text.

Owns: the bytes that a character can have, that a step reads the character whose
bytes stand first, and that bytes are read as a text exactly when they are its
UTF-8 form.

Does not own: where and why bytes are no text.
-/

set_option autoImplicit false

namespace TraefikUpgrade.Text

/-! ### The bytes of a character -/

/-- A byte that can stand after the first one of a longer character. -/
def IsSecond (first second : UInt8) : Prop :=
  (secondByteRange first).1 ≤ second ∧ second ≤ (secondByteRange first).2

/-- The first byte of a character and the bytes after it. -/
inductive IsForm : UInt8 → List UInt8 → Prop where
  | one {first : UInt8} (less : first.toNat < 0x80) : IsForm first []
  | two {first second : UInt8} (atLeast : 0xC2 ≤ first.toNat) (less : first.toNat < 0xE0)
      (isSecond : IsSecond first second) : IsForm first [second]
  | three {first second third : UInt8} (atLeast : 0xE0 ≤ first.toNat) (less : first.toNat < 0xF0)
      (isSecond : IsSecond first second) (tail : isTail third = true) :
      IsForm first [second, third]
  | four {first second third fourth : UInt8} (atLeast : 0xF0 ≤ first.toNat)
      (atMost : first.toNat ≤ 0xF4) (isSecond : IsSecond first second)
      (tail : isTail third = true) (lastTail : isTail fourth = true) :
      IsForm first [second, third, fourth]

theorem isTail_iff {byte : UInt8} :
    isTail byte = true ↔ 0x80 ≤ byte.toNat ∧ byte.toNat ≤ 0xBF := by
  rw [isTail, Bool.and_eq_true, decide_eq_true_iff, decide_eq_true_iff]
  exact and_congr UInt8.le_iff_toNat_le UInt8.le_iff_toNat_le

/-- The exceptions keep out numbers that have a shorter form, those of surrogates and those that
are too great. -/
theorem isSecond_iff {first second : UInt8} :
    IsSecond first second ↔ 0x80 ≤ second.toNat ∧ second.toNat ≤ 0xBF ∧
      (first.toNat = 0xE0 → 0xA0 ≤ second.toNat) ∧ (first.toNat = 0xED → second.toNat ≤ 0x9F) ∧
      (first.toNat = 0xF0 → 0x90 ≤ second.toNat) ∧ (first.toNat = 0xF4 → second.toNat ≤ 0x8F) := by
  rw [IsSecond, secondByteRange]
  simp only [UInt8.le_iff_toNat_le, ← UInt8.toNat_inj]
  split_ifs <;> simp_all <;> omega

theorem isForm_of_utf8EncodeChar {value : Char} {first : UInt8} {tail : List UInt8}
    (encoded : String.utf8EncodeChar value = first :: tail) : IsForm first tail := by
  have valid : value.val.toNat.isValidChar := value.valid
  revert encoded valid
  rw [String.utf8EncodeChar, Nat.isValidChar]
  generalize value.val.toNat = number
  intro encoded valid
  split_ifs at encoded <;> obtain ⟨rfl, rfl⟩ := List.cons.inj encoded
  · refine .one ?_
    rw [UInt8.toNat_ofNat']
    omega
  · refine .two ?_ ?_ ?_ <;> simp only [isSecond_iff, UInt8.toNat_ofNat'] <;> omega
  · refine .three ?_ ?_ ?_ ?_ <;> simp only [isSecond_iff, isTail_iff, UInt8.toNat_ofNat'] <;> omega
  · refine .four ?_ ?_ ?_ ?_ ?_ <;> simp only [isSecond_iff, isTail_iff, UInt8.toNat_ofNat'] <;>
      omega

theorem utf8EncodeChar_injective : Function.Injective String.utf8EncodeChar := by
  intro first second same
  have notBefore {less greater : Char} (equal : String.utf8EncodeChar less =
      String.utf8EncodeChar greater) : ¬less.val.toNat < greater.val.toNat := by
    intro before
    have lex := lex_utf8EncodeChar before [] []
    rw [equal] at lex
    exact irrefl_of (List.Lex (· < ·)) _ lex
  have numbers : first.val.toNat = second.val.toNat := by
    have := notBefore same
    have := notBefore same.symm
    omega
  exact Char.ext (UInt32.toNat_inj.1 numbers)

/-! ### A step -/

section Step

variable {first second third fourth : UInt8} {rest : List UInt8}

private theorem toNat_ofNat {number : Nat} (valid : number.isValidChar) :
    (Char.ofNat number).val.toNat = number := by
  rw [Char.ofNat, dif_pos valid]
  rfl

private theorem ofNat_eq {number : Nat} {byte : UInt8} (same : number = byte.toNat) :
    UInt8.ofNat number = byte := by
  rw [same, UInt8.ofNat_toNat]

theorem utf8EncodeChar_one (less : first.toNat < 0x80) :
    String.utf8EncodeChar (Char.ofNat first.toNat) = [first] := by
  have valid : first.toNat.isValidChar := .inl (by omega)
  rw [String.utf8EncodeChar, toNat_ofNat valid, if_pos (by omega), UInt8.ofNat_toNat]

theorem utf8EncodeChar_two (atLeast : 0xC2 ≤ first.toNat) (less : first.toNat < 0xE0)
    (isSecond : IsSecond first second) :
    String.utf8EncodeChar (Char.ofNat (first.toNat % 0x20 * 0x40 + tailBits second)) =
      [first, second] := by
  rw [isSecond_iff] at isSecond
  generalize bits : first.toNat % 0x20 * 0x40 + tailBits second = number
  have digits : number = (first.toNat - 0xC0) * 0x40 + (second.toNat - 0x80) := by
    rw [← bits, tailBits]
    omega
  have valid : number.isValidChar := .inl (by omega)
  rw [String.utf8EncodeChar, toNat_ofNat valid, if_neg (by omega), if_pos (by omega),
    @ofNat_eq _ first (by omega), @ofNat_eq _ second (by omega)]

theorem utf8EncodeChar_three (atLeast : 0xE0 ≤ first.toNat) (less : first.toNat < 0xF0)
    (isSecond : IsSecond first second) (tail : isTail third = true) :
    String.utf8EncodeChar (Char.ofNat ((first.toNat % 0x10 * 0x40 + tailBits second) * 0x40 +
      tailBits third)) = [first, second, third] := by
  rw [isSecond_iff] at isSecond
  rw [isTail_iff] at tail
  generalize bits : (first.toNat % 0x10 * 0x40 + tailBits second) * 0x40 + tailBits third = number
  have digits : number =
      ((first.toNat - 0xE0) * 0x40 + (second.toNat - 0x80)) * 0x40 + (third.toNat - 0x80) := by
    rw [← bits, tailBits, tailBits]
    omega
  have valid : number.isValidChar := by
    rw [Nat.isValidChar]
    omega
  rw [String.utf8EncodeChar, toNat_ofNat valid, if_neg (by omega), if_neg (by omega),
    if_pos (by omega), @ofNat_eq _ first (by omega), @ofNat_eq _ second (by omega),
    @ofNat_eq _ third (by omega)]

theorem utf8EncodeChar_four (atLeast : 0xF0 ≤ first.toNat) (atMost : first.toNat ≤ 0xF4)
    (isSecond : IsSecond first second) (tail : isTail third = true)
    (lastTail : isTail fourth = true) :
    String.utf8EncodeChar (Char.ofNat (((first.toNat % 0x08 * 0x40 + tailBits second) * 0x40 +
      tailBits third) * 0x40 + tailBits fourth)) = [first, second, third, fourth] := by
  rw [isSecond_iff] at isSecond
  rw [isTail_iff] at tail lastTail
  generalize bits : ((first.toNat % 0x08 * 0x40 + tailBits second) * 0x40 + tailBits third) * 0x40 +
    tailBits fourth = number
  have digits : number = (((first.toNat - 0xF0) * 0x40 + (second.toNat - 0x80)) * 0x40 +
      (third.toNat - 0x80)) * 0x40 + (fourth.toNat - 0x80) := by
    rw [← bits, tailBits, tailBits, tailBits]
    omega
  have valid : number.isValidChar := by
    rw [Nat.isValidChar]
    omega
  rw [String.utf8EncodeChar, toNat_ofNat valid, if_neg (by omega), if_neg (by omega),
    if_neg (by omega), @ofNat_eq _ first (by omega), @ofNat_eq _ second (by omega),
    @ofNat_eq _ third (by omega), @ofNat_eq _ fourth (by omega)]

theorem not_stray_iff :
    ¬(first < 0xC2 || 0xF4 < first) = true ↔ 0xC2 ≤ first.toNat ∧ first.toNat ≤ 0xF4 := by
  rw [Bool.not_eq_true, Bool.or_eq_false_iff, decide_eq_false_iff_not, decide_eq_false_iff_not,
    UInt8.not_lt, UInt8.not_lt]
  exact and_congr UInt8.le_iff_toNat_le UInt8.le_iff_toNat_le

theorem not_outside_iff :
    ¬(second < (secondByteRange first).1 || (secondByteRange first).2 < second) = true ↔
      IsSecond first second := by
  rw [Bool.not_eq_true, Bool.or_eq_false_iff, decide_eq_false_iff_not, decide_eq_false_iff_not,
    UInt8.not_lt, UInt8.not_lt, IsSecond]

theorem not_ascii (atLeast : 0xC2 ≤ first.toNat) : ¬first < 0x80 :=
  UInt8.not_lt.2 (UInt8.le_iff_toNat_le.2 (Nat.le_trans (by decide) atLeast))

end Step

/-- The character with some bytes is read off them, whatever comes after. -/
theorem IsForm.exists_read {first : UInt8} {tail : List UInt8} (form : IsForm first tail) :
    ∃ value, String.utf8EncodeChar value = first :: tail ∧
      ∀ after, utf8Step first (tail ++ after) = .character value (tail.length + 1) := by
  have isShort : first < 0xE0 ↔ first.toNat < 0xE0 := UInt8.lt_iff_toNat_lt
  have isMedium : first < 0xF0 ↔ first.toNat < 0xF0 := UInt8.lt_iff_toNat_lt
  cases form with
  | one less =>
      have ascii : first < 0x80 := UInt8.lt_iff_toNat_lt.2 less
      refine ⟨_, utf8EncodeChar_one less, fun after => ?_⟩
      rw [utf8Step, if_pos ascii]
      rfl
  | two atLeast less isSecond =>
      refine ⟨_, utf8EncodeChar_two atLeast less isSecond, fun after => ?_⟩
      rw [List.cons_append, utf8Step, if_neg (not_ascii atLeast),
        if_neg (not_stray_iff.2 ⟨atLeast, by omega⟩)]
      refine (if_neg (not_outside_iff.2 isSecond)).trans ?_
      rw [if_pos (isShort.2 less)]
      rfl
  | three atLeast less isSecond tail =>
      refine ⟨_, utf8EncodeChar_three atLeast less isSecond tail, fun after => ?_⟩
      rw [List.cons_append, utf8Step, if_neg (not_ascii (by omega)),
        if_neg (not_stray_iff.2 ⟨by omega, by omega⟩)]
      refine (if_neg (not_outside_iff.2 isSecond)).trans ?_
      rw [if_neg (mt isShort.1 (by omega))]
      simp [tail, isMedium.2 less]
  | four atLeast atMost isSecond tail lastTail =>
      refine ⟨_, utf8EncodeChar_four atLeast atMost isSecond tail lastTail, fun after => ?_⟩
      rw [List.cons_append, utf8Step, if_neg (not_ascii (by omega)),
        if_neg (not_stray_iff.2 ⟨by omega, atMost⟩)]
      refine (if_neg (not_outside_iff.2 isSecond)).trans ?_
      rw [if_neg (mt isShort.1 (by omega))]
      simp [tail, lastTail, mt isMedium.1 (by omega)]

theorem isForm_of_step {first : UInt8} {rest : List UInt8} {value : Char} {length : Nat}
    (step : utf8Step first rest = .character value length) :
    ∃ tail, IsForm first tail ∧ tail <+: rest := by
  revert step
  -- A character of one, two, three or four bytes is read; in the other cases there is a fault.
  fun_cases utf8Step first rest with
  | case1 _ less =>
      exact fun _ => ⟨[], .one (UInt8.lt_iff_toNat_lt.1 less), List.nil_prefix⟩
  | case5 notAscii notStray low high range second rest inRange less =>
      rw [not_stray_iff] at notStray
      have isSecond : IsSecond first second := not_outside_iff.1 (by rwa [range])
      refine fun _ => ⟨[second], .two notStray.1 ?_ isSecond, ⟨rest, rfl⟩⟩
      exact UInt8.lt_iff_toNat_lt.1 less
  | case8 notAscii notStray low high range second inRange atLeast third rest isTail less =>
      have isSecond : IsSecond first second := not_outside_iff.1 (by rwa [range])
      refine fun _ => ⟨[second, third], .three ?_ ?_ isSecond ?_, ⟨rest, rfl⟩⟩
      · exact UInt8.le_iff_toNat_le.1 (UInt8.not_lt.1 atLeast)
      · exact UInt8.lt_iff_toNat_lt.1 less
      · rwa [Bool.not_eq_true', Bool.not_eq_false] at isTail
  | case11 notAscii notStray low high range second inRange _ third isTail atLeast fourth rest
      isLast =>
      rw [not_stray_iff] at notStray
      have isSecond : IsSecond first second := not_outside_iff.1 (by rwa [range])
      refine fun _ => ⟨[second, third, fourth], .four ?_ notStray.2 isSecond ?_ ?_, ⟨rest, rfl⟩⟩
      · exact UInt8.le_iff_toNat_le.1 (UInt8.not_lt.1 atLeast)
      · rwa [Bool.not_eq_true', Bool.not_eq_false] at isTail
      · rwa [Bool.not_eq_true', Bool.not_eq_false] at isLast
  | _ => exact nofun

/-- A step reads the character whose bytes stand first. -/
theorem utf8Step_eq_character_iff {first : UInt8} {rest : List UInt8} {value : Char}
    {length : Nat} :
    utf8Step first rest = .character value length ↔
      ∃ tail after, String.utf8EncodeChar value = first :: tail ∧ rest = tail ++ after ∧
        length = tail.length + 1 := by
  constructor
  · intro step
    obtain ⟨tail, form, after, rfl⟩ := isForm_of_step step
    obtain ⟨_, encoded, reads⟩ := form.exists_read
    obtain ⟨rfl, rfl⟩ := Utf8Step.character.inj ((reads after).symm.trans step)
    exact ⟨tail, after, encoded, rfl, rfl⟩
  · rintro ⟨tail, after, encoded, rfl, rfl⟩
    obtain ⟨_, encodedAlso, reads⟩ := (isForm_of_utf8EncodeChar encoded).exists_read
    rw [utf8EncodeChar_injective (encoded.trans encodedAlso.symm)]
    exact reads after

/-! ### A text -/

/-- Bytes are those of some characters exactly when the first one is read off them by a step, and
what the step leaves are those of the others. -/
theorem flatMap_utf8EncodeChar_eq_cons_iff {characters : List Char} {first : UInt8}
    {rest : List UInt8} :
    characters.flatMap String.utf8EncodeChar = first :: rest ↔
      ∃ value length following, utf8Step first rest = .character value length ∧
        characters = value :: following ∧
        following.flatMap String.utf8EncodeChar = rest.drop (length - 1) := by
  constructor
  · intro encoded
    cases characters with
    | nil => cases encoded
    | cons value following =>
        obtain ⟨byte, tail, form⟩ :=
          List.exists_cons_of_ne_nil (@String.utf8EncodeChar_ne_nil value)
        rw [List.flatMap_cons, form] at encoded
        obtain ⟨rfl, rfl⟩ := List.cons.inj encoded
        refine ⟨value, tail.length + 1, following, ?_, rfl, List.drop_left.symm⟩
        exact utf8Step_eq_character_iff.2 ⟨tail, _, form, rfl, rfl⟩
  · rintro ⟨value, length, following, step, rfl, encoded⟩
    obtain ⟨tail, after, form, rfl, rfl⟩ := utf8Step_eq_character_iff.1 step
    rw [List.flatMap_cons, form, encoded, Nat.add_sub_cancel, List.drop_left]
    rfl

/-- Characters are read off bytes exactly when the bytes are theirs. -/
theorem utf8Characters_eq_ok_iff {steps index : Nat} {bytes : List UInt8} {characters : List Char}
    (enough : bytes.length ≤ steps) :
    utf8Characters steps index bytes = .ok characters ↔
      characters.flatMap String.utf8EncodeChar = bytes := by
  have noCharacter (characters : List Char) :
      Except.ok [] = (.ok characters : Except Utf8Fault (List Char)) ↔
        characters.flatMap String.utf8EncodeChar = [] := by
    cases characters <;> simp [String.utf8EncodeChar_ne_nil]
  induction steps generalizing index bytes characters with
  | zero =>
      obtain rfl := List.eq_nil_of_length_eq_zero (Nat.le_zero.1 enough)
      exact noCharacter characters
  | succ steps inductionHypothesis =>
      cases bytes with
      | nil => exact noCharacter characters
      | cons first rest =>
          rw [utf8Characters, flatMap_utf8EncodeChar_eq_cons_iff]
          cases utf8Step first rest with
          | fault invalidLength =>
              refine iff_of_false nofun ?_
              rintro ⟨_, _, _, ⟨⟩, _⟩
          | character value length =>
              have fewer : (rest.drop (length - 1)).length ≤ steps := by
                rw [List.length_cons] at enough
                rw [List.length_drop]
                omega
              have ofRest := fun following =>
                @inductionHypothesis (index + length) _ following fewer
              dsimp only
              generalize utf8Characters steps (index + length) (rest.drop (length - 1)) = read
                at ofRest
              constructor
              · intro isRead
                cases read with
                | error fault => cases isRead
                | ok following =>
                    cases isRead
                    exact ⟨value, length, following, rfl, rfl, (ofRest following).1 rfl⟩
              · rintro ⟨_, _, following, ⟨⟩, rfl, encoded⟩
                rw [(ofRest following).2 encoded]
                rfl

/-- Bytes are read as a text exactly when they are its UTF-8 form. -/
theorem ofUtf8_eq_ok_iff {bytes : List UInt8} {text : String} :
    ofUtf8 bytes = .ok text ↔ toUtf8 text = bytes := by
  rw [toUtf8_eq_flatMap, ← @utf8Characters_eq_ok_iff _ 0 _ _ le_rfl, ofUtf8]
  cases utf8Characters bytes.length 0 bytes with
  | error fault => exact iff_of_false nofun nofun
  | ok characters =>
      rw [Except.ok.injEq]
      refine ⟨fun same => ?_, fun same => ?_⟩
      · rw [← Except.ok.inj same, String.toList_ofList]
      · rw [same, Except.map, String.ofList_toList]

end TraefikUpgrade.Text
