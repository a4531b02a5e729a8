import Mathlib.Data.List.Induction
import TraefikUpgrade.Decimal.Integer

/-!
Contract: numbers read from the digits they are written with.

Owns: the reading of decimal digits one after another, the number that its own
digits stand for, with or without zeros in front, that nothing else is read as a
number, and the decimal integers with an optional sign.

Does not own: which characters stand around digits in a format.
-/

set_option autoImplicit false

namespace TraefikUpgrade.Decimal

theorem digitsAfter?_append (radix accumulated : Nat) (first second : List Char) :
    digitsAfter? radix accumulated (first ++ second) =
      (digitsAfter? radix accumulated first).bind fun value => digitsAfter? radix value second := by
  induction first generalizing accumulated with
  | nil => rfl
  | cons character rest inductionHypothesis =>
      rw [List.cons_append, digitsAfter?, digitsAfter?]
      cases digit? radix character with
      | none => rfl
      | some value => exact inductionHypothesis _

theorem digit?_digitChar {value : Nat} (isDigit : value < 10) :
    digit? 10 value.digitChar = some value := by
  simp [digit?, Nat.isDigit_digitChar, Nat.toNat_digitChar_sub_48_of_lt_ten isDigit, isDigit]

theorem digitsAfter?_toDigits (value : Nat) :
    digitsAfter? 10 0 (Nat.toDigits 10 value) = some value := by
  induction value using Nat.strongRecOn with
  | ind value inductionHypothesis =>
      rw [Nat.toDigits_eq_if (by decide)]
      split
      · rename_i small
        simp [digitsAfter?, digit?_digitChar small]
      · rename_i large
        have lastDigit : value % 10 < 10 := Nat.mod_lt _ (by decide)
        have quotient : value / 10 * 10 + value % 10 = value := Nat.div_add_mod' value 10
        rw [digitsAfter?_append, inductionHypothesis _ (by omega)]
        simp [digitsAfter?, digit?_digitChar lastDigit, quotient]

/-- Zeros in front of the digits of a number do not change it. -/
theorem natural?_zeros_append (zeros value : Nat) :
    natural? 10 (List.replicate zeros '0' ++ Nat.toDigits 10 value) = some value := by
  have read : digitsAfter? 10 0 (List.replicate zeros '0' ++ Nat.toDigits 10 value) = some value := by
    induction zeros with
    | zero => exact digitsAfter?_toDigits value
    | succ zeros inductionHypothesis => exact inductionHypothesis
  unfold natural?
  split
  · rename_i nothing
    exact absurd (List.append_eq_nil_iff.1 nothing).2 Nat.toDigits_ne_nil
  · exact read

theorem digit?_eq_some {character : Char} {value : Nat} (read : digit? 10 character = some value) :
    value < 10 ∧ character = value.digitChar := by
  unfold digit? at read
  obtain ⟨small, isValue⟩ := Option.ite_none_right_eq_some.1 read
  have isValue := Option.some.inj isValue
  by_cases isDigit : character.isDigit
  · rw [if_pos isDigit] at small isValue
    have atLeast : 48 ≤ character.toNat := by
      simp [Char.isDigit, UInt32.le_iff_toNat_le] at isDigit
      exact isDigit.1
    subst isValue
    refine ⟨small, Char.toNat_inj.1 ?_⟩
    rw [Nat.toNat_digitChar_of_lt_ten small]
    exact (Nat.add_sub_of_le atLeast).symm
  · -- a letter is worth ten at least
    rw [if_neg isDigit] at small
    split at small
    · omega
    · split at small <;> omega

theorem digitsAfter?_singleton {accumulated value : Nat} {character : Char}
    (read : digitsAfter? 10 accumulated [character] = some value) :
    ∃ digit < 10, character = digit.digitChar ∧ value = 10 * accumulated + digit := by
  obtain ⟨digit, isDigit, isValue⟩ := Option.bind_eq_some_iff.1 read
  obtain ⟨small, isCharacter⟩ := digit?_eq_some isDigit
  refine ⟨digit, small, isCharacter, ?_⟩
  rw [Nat.mul_comm]
  exact (Option.some.inj isValue).symm

/-- Digits that are read as a number are its own digits behind zeros. -/
theorem exists_zeros_of_digitsAfter? {characters : List Char} {value : Nat}
    (present : characters ≠ []) (read : digitsAfter? 10 0 characters = some value) :
    ∃ zeros, characters = List.replicate zeros '0' ++ Nat.toDigits 10 value := by
  induction characters using List.reverseRecOn generalizing value with
  | nil => contradiction
  | append_singleton front last inductionHypothesis =>
      rw [digitsAfter?_append] at read
      obtain ⟨quotient, readFront, readLast⟩ := Option.bind_eq_some_iff.1 read
      obtain ⟨digit, small, rfl, rfl⟩ := digitsAfter?_singleton readLast
      have ownDigits : Nat.toDigits 10 digit = [digit.digitChar] :=
        Nat.toDigits_of_lt_base small
      by_cases noFront : front = []
      · subst noFront
        cases readFront
        exact ⟨0, by simp [ownDigits]⟩
      · obtain ⟨zeros, rfl⟩ := inductionHypothesis noFront readFront
        by_cases allZeros : quotient = 0
        · subst allZeros
          refine ⟨zeros + 1, ?_⟩
          rw [Nat.mul_zero, Nat.zero_add, ownDigits, List.replicate_succ']
          rfl
        · have digits := Nat.toDigits_append_toDigits (b := 10) (by decide)
            (Nat.pos_of_ne_zero allZeros) small
          exact ⟨zeros, by rw [← digits, ownDigits, List.append_assoc]⟩

theorem natural?_eq_some_iff {characters : List Char} {value : Nat} :
    natural? 10 characters = some value ↔
      ∃ zeros, characters = List.replicate zeros '0' ++ Nat.toDigits 10 value := by
  constructor
  · intro read
    cases characters with
    | nil => cases read
    | cons first rest => exact exists_zeros_of_digitsAfter? (by simp) read
  · rintro ⟨zeros, rfl⟩
    exact natural?_zeros_append zeros value

/-- The digits of a number behind any number of zeros, with or without a sign in front. -/
inductive IsInteger : List Char → Int → Prop where
  | unsigned {zeros value : Nat} :
      IsInteger (List.replicate zeros '0' ++ Nat.toDigits 10 value) value
  | plus {zeros value : Nat} :
      IsInteger ('+' :: (List.replicate zeros '0' ++ Nat.toDigits 10 value)) value
  | minus {zeros value : Nat} :
      IsInteger ('-' :: (List.replicate zeros '0' ++ Nat.toDigits 10 value)) (-value)

theorem isDigit_of_mem_zeros_append {zeros value : Nat} :
    ∀ character ∈ List.replicate zeros '0' ++ Nat.toDigits 10 value,
      character.isDigit = true := by
  intro character member
  rcases List.mem_append.1 member with zero | digit
  · rw [List.eq_of_mem_replicate zero]
    rfl
  · exact Nat.isDigit_of_mem_toDigits (by decide) (by decide) digit

theorem integer?_of_isDigit {characters : List Char}
    (areDigits : ∀ character ∈ characters, character.isDigit = true) :
    integer? characters = (natural? 10 characters).map Int.ofNat := by
  unfold integer?
  split
  · exact absurd (areDigits '+' List.mem_cons_self) (by decide)
  · exact absurd (areDigits '-' List.mem_cons_self) (by decide)
  · rfl

theorem integer?_eq_some_iff {characters : List Char} {value : Int} :
    integer? characters = some value ↔ IsInteger characters value := by
  constructor
  · intro read
    unfold integer? at read
    split at read
    · obtain ⟨magnitude, isMagnitude, rfl⟩ := Option.map_eq_some_iff.1 read
      obtain ⟨zeros, rfl⟩ := natural?_eq_some_iff.1 isMagnitude
      exact .plus
    · obtain ⟨negated, isNegated, rfl⟩ := Option.map_eq_some_iff.1 read
      obtain ⟨magnitude, isMagnitude, ⟨⟩⟩ := Option.bind_eq_some_iff.1 isNegated
      obtain ⟨zeros, rfl⟩ := natural?_eq_some_iff.1 isMagnitude
      exact .minus
    · obtain ⟨magnitude, isMagnitude, rfl⟩ := Option.map_eq_some_iff.1 read
      obtain ⟨zeros, rfl⟩ := natural?_eq_some_iff.1 isMagnitude
      exact .unsigned
  · intro isInteger
    cases isInteger with
    | unsigned =>
        rw [integer?_of_isDigit isDigit_of_mem_zeros_append, natural?_zeros_append]
        rfl
    | plus =>
        rw [integer?, natural?_zeros_append]
        rfl
    | minus =>
        rw [integer?, natural?_zeros_append]
        rfl

end TraefikUpgrade.Decimal
