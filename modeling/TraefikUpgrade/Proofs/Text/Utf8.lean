import Mathlib.Data.List.Lex
import TraefikUpgrade.Text.Utf8

/-!
Contract: the order of texts by their bytes.

Owns: the bytes of a text as those of its characters, and the agreement of the
order of texts by characters with the order by bytes of the UTF-8 form.

Does not own: the reading of bytes as text.
-/

set_option autoImplicit false

namespace TraefikUpgrade.Text

/-! ### The bytes of a text -/

private theorem toList_loop_eq (bytes : ByteArray) (index : Nat) (read : List UInt8) :
    ByteArray.toList.loop bytes index read =
      read.reverse ++ bytes.data.toList.drop index := by
  fun_induction ByteArray.toList.loop bytes index read with
  | case1 index read inside inductionHypothesis =>
      have insideList : index < bytes.data.toList.length := by simpa using inside
      rw [inductionHypothesis, List.drop_eq_getElem_cons insideList]
      simp [ByteArray.get!, inside]
  | case2 index read outside =>
      rw [List.drop_eq_nil_of_le (by simpa using Nat.le_of_not_lt outside)]
      simp

theorem toUtf8_eq_flatMap (text : String) :
    toUtf8 text = text.toList.flatMap String.utf8EncodeChar := by
  have ofCharacters : text.toByteArray = text.toList.utf8Encode := by
    rw [← String.toByteArray_ofList, String.ofList_toList]
  rw [toUtf8, String.toUTF8_eq_toByteArray, ofCharacters, ByteArray.toList, toList_loop_eq]
  simp [List.utf8Encode]

/-! ### The order of texts -/

/-- Texts in ascending order of their bytes. -/
def BytesBefore (first second : String) : Prop :=
  List.Lex (· < ·) (toUtf8 first) (toUtf8 second)

instance (first second : String) : Decidable (BytesBefore first second) :=
  inferInstanceAs (Decidable (List.Lex (· < ·) (toUtf8 first) (toUtf8 second)))

section Digits

variable {low high : Nat} {afterLow afterHigh : List UInt8}

private theorem lex_of_lt (less : low < high) (bounded : high < 256) :
    List.Lex (· < ·) (UInt8.ofNat low :: afterLow) (UInt8.ofNat high :: afterHigh) := by
  refine .rel (UInt8.lt_iff_toNat_lt.2 ?_)
  rw [UInt8.toNat_ofNat_of_lt' bounded, UInt8.toNat_ofNat_of_lt' (Nat.lt_trans less bounded)]
  exact less

private theorem lex_of_le (atMost : low ≤ high) (bounded : high < 256)
    (later : low = high → List.Lex (· < ·) afterLow afterHigh) :
    List.Lex (· < ·) (UInt8.ofNat low :: afterLow) (UInt8.ofNat high :: afterHigh) := by
  rcases Nat.lt_or_eq_of_le atMost with less | same
  · exact lex_of_lt less bounded
  · rw [same]
    exact .cons (later same)

end Digits

/-- Of two characters with as many bytes the lesser one is less in the first byte that differs;
otherwise it has fewer bytes and is less in the first one. -/
theorem lex_utf8EncodeChar {first second : Char} (less : first.val.toNat < second.val.toNat)
    (afterFirst afterSecond : List UInt8) :
    List.Lex (· < ·) (String.utf8EncodeChar first ++ afterFirst)
      (String.utf8EncodeChar second ++ afterSecond) := by
  have bounded : second.val.toNat < 0x110000 := by
    rcases second.valid with below | ⟨_, below⟩
    · exact Nat.lt_trans below (by decide)
    · exact below
  revert less bounded
  rw [String.utf8EncodeChar, String.utf8EncodeChar]
  generalize first.val.toNat = low
  generalize second.val.toNat = high
  intro less bounded
  split_ifs <;> try omega
  · exact lex_of_lt less (by omega)
  · exact lex_of_lt (by omega) (by omega)
  · exact lex_of_lt (by omega) (by omega)
  · exact lex_of_lt (by omega) (by omega)
  · exact lex_of_le (by omega) (by omega) fun _ => lex_of_lt (by omega) (by omega)
  · exact lex_of_lt (by omega) (by omega)
  · exact lex_of_lt (by omega) (by omega)
  · exact lex_of_le (by omega) (by omega) fun _ =>
      lex_of_le (by omega) (by omega) fun _ => lex_of_lt (by omega) (by omega)
  · exact lex_of_lt (by omega) (by omega)
  · exact lex_of_le (by omega) (by omega) fun _ =>
      lex_of_le (by omega) (by omega) fun _ =>
        lex_of_le (by omega) (by omega) fun _ => lex_of_lt (by omega) (by omega)

private theorem lex_flatMap_utf8EncodeChar {first second : List Char}
    (before : List.Lex (· < ·) first second) :
    List.Lex (· < ·) (first.flatMap String.utf8EncodeChar)
      (second.flatMap String.utf8EncodeChar) := by
  induction before with
  | nil =>
      rw [List.flatMap_cons]
      obtain ⟨byte, rest, encoded⟩ := List.exists_cons_of_ne_nil (@String.utf8EncodeChar_ne_nil _)
      rw [encoded]
      exact .nil
  | cons _ inductionHypothesis => exact List.Lex.append_left _ inductionHypothesis _
  | rel less => exact lex_utf8EncodeChar less _ _

private theorem bytesBefore_of_lt {first second : String} (less : first < second) :
    BytesBefore first second := by
  rw [BytesBefore, toUtf8_eq_flatMap, toUtf8_eq_flatMap]
  exact lex_flatMap_utf8EncodeChar ((List.lt_iff_lex_lt _ _).1 less)

/-- The order of texts by their bytes is the one by their characters. -/
theorem bytesBefore_iff_lt {first second : String} :
    BytesBefore first second ↔ first < second := by
  refine ⟨fun before => ?_, bytesBefore_of_lt⟩
  refine Classical.byContradiction fun notLess => ?_
  rcases Classical.em (second < first) with greater | notGreater
  · exact asymm_of (List.Lex (· < ·)) before (bytesBefore_of_lt greater)
  · have same : first = second := String.le_antisymm notGreater notLess
    rw [same] at before
    exact irrefl_of (List.Lex (· < ·)) (toUtf8 second) before

theorem bytesBefore_of_le {first second : String} (atMost : first ≤ second)
    (differ : first ≠ second) : BytesBefore first second :=
  bytesBefore_of_lt <| Classical.byContradiction fun notLess =>
    differ (String.le_antisymm atMost notLess)

instance : IsStrictTotalOrder String BytesBefore where
  trichotomous _ _ notBefore notAfter :=
    String.le_antisymm (fun less => notAfter (bytesBefore_iff_lt.2 less))
      (fun less => notBefore (bytesBefore_iff_lt.2 less))
  irrefl text := irrefl_of (List.Lex (· < ·)) (toUtf8 text)
  trans _ _ _ first second :=
    bytesBefore_iff_lt.2
      (String.lt_trans (bytesBefore_iff_lt.1 first) (bytesBefore_iff_lt.1 second))

end TraefikUpgrade.Text
