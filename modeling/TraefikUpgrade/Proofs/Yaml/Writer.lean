import TraefikUpgrade.Yaml.Writer

/-!
Contract: what every written document has in common.

Owns: that something is written for every value.

Does not own: that a written document is read as its value, which is assumed
where it is needed.
-/

set_option autoImplicit false

namespace TraefikUpgrade.Yaml

namespace Writer

theorem endLine_ne_nil (text : List Char) : endLine text ≠ [] := by
  unfold endLine
  split
  · rename_i ended
    intro empty
    simp [empty] at ended
  · simp

theorem scalarNode_ne_nil (place : Place) (column : Nat) (tag : List Char) (style : Style)
    (text : List Char) : scalarNode place column tag style text ≠ [] :=
  List.append_ne_nil_of_right_ne_nil _ (endLine_ne_nil _)

theorem itemLines_ne_nil (column : Nat) {items : List Value} (someItem : items ≠ []) :
    itemLines column items ≠ [] := by
  cases items with
  | nil => contradiction
  | cons item rest => simp [itemLines]

theorem entryLines_ne_nil (column : Nat) {entries : List (Value × Value)}
    (someEntry : entries ≠ []) : entryLines column entries ≠ [] := by
  cases entries with
  | nil => contradiction
  | cons entry rest =>
      obtain ⟨key, value⟩ := entry
      rw [entryLines]
      cases simpleKey? key with
      | none => simp
      | some text => simp

theorem node_ne_nil (place : Place) (column : Nat) : ∀ (tag : List Char) (value : Value),
    node place column tag value ≠ []
  | tag, .tagged inner value => by
      rw [node]
      exact node_ne_nil place column (tagText inner) value
  | tag, .sequence [] => by simp [node]
  | tag, .sequence (item :: rest) => by
      rw [node]
      · exact List.append_ne_nil_of_right_ne_nil _ (itemLines_ne_nil _ (by simp))
      · simp
  | tag, .mapping [] => by simp [node]
  | tag, .mapping (entry :: rest) => by
      rw [node]
      · exact List.append_ne_nil_of_right_ne_nil _ (entryLines_ne_nil _ (by simp))
      · simp
  | tag, .null => scalarNode_ne_nil _ _ _ _ _
  | tag, .bool value => scalarNode_ne_nil _ _ _ _ _
  | tag, .integer value => scalarNode_ne_nil _ _ _ _ _
  | tag, .float value => scalarNode_ne_nil _ _ _ _ _
  | tag, .string text => scalarNode_ne_nil _ _ _ _ _

end Writer

/-- No value is written as an empty text. -/
theorem render_ne_empty (value : Value) : render value ≠ "" := by
  intro empty
  have noCharacters := congrArg String.toList empty
  unfold render at noCharacters
  rw [String.toList_ofList] at noCharacters
  exact Writer.node_ne_nil .document 0 [] value noCharacters

end TraefikUpgrade.Yaml
