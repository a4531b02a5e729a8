import TraefikUpgrade.Decimal.Binary64

/-!
Contract: the values that documents stand for.

Owns: the type of values, when two values are the same key, the lookup of
fields, and the views of a value that look through its tags. Entries of a
mapping are kept in the order of the document.

Does not own: how a value is read from text (`TraefikUpgrade.Yaml.Document`)
or written (`TraefikUpgrade.Yaml.Writer`).
-/

set_option autoImplicit false

namespace TraefikUpgrade.Yaml

inductive Value where
  | null
  | bool (value : Bool)
  | integer (value : Int)
  | float (value : Decimal.Binary64)
  | string (text : String)
  | sequence (items : List Value)
  | mapping (entries : List (Value × Value))
  | tagged (tag : String) (value : Value)
deriving Repr, Inhabited

namespace Value

mutual

def decideEqual : (first second : Value) → Decidable (first = second)
  | .null, second => by
      cases second
      case null => exact isTrue rfl
      all_goals exact isFalse nofun
  | .bool value, second => by
      cases second
      case bool other => exact decidable_of_iff (value = other) (by simp)
      all_goals exact isFalse nofun
  | .integer value, second => by
      cases second
      case integer other => exact decidable_of_iff (value = other) (by simp)
      all_goals exact isFalse nofun
  | .float value, second => by
      cases second
      case float other => exact decidable_of_iff (value = other) (by simp)
      all_goals exact isFalse nofun
  | .string text, second => by
      cases second
      case string other => exact decidable_of_iff (text = other) (by simp)
      all_goals exact isFalse nofun
  | .sequence items, second => by
      cases second
      case sequence other =>
        exact @decidable_of_iff _ (items = other) (by simp) (decideEqualItems items other)
      all_goals exact isFalse nofun
  | .mapping entries, second => by
      cases second
      case mapping other =>
        exact @decidable_of_iff _ (entries = other) (by simp) (decideEqualEntries entries other)
      all_goals exact isFalse nofun
  | .tagged tag value, second => by
      cases second
      case tagged otherTag other =>
        exact @decidable_of_iff _ (tag = otherTag ∧ value = other) (by simp)
          (@instDecidableAnd _ _ _ (decideEqual value other))
      all_goals exact isFalse nofun

def decideEqualItems : (first second : List Value) → Decidable (first = second)
  | [], [] => isTrue rfl
  | [], _ :: _ => isFalse nofun
  | _ :: _, [] => isFalse nofun
  | head :: rest, other :: others =>
      @decidable_of_iff _ (head = other ∧ rest = others) (by simp)
        (@instDecidableAnd _ _ (decideEqual head other) (decideEqualItems rest others))

def decideEqualEntries : (first second : List (Value × Value)) → Decidable (first = second)
  | [], [] => isTrue rfl
  | [], _ :: _ => isFalse nofun
  | _ :: _, [] => isFalse nofun
  | (key, value) :: rest, (otherKey, otherValue) :: others =>
      @decidable_of_iff _ ((key = otherKey ∧ value = otherValue) ∧ rest = others) (by simp)
        (@instDecidableAnd _ _
          (@instDecidableAnd _ _ (decideEqual key otherKey) (decideEqual value otherValue))
          (decideEqualEntries rest others))

end

instance : DecidableEq Value := decideEqual

mutual

/-- Whether two values are the same key. Numbers compare as numbers, and the order of a mapping's
entries does not count. -/
def sameKey : Value → Value → Bool
  | .null, .null => true
  | .bool first, .bool second => first = second
  | .integer first, .integer second => first = second
  | .float first, .float second => first.sameKey second
  | .string first, .string second => first = second
  | .sequence first, .sequence second => sameItems first second
  | .mapping first, .mapping second =>
      first.length = second.length && allEntriesIn first second
  | .tagged firstTag first, .tagged secondTag second =>
      firstTag = secondTag && sameKey first second
  | _, _ => false

def sameItems : List Value → List Value → Bool
  | [], [] => true
  | first :: rest, second :: others => sameKey first second && sameItems rest others
  | _, _ => false

def allEntriesIn : List (Value × Value) → List (Value × Value) → Bool
  | [], _ => true
  | (key, value) :: rest, entries =>
      (entries.any fun entry => sameKey key entry.1 && sameKey value entry.2) &&
        allEntriesIn rest entries

end

def untagged : Value → Value
  | .tagged _ value => untagged value
  | value => value

/-- The text of a string, under any tags. -/
def text? (value : Value) : Option String :=
  match value.untagged with
  | .string text => some text
  | _ => none

/-- The items of a sequence, under any tags. -/
def items? (value : Value) : Option (List Value) :=
  match value.untagged with
  | .sequence items => some items
  | _ => none

def entries? (value : Value) : Option (List (Value × Value)) :=
  match value.untagged with
  | .mapping entries => some entries
  | _ => none

/-- The value of the entry whose key is the given text, without a tag. -/
def entryOf? (name : String) : List (Value × Value) → Option Value
  | [] => none
  | (.string text, value) :: rest => if text = name then some value else entryOf? name rest
  | _ :: rest => entryOf? name rest

def field? (value : Value) (name : String) : Option Value :=
  value.entries?.bind (entryOf? name)

/-- The entries with a new value for the key, at the place where the key stands. -/
def replaceEntry (name : String) (replacement : Value) :
    List (Value × Value) → List (Value × Value)
  | [] => []
  | (key, value) :: rest =>
      if key = .string name then (key, replacement) :: rest
      else (key, value) :: replaceEntry name replacement rest

end Value

end TraefikUpgrade.Yaml
