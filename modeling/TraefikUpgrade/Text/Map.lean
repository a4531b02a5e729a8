/-!
Contract: finite maps from text to text.

Owns: the map type of annotations, labels and headers, kept as its entries in
ascending order of keys, so that equal maps are equal values and the order in
which a map is written is the order in which it is kept. Keys compare by code
points, which is the order of their UTF-8 bytes.

Does not own: how a map is read from or written to a document.
-/

set_option autoImplicit false

namespace TraefikUpgrade

/-- Entries with strictly ascending keys. -/
def AscendingKeys (entries : List (String × String)) : Prop :=
  entries.Pairwise fun earlier later => earlier.1 < later.1

/-- A finite map from text to text. -/
structure TextMap where
  /-- The entries in ascending order of keys. -/
  toList : List (String × String)
  ascending : AscendingKeys toList
deriving DecidableEq

namespace TextMap

instance : Repr TextMap where
  reprPrec map precedence := reprPrec map.toList precedence

def empty : TextMap :=
  ⟨[], List.Pairwise.nil⟩

def isEmpty (map : TextMap) : Bool :=
  map.toList.isEmpty

def lookup (key : String) : List (String × String) → Option String
  | [] => none
  | entry :: rest => if entry.1 = key then some entry.2 else lookup key rest

def get? (map : TextMap) (key : String) : Option String :=
  lookup key map.toList

/-- Sets the value of a key in a list of entries with ascending keys. -/
def insertEntry (key value : String) :
    List (String × String) → List (String × String)
  | [] => [(key, value)]
  | entry :: rest =>
      if key < entry.1 then (key, value) :: entry :: rest
      else if key = entry.1 then (key, value) :: rest
      else entry :: insertEntry key value rest

theorem mem_insertEntry {key value : String} {entry : String × String} :
    ∀ {entries : List (String × String)},
      entry ∈ insertEntry key value entries → entry = (key, value) ∨ entry ∈ entries
  | [], member => by simpa [insertEntry] using member
  | head :: rest, member => by
      rw [insertEntry] at member
      split at member
      · simpa using member
      · split at member
        · rcases List.mem_cons.1 member with equal | member
          · exact .inl equal
          · exact .inr (List.mem_cons_of_mem _ member)
        · rcases List.mem_cons.1 member with equal | member
          · exact .inr (equal ▸ List.mem_cons_self)
          · exact (mem_insertEntry member).imp_right (List.mem_cons_of_mem _)

theorem ascendingKeys_insertEntry (key value : String) :
    ∀ {entries : List (String × String)},
      AscendingKeys entries → AscendingKeys (insertEntry key value entries)
  | [], _ => List.pairwise_singleton _ _
  | head :: rest, ascending => by
      have ⟨headBelow, restAscending⟩ := List.pairwise_cons.1 ascending
      rw [insertEntry]
      split
      · rename_i below
        refine List.pairwise_cons.2 ⟨fun entry member => ?_, ascending⟩
        rcases List.mem_cons.1 member with equal | member
        · exact equal ▸ below
        · exact String.lt_trans below (headBelow entry member)
      · rename_i notBelow
        split
        · rename_i equal
          exact List.pairwise_cons.2 ⟨fun entry member => equal ▸ headBelow entry member,
            restAscending⟩
        · rename_i different
          refine List.pairwise_cons.2
            ⟨fun entry member => ?_, ascendingKeys_insertEntry key value restAscending⟩
          rcases mem_insertEntry member with equal | member
          · subst equal
            refine Decidable.byContradiction fun notAbove => different ?_
            exact String.le_antisymm (String.not_lt.1 notAbove) (String.not_lt.1 notBelow)
          · exact headBelow entry member

def insert (map : TextMap) (key value : String) : TextMap :=
  ⟨insertEntry key value map.toList, ascendingKeys_insertEntry key value map.ascending⟩

/-- The map of the entries; of two with one key the later one counts. -/
def ofList (entries : List (String × String)) : TextMap :=
  entries.foldl (fun map entry => map.insert entry.1 entry.2) empty

end TextMap

end TraefikUpgrade
