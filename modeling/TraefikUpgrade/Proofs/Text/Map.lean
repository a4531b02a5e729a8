import Mathlib.Data.List.Induction
import Mathlib.Data.List.Nodup
import TraefikUpgrade.Text.Map

/-!
Contract: what a text map holds.

Owns: the values of a map with a new one in it, when setting a value changes
nothing, when two maps are the same, and the values of a map that is made of a
list of entries.

Does not own: the order of the entries (`TraefikUpgrade.Text.Map`).
-/

set_option autoImplicit false

namespace TraefikUpgrade.TextMap

theorem lookup_insertEntry (key value wanted : String) (entries : List (String × String)) :
    lookup wanted (insertEntry key value entries) =
      if wanted = key then some value else lookup wanted entries := by
  induction entries with
  | nil => simp [insertEntry, lookup, eq_comm]
  | cons entry rest inductionHypothesis =>
      rw [insertEntry]
      by_cases below : key < entry.1
      · rw [if_pos below, lookup]
        simp [eq_comm]
      · rw [if_neg below]
        by_cases same : key = entry.1
        · rw [if_pos same, lookup, lookup]
          by_cases isWanted : wanted = key
          · simp [isWanted]
          · simp [isWanted, Ne.symm isWanted, ← same]
        · rw [if_neg same, lookup, lookup, inductionHypothesis]
          by_cases isWanted : wanted = key
          · simp [isWanted, Ne.symm same]
          · simp [isWanted]

theorem get?_insert (map : TextMap) (key value wanted : String) :
    (map.insert key value).get? wanted = if wanted = key then some value else map.get? wanted :=
  lookup_insertEntry key value wanted map.toList

theorem lookup_eq_none_of_below {key : String} {entries : List (String × String)}
    (below : ∀ entry ∈ entries, key < entry.1) : lookup key entries = none := by
  induction entries with
  | nil => rfl
  | cons entry rest inductionHypothesis =>
      have different : entry.1 ≠ key := by
        intro same
        exact String.lt_irrefl key (same ▸ below entry List.mem_cons_self)
      rw [lookup, if_neg different]
      exact inductionHypothesis fun other member => below other (List.mem_cons_of_mem _ member)

theorem insertEntry_eq_self {key value : String} {entries : List (String × String)}
    (ascending : AscendingKeys entries) (present : lookup key entries = some value) :
    insertEntry key value entries = entries := by
  induction entries with
  | nil => cases present
  | cons entry rest inductionHypothesis =>
      have ⟨headBelow, restAscending⟩ := List.pairwise_cons.1 ascending
      rw [lookup] at present
      rw [insertEntry]
      by_cases same : entry.1 = key
      · rw [if_pos same] at present
        have isHead : entry = (key, value) := Prod.ext same (Option.some.inj present)
        simp [isHead]
      · rw [if_neg same] at present
        have notBelow : ¬key < entry.1 := by
          intro below
          have absent : lookup key rest = none :=
            lookup_eq_none_of_below fun other member =>
              String.lt_trans below (headBelow other member)
          rw [absent] at present
          cases present
        rw [if_neg notBelow, if_neg (Ne.symm same), inductionHypothesis restAscending present]

/-- Setting a value that a map already has changes nothing. -/
theorem insert_eq_self {map : TextMap} {key value : String}
    (present : map.get? key = some value) : map.insert key value = map := by
  cases map with
  | mk entries ascending =>
      unfold insert
      congr 1
      exact insertEntry_eq_self ascending present

/-- A lookup finds the first entry with a key. -/
theorem lookup_eq_some_iff_append {key value : String} {entries : List (String × String)} :
    lookup key entries = some value ↔
      ∃ earlier later, entries = earlier ++ (key, value) :: later ∧
        ∀ entry ∈ earlier, entry.1 ≠ key := by
  induction entries with
  | nil => simp [lookup]
  | cons entry rest inductionHypothesis =>
      rw [lookup]
      by_cases same : entry.1 = key
      · rw [if_pos same, Option.some.injEq]
        constructor
        · rintro rfl
          exact ⟨[], rest, by rw [← same, List.nil_append], by simp⟩
        · rintro ⟨earlier | ⟨first, earlier⟩, later, split, others⟩
          · rw [(List.cons.inj split).1]
          · exact absurd same ((List.cons.inj split).1 ▸ others first List.mem_cons_self)
      · rw [if_neg same, inductionHypothesis]
        constructor
        · rintro ⟨earlier, later, rfl, others⟩
          exact ⟨entry :: earlier, later, rfl, by simpa [same] using others⟩
        · rintro ⟨earlier | ⟨first, earlier⟩, later, split, others⟩
          · exact absurd (by rw [(List.cons.inj split).1]) same
          · exact ⟨earlier, later, (List.cons.inj split).2,
              fun other member => others other (List.mem_cons_of_mem _ member)⟩

theorem mem_of_lookup {key value : String} {entries : List (String × String)}
    (present : lookup key entries = some value) : (key, value) ∈ entries := by
  obtain ⟨earlier, later, rfl, -⟩ := lookup_eq_some_iff_append.1 present
  simp

/-- Where no key stands twice, a lookup does not depend on the order of the entries. -/
theorem lookup_eq_some_iff {key value : String} {entries : List (String × String)}
    (nodup : (entries.map Prod.fst).Nodup) :
    lookup key entries = some value ↔ (key, value) ∈ entries := by
  refine ⟨mem_of_lookup, fun member => ?_⟩
  induction entries with
  | nil => cases member
  | cons entry rest inductionHypothesis =>
      obtain ⟨notLater, restNodup⟩ := List.nodup_cons.1 nodup
      rw [lookup]
      rcases List.mem_cons.1 member with rfl | later
      · rw [if_pos rfl]
      · have different : entry.1 ≠ key := fun same =>
          notLater (same ▸ List.mem_map_of_mem (f := Prod.fst) later)
        rw [if_neg different, inductionHypothesis restNodup later]

theorem keys_nodup (map : TextMap) : (map.toList.map Prod.fst).Nodup := by
  rw [List.Nodup, List.pairwise_map]
  refine map.ascending.imp fun {first second} below same => ?_
  exact String.lt_irrefl second.1 (same ▸ below)

theorem ext_of_get? {first second : TextMap}
    (same : ∀ key, first.get? key = second.get? key) : first = second := by
  have sameEntries (entry : String × String) : entry ∈ first.toList ↔ entry ∈ second.toList := by
    rw [← lookup_eq_some_iff first.keys_nodup, ← lookup_eq_some_iff second.keys_nodup]
    exact iff_of_eq (congrArg (· = some entry.2) (same entry.1))
  have perm : first.toList.Perm second.toList :=
    (List.perm_ext_iff_of_nodup first.keys_nodup.of_map second.keys_nodup.of_map).2 sameEntries
  have sameList : first.toList = second.toList :=
    perm.eq_of_pairwise (fun _ _ _ _ below above => absurd above (String.lt_asymm below))
      first.ascending second.ascending
  cases first
  cases second
  congr

/-- A map made of entries holds the last value of each key. -/
theorem get?_ofList (entries : List (String × String)) (key : String) :
    (ofList entries).get? key = lookup key entries.reverse := by
  induction entries using List.reverseRecOn with
  | nil => rfl
  | append_singleton entries entry inductionHypothesis =>
      have added : ofList (entries ++ [entry]) = (ofList entries).insert entry.1 entry.2 := by
        simp [ofList]
      rw [added, get?_insert, List.reverse_append, List.reverse_singleton, List.singleton_append,
        lookup, inductionHypothesis]
      by_cases same : entry.1 = key
      · rw [if_pos same, if_pos same.symm]
      · rw [if_neg same, if_neg (Ne.symm same)]

/-- Of the entries with one key the last one counts. -/
theorem get?_ofList_eq_some_iff {entries : List (String × String)} {key value : String} :
    (ofList entries).get? key = some value ↔
      ∃ earlier later, entries = earlier ++ (key, value) :: later ∧
        ∀ entry ∈ later, entry.1 ≠ key := by
  rw [get?_ofList, lookup_eq_some_iff_append]
  constructor
  · rintro ⟨later, earlier, split, others⟩
    exact ⟨earlier.reverse, later.reverse, by simp [List.reverse_eq_iff.1 split], by simpa using others⟩
  · rintro ⟨earlier, later, rfl, others⟩
    exact ⟨later.reverse, earlier.reverse, by simp, by simpa using others⟩

theorem isEmpty_ofList {entries : List (String × String)} :
    (ofList entries).isEmpty = true ↔ entries = [] := by
  refine ⟨fun isEmpty => ?_, fun nothing => nothing ▸ rfl⟩
  rcases List.eq_nil_or_concat entries with nothing | ⟨earlier, last, rfl⟩
  · exact nothing
  · have present : (ofList (earlier.concat last)).get? last.1 = some last.2 :=
      get?_ofList_eq_some_iff.2 ⟨earlier, [], List.concat_eq_append, by simp⟩
    rw [get?, List.isEmpty_iff.1 isEmpty] at present
    cases present

/-- The entries of a map make the map, in any order. -/
theorem ofList_eq_of_perm {map : TextMap} {entries : List (String × String)}
    (perm : entries.Perm map.toList) : ofList entries = map := by
  have reversed := (entries.reverse_perm).trans perm
  have nodup : (entries.reverse.map Prod.fst).Nodup :=
    ((reversed.map Prod.fst).nodup_iff).2 map.keys_nodup
  refine ext_of_get? fun key => Option.ext fun value => ?_
  rw [get?_ofList, lookup_eq_some_iff nodup, reversed.mem_iff]
  exact (lookup_eq_some_iff map.keys_nodup).symm

@[simp] theorem ofList_toList (map : TextMap) : ofList map.toList = map :=
  ofList_eq_of_perm (.refl _)

end TraefikUpgrade.TextMap
