/-! Maps from text to values, in the order of their keys: by code point, shorter first. The
entries of a map are strictly increasing, so two maps with the same entries are equal and every
way of walking through a map gives the same order. -/

namespace UriDispatch

structure SortedMap (Value : Type) where
  entries : List (String × Value)
  increasing : entries.Pairwise fun left right => left.1 < right.1 := by simp

namespace SortedMap

variable {Value : Type}

instance [DecidableEq Value] : DecidableEq (SortedMap Value) := fun left right =>
  if equal : left.entries = right.entries then
    .isTrue (by cases left; cases right; cases equal; rfl)
  else
    .isFalse fun same => equal (congrArg entries same)

def empty : SortedMap Value where
  entries := []

instance : EmptyCollection (SortedMap Value) := ⟨empty⟩

instance : Inhabited (SortedMap Value) := ⟨empty⟩

private def insertEntry (key : String) (value : Value) :
    List (String × Value) → List (String × Value)
  | [] => [(key, value)]
  | head :: tail =>
      if key < head.1 then (key, value) :: head :: tail
      else if key = head.1 then (key, value) :: tail
      else head :: insertEntry key value tail

private theorem mem_insertEntry {key : String} {value : Value}
    {entries : List (String × Value)} {entry : String × Value}
    (member : entry ∈ insertEntry key value entries) :
    entry = (key, value) ∨ entry ∈ entries := by
  induction entries with
  | nil => simpa [insertEntry] using member
  | cons head tail induction =>
      simp only [insertEntry] at member
      split at member
      · simpa using member
      · split at member
        · rcases List.mem_cons.mp member with equal | inTail
          · exact .inl equal
          · exact .inr (.tail head inTail)
        · rcases List.mem_cons.mp member with equal | inTail
          · exact .inr (equal ▸ .head tail)
          · rcases induction inTail with equal | inOld
            · exact .inl equal
            · exact .inr (.tail head inOld)

private theorem lt_of_not_lt_of_ne {left right : String} (notLess : ¬left < right)
    (different : left ≠ right) : right < left := by
  rcases Classical.em (right < left) with less | notGreater
  · exact less
  · exact absurd (String.le_antisymm (String.not_lt.mp notGreater) (String.not_lt.mp notLess))
      different

private theorem increasing_insertEntry (key : String) (value : Value)
    (entries : List (String × Value))
    (increasing : entries.Pairwise fun left right => left.1 < right.1) :
    (insertEntry key value entries).Pairwise fun left right => left.1 < right.1 := by
  induction entries with
  | nil => simp [insertEntry]
  | cons head tail induction =>
      have parts := List.pairwise_cons.mp increasing
      simp only [insertEntry]
      split
      · next less =>
          refine List.pairwise_cons.mpr ⟨fun entry member => ?_, increasing⟩
          rcases List.mem_cons.mp member with equal | inTail
          · exact equal ▸ less
          · exact String.lt_trans less (parts.1 entry inTail)
      · next notLess =>
          split
          · next equal =>
              refine List.pairwise_cons.mpr ⟨fun entry member => ?_, parts.2⟩
              exact equal ▸ parts.1 entry member
          · next different =>
              refine List.pairwise_cons.mpr ⟨fun entry member => ?_, induction parts.2⟩
              rcases mem_insertEntry member with equal | inTail
              · exact equal ▸ lt_of_not_lt_of_ne notLess different
              · exact parts.1 entry inTail

def insert (map : SortedMap Value) (key : String) (value : Value) : SortedMap Value where
  entries := insertEntry key value map.entries
  increasing := increasing_insertEntry key value map.entries map.increasing

def get? (map : SortedMap Value) (key : String) : Option Value := map.entries.lookup key

def contains (map : SortedMap Value) (key : String) : Bool := (map.get? key).isSome

def keys (map : SortedMap Value) : List String := map.entries.map (·.1)

def size (map : SortedMap Value) : Nat := map.entries.length

def isEmpty (map : SortedMap Value) : Bool := map.entries.isEmpty

def insertMany (map : SortedMap Value) (pairs : List (String × Value)) : SortedMap Value :=
  pairs.foldl (fun result pair => result.insert pair.1 pair.2) map

def ofList (pairs : List (String × Value)) : SortedMap Value := empty.insertMany pairs

/-! ## Lookup -/

@[simp] theorem get?_empty (key : String) : (empty : SortedMap Value).get? key = none := rfl

theorem lookup_cons (head : String × Value) (tail : List (String × Value))
    (key : String) :
    (head :: tail).lookup key = if key = head.1 then some head.2 else tail.lookup key := by
  obtain ⟨first, value⟩ := head
  rw [List.lookup_cons]
  by_cases same : key = first
  · simp [same]
  · have different : (key == first) = false := by simpa using same
    simp [same, different]

theorem isSome_lookup (pairs : List (String × Value)) (key : String) :
    (pairs.lookup key).isSome ↔ key ∈ pairs.map Prod.fst := by
  rw [List.lookup_isSome_iff, List.mem_map]
  simp only [beq_iff_eq, eq_comm (a := key)]

theorem lookup_eq_none_iff (pairs : List (String × Value)) (key : String) :
    pairs.lookup key = none ↔ key ∉ pairs.map Prod.fst := by
  rw [← isSome_lookup, Bool.not_eq_true, Option.isSome_eq_false_iff, Option.isNone_iff_eq_none]

theorem lookup_map {Other : Type} (transform : Value → Other) (pairs : List (String × Value))
    (key : String) :
    (pairs.map fun pair => (pair.1, transform pair.2)).lookup key =
      (pairs.lookup key).map transform := by
  induction pairs with
  | nil => rfl
  | cons head tail induction =>
      rw [List.map_cons, lookup_cons, lookup_cons, induction]
      split <;> rfl

private theorem lookup_insertEntry (key other : String) (value : Value)
    (entries : List (String × Value)) :
    (insertEntry key value entries).lookup other =
      if other = key then some value else entries.lookup other := by
  induction entries with
  | nil => rw [insertEntry, lookup_cons]
  | cons head tail induction =>
      simp only [insertEntry]
      split
      · rw [lookup_cons]
      · split
        · next equal =>
            simp only [lookup_cons, equal]
            split <;> rfl
        · next different =>
            simp only [lookup_cons, induction]
            split
            · next same => rw [if_neg (same ▸ fun equal => different equal.symm)]
            · rfl

theorem get?_insert (map : SortedMap Value) (key other : String) (value : Value) :
    (map.insert key value).get? other = if other = key then some value else map.get? other :=
  lookup_insertEntry key other value map.entries

theorem get?_insertMany (map : SortedMap Value) {pairs : List (String × Value)}
    (distinct : (pairs.map Prod.fst).Nodup) (key : String) :
    (map.insertMany pairs).get? key = (pairs.lookup key).or (map.get? key) := by
  induction pairs generalizing map with
  | nil => rfl
  | cons head tail induction =>
      rw [List.map_cons, List.nodup_cons] at distinct
      change ((map.insert head.1 head.2).insertMany tail).get? key = _
      rw [induction _ distinct.2, get?_insert, lookup_cons]
      by_cases same : key = head.1
      · have absent : tail.lookup key = none :=
          (lookup_eq_none_iff tail key).mpr (same ▸ distinct.1)
        rw [absent, if_pos same, if_pos same]
        rfl
      · rw [if_neg same, if_neg same]

theorem ext_entries {left right : SortedMap Value} (equal : left.entries = right.entries) :
    left = right := by
  cases left
  cases right
  cases equal
  rfl

/-! ## Collecting -/

def mayPrecede (left right : String × Value) : Bool := left.1 ≤ right.1

theorem mayPrecede_trans (first second third : String × Value)
    (less : mayPrecede first second) (later : mayPrecede second third) :
    mayPrecede first third :=
  decide_eq_true (String.le_trans (of_decide_eq_true less) (of_decide_eq_true later))

theorem mayPrecede_total (left right : String × Value) :
    mayPrecede left right || mayPrecede right left := by
  rw [Bool.or_eq_true]
  rcases String.le_total left.1 right.1 with less | greater
  · exact .inl (decide_eq_true less)
  · exact .inr (decide_eq_true greater)

/-- The pairs in the order of their keys. Pairs with the same key stay in the order they have. -/
def inKeyOrder (pairs : List (String × Value)) : List (String × Value) :=
  pairs.mergeSort mayPrecede

theorem ordered_inKeyOrder (pairs : List (String × Value)) :
    (inKeyOrder pairs).Pairwise fun left right => left.1 ≤ right.1 := by
  have sorted : (inKeyOrder pairs).Pairwise fun left right => mayPrecede left right :=
    List.pairwise_mergeSort mayPrecede_trans mayPrecede_total pairs
  exact sorted.imp fun less => of_decide_eq_true less

/-- Of pairs with the same key that follow each other, the last one. -/
def keepLast : List (String × Value) → List (String × Value)
  | [] => []
  | [pair] => [pair]
  | pair :: next :: rest =>
      if pair.1 = next.1 then keepLast (next :: rest) else pair :: keepLast (next :: rest)

theorem keepLast_subset (pairs : List (String × Value)) : keepLast pairs ⊆ pairs := by
  induction pairs using keepLast.induct with
  | case1 => exact List.Subset.refl _
  | case2 pair => exact List.Subset.refl _
  | case3 pair next rest same induction =>
      rw [keepLast, if_pos same]
      exact List.subset_cons_of_subset pair induction
  | case4 pair next rest different induction =>
      rw [keepLast, if_neg different]
      exact List.cons_subset_cons pair induction

theorem lt_of_different {pair next : String × Value} {rest : List (String × Value)}
    (ordered : (pair :: next :: rest).Pairwise fun left right => left.1 ≤ right.1)
    (different : pair.1 ≠ next.1) : ∀ later ∈ next :: rest, pair.1 < later.1 := by
  intro later member
  have less := Std.lt_of_le_of_ne (List.rel_of_pairwise_cons ordered (.head rest)) different
  rcases List.mem_cons.mp member with rfl | inRest
  · exact less
  · exact Std.lt_of_lt_of_le less (List.rel_of_pairwise_cons ordered.tail inRest)

theorem increasing_keepLast {pairs : List (String × Value)}
    (ordered : pairs.Pairwise fun left right => left.1 ≤ right.1) :
    (keepLast pairs).Pairwise fun left right => left.1 < right.1 := by
  induction pairs using keepLast.induct with
  | case1 => exact .nil
  | case2 pair => exact List.pairwise_singleton _ pair
  | case3 pair next rest same induction =>
      rw [keepLast, if_pos same]
      exact induction ordered.tail
  | case4 pair next rest different induction =>
      rw [keepLast, if_neg different, List.pairwise_cons]
      refine ⟨fun later member => ?_, induction ordered.tail⟩
      exact lt_of_different ordered different later (keepLast_subset _ member)

/-- The map of a list of pairs, made of all of them at once: they are put in the order of their
keys, and of those with the same key only the last one is kept. -/
def collect (pairs : List (String × Value)) : SortedMap Value where
  entries := keepLast (inKeyOrder pairs)
  increasing := increasing_keepLast (ordered_inKeyOrder pairs)

/-! ## Walking through a map -/

instance {m : Type → Type} [Monad m] : ForIn m (SortedMap Value) (String × Value) where
  forIn map := forIn map.entries

def visited (map : SortedMap Value) : List (String × Value) := Id.run do
  let mut entries := #[]
  for entry in map do
    entries := entries.push entry
  return entries.toList

def takeFirst? : SortedMap Value → Option ((String × Value) × SortedMap Value)
  | ⟨[], _⟩ => none
  | ⟨first :: rest, increasing⟩ => some (first, ⟨rest, increasing.tail⟩)

theorem size_takeFirst? {map rest : SortedMap Value} {first : String × Value}
    (taken : map.takeFirst? = some (first, rest)) : rest.size < map.size := by
  rcases map with ⟨entries, increasing⟩
  cases entries with
  | nil => cases taken
  | cons entry others =>
      cases taken
      exact Nat.lt_succ_self _

def drain (map : SortedMap Value) : List (String × Value) :=
  match taken : map.takeFirst? with
  | none => []
  | some (first, rest) =>
      have := size_takeFirst? taken
      first :: rest.drain
termination_by map.size

end SortedMap

end UriDispatch
