import UriDispatch.Proofs.Parameters

/-! Maps are known by their lookups. It does not matter in which order pairs with distinct keys are
put into one, and of pairs with the same key the last one counts. -/

namespace UriDispatch

variable {Value : Type}

/-! ## Pairs with distinct keys -/

theorem lookup_eq_some_iff_mem {pairs : List (String × Value)}
    (distinct : (pairs.map Prod.fst).Nodup) (key : String) (value : Value) :
    pairs.lookup key = some value ↔ (key, value) ∈ pairs := by
  induction pairs with
  | nil => exact iff_of_false (fun impossible => nomatch impossible) List.not_mem_nil
  | cons head tail induction =>
      rw [List.map_cons, List.nodup_cons] at distinct
      rw [List.lookup_cons, List.mem_cons]
      by_cases same : key = head.1
      · have notLater : (key, value) ∉ tail := by
          intro member
          apply distinct.1
          exact List.mem_map.mpr ⟨_, member, same⟩
        rw [same, beq_self_eq_true]
        rw [same] at notLater
        constructor
        · intro found
          cases found
          exact .inl rfl
        · rintro (first | later)
          · rw [← first]
          · exact absurd later notLater
      · have notFirst : (key, value) ≠ head := by
          rintro rfl
          exact same rfl
        rw [beq_eq_false_iff_ne.mpr same, induction distinct.2]
        exact (or_iff_right notFirst).symm

theorem lookup_perm {pairs others : List (String × Value)} (perm : pairs.Perm others)
    (distinct : (others.map Prod.fst).Nodup) (key : String) :
    pairs.lookup key = others.lookup key := by
  apply Option.ext
  intro value
  rw [lookup_eq_some_iff_mem ((perm.map Prod.fst).nodup_iff.mpr distinct),
    lookup_eq_some_iff_mem distinct, perm.mem_iff]

/-! ## Repeated keys -/

theorem lookup_reverse_cons (head : String × Value) (tail : List (String × Value))
    (key : String) :
    (head :: tail).reverse.lookup key =
      (tail.reverse.lookup key).or (if key = head.1 then some head.2 else none) := by
  rw [List.reverse_cons, List.lookup_append, SortedMap.lookup_cons, List.lookup_nil]

namespace SortedMap

/-! ## Maps with the same lookups -/

theorem get?_eq_some_iff (map : SortedMap Value) (key : String) (value : Value) :
    map.get? key = some value ↔ (key, value) ∈ map.entries :=
  lookup_eq_some_iff_mem map.nodup_keys key value

theorem nodup_entries (map : SortedMap Value) : map.entries.Nodup :=
  List.Nodup.of_map Prod.fst map.nodup_keys

theorem ext_get? {left right : SortedMap Value} (same : ∀ key, left.get? key = right.get? key) :
    left = right := by
  have perm : left.entries.Perm right.entries := by
    rw [List.perm_ext_iff_of_nodup left.nodup_entries right.nodup_entries]
    rintro ⟨key, value⟩
    rw [← get?_eq_some_iff, ← get?_eq_some_iff, same]
  apply ext_entries
  apply perm.eq_of_pairwise _ left.increasing right.increasing
  intro first second _ _ less greater
  exact absurd (String.lt_trans less greater) (String.lt_irrefl _)

theorem increasing_keys (map : SortedMap Value) : map.keys.Pairwise (· < ·) :=
  List.pairwise_map.mpr map.increasing

theorem keys_congr {Other : Type} {left : SortedMap Value} {right : SortedMap Other}
    (same : ∀ key, (left.get? key).isSome = (right.get? key).isSome) : left.keys = right.keys := by
  have perm : left.keys.Perm right.keys := by
    rw [List.perm_ext_iff_of_nodup left.nodup_keys right.nodup_keys]
    intro key
    rw [mem_keys_iff, mem_keys_iff, same]
  apply perm.eq_of_pairwise _ left.increasing_keys right.increasing_keys
  intro first second _ _ less greater
  exact absurd (String.lt_trans less greater) (String.lt_irrefl _)

theorem insertMany_perm (map : SortedMap Value) {pairs others : List (String × Value)}
    (perm : pairs.Perm others) (distinct : (others.map Prod.fst).Nodup) :
    map.insertMany pairs = map.insertMany others := by
  apply ext_get?
  intro key
  rw [get?_insertMany map ((perm.map Prod.fst).nodup_iff.mpr distinct),
    get?_insertMany map distinct, lookup_perm perm distinct]

/-! ## Pairs inserted in turn -/

theorem get?_insertMany_reverse (map : SortedMap Value) (pairs : List (String × Value))
    (key : String) :
    (map.insertMany pairs).get? key = (pairs.reverse.lookup key).or (map.get? key) := by
  induction pairs generalizing map with
  | nil => rfl
  | cons head tail induction =>
      change ((map.insert head.1 head.2).insertMany tail).get? key = _
      rw [induction, get?_insert, lookup_reverse_cons, Option.or_assoc]
      split <;> rfl

theorem get?_ofList (pairs : List (String × Value)) (key : String) :
    (ofList pairs).get? key = pairs.reverse.lookup key := by
  rw [ofList, get?_insertMany_reverse, get?_empty, Option.or_none]

end SortedMap

end UriDispatch
