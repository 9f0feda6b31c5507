import Mathlib.Data.Finset.Card
import UriDispatch.Proofs.Maps

/-! What a list of pairs makes of a map. It makes no difference whether the pairs are collected
all at once or inserted one after the other: the map has the keys of the list, each with the last
of its values, in the order of their code points. -/

namespace UriDispatch

variable {Value : Type}

/-! ## Last values -/

def LastValue (pairs : List (String × Value)) (key : String) (value : Value) : Prop :=
  ∃ before behind, pairs = before ++ (key, value) :: behind ∧ key ∉ behind.map Prod.fst

theorem isSome_lookup_reverse (pairs : List (String × Value)) (key : String) :
    (pairs.reverse.lookup key).isSome ↔ key ∈ pairs.map Prod.fst := by
  rw [SortedMap.isSome_lookup, List.map_reverse, List.mem_reverse]

theorem lookup_reverse_eq_none_iff (pairs : List (String × Value)) (key : String) :
    pairs.reverse.lookup key = none ↔ key ∉ pairs.map Prod.fst := by
  rw [SortedMap.lookup_eq_none_iff, List.map_reverse, List.mem_reverse]

theorem lookup_reverse_eq_some_iff (pairs : List (String × Value)) (key : String)
    (value : Value) :
    pairs.reverse.lookup key = some value ↔ LastValue pairs key value := by
  constructor
  · intro found
    rcases List.lookup_eq_some_iff.mp found with ⟨behind, before, split, other⟩
    rw [List.reverse_eq_append_iff, List.reverse_cons, List.append_assoc,
      List.singleton_append] at split
    refine ⟨before.reverse, behind.reverse, split, ?_⟩
    rw [← lookup_reverse_eq_none_iff, List.reverse_reverse]
    exact List.lookup_eq_none_iff.mpr other
  · rintro ⟨before, behind, rfl, last⟩
    rw [← lookup_reverse_eq_none_iff] at last
    rw [List.reverse_append, List.lookup_append, lookup_reverse_cons, last, if_pos rfl]
    rfl

/-! ## Collecting -/

theorem lookup_filter (pairs : List (String × Value)) (key : String) :
    (pairs.filter fun pair => key == pair.1).lookup key = pairs.lookup key := by
  induction pairs with
  | nil => rfl
  | cons head tail induction =>
      cases same : key == head.1 with
      | true => rw [List.filter_cons, if_pos same, List.lookup_cons, List.lookup_cons, same]
      | false =>
          rw [List.filter_cons, if_neg (ne_true_of_eq_false same), List.lookup_cons, same]
          exact induction

namespace SortedMap

theorem filter_inKeyOrder (pairs : List (String × Value)) (key : String) :
    (inKeyOrder pairs).filter (fun pair => key == pair.1) =
      pairs.filter fun pair => key == pair.1 := by
  let ofKey (pair : String × Value) : Bool := key == pair.1
  have alike : (pairs.filter ofKey).Pairwise fun left right => mayPrecede left right := by
    rw [List.pairwise_iff_forall_sublist]
    intro left right both
    have first : key = left.1 := eq_of_beq (List.mem_filter.mp (both.subset (.head _))).2
    have second : key = right.1 :=
      eq_of_beq (List.mem_filter.mp (both.subset (.tail _ (.head _)))).2
    rw [mayPrecede, ← first, ← second]
    exact decide_eq_true (String.le_refl key)
  have kept : (pairs.filter ofKey).Sublist (inKeyOrder pairs) :=
    List.sublist_mergeSort mayPrecede_trans mayPrecede_total alike List.filter_sublist
  have among : (pairs.filter ofKey).Sublist ((inKeyOrder pairs).filter ofKey) := by
    have filtered := kept.filter ofKey
    simpa only [List.filter_filter, Bool.and_self] using filtered
  have perm : ((inKeyOrder pairs).filter ofKey).Perm (pairs.filter ofKey) :=
    (List.mergeSort_perm pairs mayPrecede).filter ofKey
  exact (among.eq_of_length perm.length_eq.symm).symm

theorem lookup_inKeyOrder (pairs : List (String × Value)) (key : String) :
    (inKeyOrder pairs).reverse.lookup key = pairs.reverse.lookup key := by
  rw [← lookup_filter (inKeyOrder pairs).reverse, List.filter_reverse, filter_inKeyOrder,
    ← List.filter_reverse, lookup_filter]

theorem lookup_keepLast {pairs : List (String × Value)}
    (ordered : pairs.Pairwise fun left right => left.1 ≤ right.1) (key : String) :
    (keepLast pairs).lookup key = pairs.reverse.lookup key := by
  induction pairs using keepLast.induct with
  | case1 => rfl
  | case2 pair => rfl
  | case3 pair next rest same induction =>
      rw [keepLast, if_pos same, induction ordered.tail, lookup_reverse_cons pair]
      by_cases first : key = pair.1
      · -- The pair that is left out has one of its key behind it.
        have later : ((next :: rest).reverse.lookup key).isSome := by
          rw [isSome_lookup_reverse, first, same]
          exact .head _
        rw [Option.or_of_isSome later]
      · rw [if_neg first, Option.or_none]
  | case4 pair next rest different induction =>
      rw [keepLast, if_neg different, lookup_cons, induction ordered.tail,
        lookup_reverse_cons pair]
      by_cases first : key = pair.1
      · have last : (next :: rest).reverse.lookup key = none := by
          rw [lookup_reverse_eq_none_iff, first, List.mem_map]
          rintro ⟨later, member, equal⟩
          exact String.lt_irrefl _ (equal ▸ lt_of_different ordered different later member)
        rw [last, if_pos first, Option.none_or]
      · rw [if_neg first, if_neg first, Option.or_none]

theorem get?_collect (pairs : List (String × Value)) (key : String) :
    (collect pairs).get? key = pairs.reverse.lookup key := by
  rw [get?, collect, lookup_keepLast (ordered_inKeyOrder pairs), lookup_inKeyOrder]

theorem get?_collect_eq_some_iff (pairs : List (String × Value)) (key : String) (value : Value) :
    (collect pairs).get? key = some value ↔ LastValue pairs key value := by
  rw [get?_collect, lookup_reverse_eq_some_iff]

theorem collect_eq_ofList (pairs : List (String × Value)) : collect pairs = ofList pairs := by
  apply ext_get?
  intro key
  rw [get?_collect, get?_ofList]

theorem collect_eq_collect_iff (pairs others : List (String × Value)) :
    collect pairs = collect others ↔
      ∀ key value, LastValue pairs key value ↔ LastValue others key value := by
  simp only [← get?_collect_eq_some_iff]
  constructor
  · intro equal key value
    rw [equal]
  · intro same
    apply ext_get?
    intro key
    exact Option.ext (same key)

theorem mem_keys_collect (pairs : List (String × Value)) (key : String) :
    key ∈ (collect pairs).keys ↔ key ∈ pairs.map Prod.fst := by
  rw [mem_keys_iff, get?_collect, isSome_lookup_reverse]

theorem size_collect (pairs : List (String × Value)) :
    (collect pairs).size = (pairs.map Prod.fst).toFinset.card := by
  have sameKeys : (collect pairs).keys.toFinset = (pairs.map Prod.fst).toFinset := by
    apply Finset.ext
    intro key
    rw [List.mem_toFinset, List.mem_toFinset, mem_keys_collect]
  calc
    (collect pairs).size = (collect pairs).keys.length := (List.length_map _).symm
    _ = (collect pairs).keys.toFinset.card :=
      (List.toFinset_card_of_nodup (collect pairs).nodup_keys).symm
    _ = (pairs.map Prod.fst).toFinset.card := by rw [sameKeys]

/-! ## Walking through a map -/

theorem visited_eq (map : SortedMap Value) : map.visited = map.entries := by
  let push (entry : String × Value) (entries : Array (String × Value)) := entries.push entry
  calc
    map.visited = (forIn (m := Id) map.entries #[] fun entry entries =>
        pure (.yield (push entry entries))).run.toList := rfl
    _ = (map.entries.foldl (fun entries entry => entries.push entry) #[]).toList := by
      rw [List.forIn_pure_yield_eq_foldl, Id.run_pure]
    _ = map.entries := by
      rw [List.foldl_push_eq_append', Array.empty_append]

theorem drain_eq (map : SortedMap Value) : map.drain = map.entries := by
  rcases map with ⟨entries, increasing⟩
  induction entries with
  | nil =>
      rw [drain]
      rfl
  | cons first rest induction =>
      rw [drain]
      exact congrArg (first :: ·) (induction increasing.tail)

end SortedMap

/-! ## Parameters -/

def codePoints (text : String) : List Nat := text.toList.map Char.toNat

theorem codePoints_lt {left right : String} (less : left < right) :
    codePoints left < codePoints right :=
  List.map_lt (fun _ _ lesser => lesser) (String.lt_iff.mp less)

namespace Params

structure Canonical (pairs : List (String × Option String)) (params : Params) : Prop where
  increasing : params.entries.Pairwise fun left right => codePoints left.1 < codePoints right.1
  mem_keys_iff : ∀ key, key ∈ params.keys ↔ key ∈ pairs.map Prod.fst
  mem_entries_iff : ∀ key value, (key, value) ∈ params.entries ↔ LastValue pairs key value
  visited_eq : params.visited = params.entries
  drain_eq : params.drain = params.entries
  size_eq : params.size = (pairs.map Prod.fst).toFinset.card
  get?_eq_some_iff : ∀ key value, params.get? key = some value ↔ LastValue pairs key value
  contains_iff : ∀ key, params.contains key ↔ ∃ value, params.get? key = some value
  text?_eq_some_iff : ∀ key text,
    params.text? key = some text ↔ LastValue pairs key (some text)
  eq_collect_iff : ∀ others, params = .collect others ↔
    ∀ key value, LastValue pairs key value ↔ LastValue others key value
  inserted : params = pairs.foldl (fun params pair => params.insert pair.1 pair.2) .empty

/-- Parameters collected from pairs have each key of them once, with the last value it is given,
and go through their keys by code point, however one walks through them. -/
theorem collect_canonical (pairs : List (String × Option String)) :
    Canonical pairs (.collect pairs) := by
  let params : Params := .collect pairs
  have get?_iff (key : String) (value : Option String) :
      params.get? key = some value ↔ LastValue pairs key value :=
    SortedMap.get?_collect_eq_some_iff pairs key value
  constructor
  · exact params.increasing.imp codePoints_lt
  · exact SortedMap.mem_keys_collect pairs
  · intro key value
    rw [← get?_iff, SortedMap.get?_eq_some_iff]
  · exact params.visited_eq
  · exact params.drain_eq
  · exact SortedMap.size_collect pairs
  · exact get?_iff
  · intro key
    exact Option.isSome_iff_exists
  · intro key text
    rw [← get?_iff]
    exact Option.join_eq_some_iff
  · exact SortedMap.collect_eq_collect_iff pairs
  · exact SortedMap.collect_eq_ofList pairs

example : (SortedMap.collect [("page", some "1"), ("id", none), ("page", none)] : Params).entries =
    [("id", none), ("page", none)] := by
  cbv

end Params

end UriDispatch
