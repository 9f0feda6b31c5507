import Mathlib.Data.List.Nodup
import UriDispatch.Capture

/-! What the parameters of a match hold. For a declared name that is the text of its group, or else
the default, or else nothing; besides there are the defaults for other names. -/

namespace UriDispatch

/-! ## Maps -/

namespace SortedMap

variable {Value : Type}

theorem nodup_keys (map : SortedMap Value) : map.keys.Nodup := by
  refine List.Pairwise.map _ (fun _ _ less equal => ?_) map.increasing
  rw [equal] at less
  exact String.lt_irrefl _ less

theorem mem_keys_iff (map : SortedMap Value) (key : String) :
    key ∈ map.keys ↔ (map.get? key).isSome :=
  (isSome_lookup map.entries key).symm

end SortedMap

theorem lookup_values {Value : Type} {names : List String} (value : String → Value)
    (name : String) :
    (names.map fun name => (name, value name)).lookup name =
      if name ∈ names then some (value name) else none := by
  by_cases known : name ∈ names
  · rw [if_pos known]
    exact List.lookup_graph value known
  · rw [if_neg known, SortedMap.lookup_eq_none_iff, List.map_map]
    rwa [← List.map_id names] at known

theorem Params.get?_absent {names : List String} (distinct : names.Nodup) (name : String) :
    (Params.absent names).get? name = if name ∈ names then some none else none := by
  have keys : (names.map fun name => (name, (none : Option String))).map Prod.fst = names := by
    rw [List.map_map]
    exact List.map_id _
  rw [Params.absent, SortedMap.ofList, SortedMap.get?_insertMany _ (by rwa [keys]),
    SortedMap.get?_empty, Option.or_none]
  exact lookup_values (fun _ => none) name

theorem Params.get?_overlay (params : Params) (defaults : Defaults) (name : String) :
    (params.overlay defaults).get? name =
      ((defaults.get? name).map some).or (params.get? name) := by
  have keys : (defaults.entries.map fun entry => (entry.1, some entry.2)).map Prod.fst =
      defaults.keys := by
    rw [List.map_map]
    rfl
  have same : (defaults.entries.map fun entry => (entry.1, some entry.2)).lookup name =
      (defaults.get? name).map some :=
    SortedMap.lookup_map some defaults.entries name
  rw [Params.overlay, SortedMap.get?_insertMany _ (keys ▸ defaults.nodup_keys), same]

/-! ## Values by position -/

section Values

variable {Value : Type} (value : Nat → Option Value)

def valuesFrom (offset : Nat) (names : List String) : List (String × Value) :=
  (names.zipIdx offset).filterMap fun (name, index) => (value index).map (name, ·)

theorem valuesFrom_cons (offset : Nat) (name : String) (rest : List String) :
    valuesFrom value offset (name :: rest) =
      ((value offset).map (name, ·)).toList ++ valuesFrom value (offset + 1) rest := by
  rw [valuesFrom, List.zipIdx_cons, List.filterMap_cons]
  simp only
  cases value offset <;> rfl

theorem valuesFrom_sublist (offset : Nat) (names : List String) :
    ((valuesFrom value offset names).map Prod.fst).Sublist names := by
  induction names generalizing offset with
  | nil => exact List.Sublist.refl _
  | cons name rest induction =>
      rw [valuesFrom_cons, List.map_append]
      cases value offset with
      | none => exact (induction _).cons _
      | some found => exact (induction _).cons_cons _

theorem lookup_valuesFrom_none (offset : Nat) {names : List String} {name : String}
    (other : name ∉ names) : (valuesFrom value offset names).lookup name = none := by
  rw [SortedMap.lookup_eq_none_iff]
  intro member
  exact other ((valuesFrom_sublist value offset names).subset member)

theorem lookup_valuesFrom (offset : Nat) {names : List String} (distinct : names.Nodup)
    {index : Nat} {name : String} (named : names[index]? = some name) :
    (valuesFrom value offset names).lookup name = value (offset + index) := by
  induction names generalizing offset index with
  | nil => cases named
  | cons head rest induction =>
      rw [List.nodup_cons] at distinct
      rw [valuesFrom_cons]
      cases index with
      | zero =>
          cases named
          rw [Nat.add_zero]
          cases value offset with
          | none => exact lookup_valuesFrom_none value _ distinct.1
          | some found => exact List.lookup_cons_self
      | succ index =>
          have inRest := induction (offset + 1) distinct.2 named
          have different : (name == head) = false := by
            rw [beq_eq_false_iff_ne]
            rintro rfl
            exact distinct.1 (List.mem_of_getElem? named)
          rw [Nat.add_right_comm, Nat.add_assoc] at inRest
          rw [← inRest]
          cases value offset with
          | none => rfl
          | some found =>
              rw [Option.map_some, Option.toList_some, List.singleton_append, List.lookup_cons,
                different]

end Values

/-! ## Parameters -/

namespace Capture

theorem value_compile (pattern : String) (fragments : Fragments) :
    (compile pattern fragments).value =
      (Pattern.compile pattern fragments).value.map (⟨·, .empty⟩) :=
  rfl

theorem value_exec (capture : Capture) (uri : String) : (capture.exec uri).value =
    (capture.compiled.regex.find? uri.toList).map (capture.params uri.toList) := by
  unfold exec
  split
  · next missed =>
      rw [missed]
      rfl
  · next found success =>
      rw [success]
      rfl

def textOf? (uri : List Char) (found : Regex.Match) (index : Nat) : Option String :=
  (found.capture? index).map fun (start, stop) =>
    String.ofList ((uri.drop start).take (stop - start))

theorem captured_eq_valuesFrom (capture : Capture) (uri : List Char) (found : Regex.Match) :
    capture.captured uri found =
      valuesFrom (fun index => (textOf? uri found (index + 1)).map some) 0 capture.names := by
  refine List.filterMap_congr fun (name, index) _ => ?_
  simp only [textOf?, Option.map_map]
  rfl

variable {capture : Capture} {uri : List Char} {found : Regex.Match}

theorem get?_params (distinct : capture.names.Nodup) (name : String) :
    (capture.params uri found).get? name =
      ((capture.captured uri found).lookup name).or (((capture.defaults.get? name).map some).or
        (if name ∈ capture.names then some none else none)) := by
  have keys : ((capture.captured uri found).map Prod.fst).Nodup := by
    rw [captured_eq_valuesFrom]
    exact (valuesFrom_sublist ..).nodup distinct
  rw [params, SortedMap.get?_insertMany _ keys, Params.get?_overlay, Params.get?_absent distinct]

theorem get?_params_of_name (distinct : capture.names.Nodup) {index : Nat} {name : String}
    (named : capture.names[index]? = some name) :
    (capture.params uri found).get? name =
      some ((textOf? uri found (index + 1)).or (capture.defaults.get? name)) := by
  rw [get?_params distinct, captured_eq_valuesFrom, lookup_valuesFrom _ 0 distinct named,
    Nat.zero_add, if_pos (List.mem_of_getElem? named)]
  cases textOf? uri found (index + 1) with
  | some text => rfl
  | none => cases capture.defaults.get? name <;> rfl

theorem get?_params_of_other (distinct : capture.names.Nodup) {name : String}
    (other : name ∉ capture.names) :
    (capture.params uri found).get? name = (capture.defaults.get? name).map some := by
  rw [get?_params distinct, captured_eq_valuesFrom, lookup_valuesFrom_none _ 0 other,
    if_neg other, Option.none_or, Option.or_none]

end Capture

end UriDispatch
