import UriDispatch.Proofs.Pattern.DefaultTrees

/-! What the names of a pattern without fragments stand for. Whatever operators an author uses
around them, the value of a name is a part of the URI without separators, or there is none. -/

namespace UriDispatch.Pattern

open Regex (Expression)

/-! ## The default fragment -/

def separators : List Char := ['/', '.', ',', ';', '?', '\n']

def segmentSet : CharacterSet := (CharacterSet.unions (separators.map .singleton)).complement.normal

theorem contains_segmentSet (character : Char) :
    segmentSet.contains character = true ↔ character ∉ separators := by
  rw [segmentSet, CharacterSet.contains_normal, CharacterSet.contains_complement,
    Expression.contains_unions, Bool.not_eq_true', ← Bool.not_eq_true, List.any_map,
    List.any_eq_true]
  simp only [Function.comp_apply, Regex.contains_singleton, decide_eq_true_eq, exists_eq_right']

def defaultExpression : Expression := .repetition 1 none true (.step segmentSet)

theorem meaning_defaultTree : defaultTree.plain.meaning {} = .ok (defaultExpression, {}) := by
  have meant : (defaultTree.plain.meaning {}).toOption = some (defaultExpression, {}) := by
    decide +kernel
  cases found : defaultTree.plain.meaning {} with
  | error => rw [found] at meant; cases meant
  | ok value =>
      rw [found] at meant
      cases meant
      rfl

/-! ## Segments -/

def Separated (text : Array Char) (start stop : Nat) : Prop :=
  start < stop ∧ ∀ place, start ≤ place → place < stop →
    ∃ character, text[place]? = some character ∧ character ∉ separators

theorem stands_of_rounds {text : Array Char} {set : CharacterSet} {count start stop : Nat}
    {captured : List Regex.Captured}
    (way : ((Expression.step set).Way text).rounds count start stop captured) :
    stop = start + count ∧ ∀ place, start ≤ place → place < stop →
      ∃ character, text[place]? = some character ∧ set.contains character := by
  induction count generalizing start captured with
  | zero =>
      obtain ⟨rfl, -⟩ := way
      exact ⟨rfl, fun place above below => absurd below (Nat.not_lt.mpr above)⟩
  | succ count induction =>
      obtain ⟨_, _, _, ⟨stands, rfl, -⟩, others, -⟩ := way
      obtain ⟨rfl, rest⟩ := induction others
      refine ⟨by omega, fun place above below => ?_⟩
      rcases Nat.eq_or_lt_of_le above with rfl | later
      · exact (Option.any_eq_true _ _).mp stands
      · exact rest place later below

theorem separated_of_takes {text : Array Char} {start stop : Nat}
    (takes : (defaultExpression.Way text).Takes start stop) : Separated text start stop := by
  obtain ⟨captured, count, some, -, way⟩ := takes
  obtain ⟨rfl, stands⟩ := stands_of_rounds way
  refine ⟨by omega, fun place above below => ?_⟩
  obtain ⟨character, here, inSet⟩ := stands place above below
  exact ⟨character, here, (contains_segmentSet character).mp inSet⟩

structure Segment (text part : List Char) : Prop where
  notEmpty : part ≠ []
  within : part <:+: text
  separated : ∀ character ∈ part, character ∉ separators

theorem segment_slice {text : List Char} {start stop : Nat}
    (separated : Separated text.toArray start stop) : Segment text (slice text start stop) := by
  obtain ⟨forward, stands⟩ := separated
  refine ⟨?_, ?_, ?_⟩
  · obtain ⟨character, here, -⟩ := stands start (Nat.le_refl start) forward
    have first : (slice text start stop)[0]? = some character := by
      rw [getElem?_slice (Nat.sub_pos_of_lt forward)]
      simpa using here
    rintro empty
    rw [empty] at first
    cases first
  · exact (List.take_prefix _ _).isInfix.trans (List.drop_suffix _ _).isInfix
  · intro character member
    obtain ⟨index, found⟩ := List.mem_iff_getElem?.mp member
    have inside : index < stop - start := by
      by_contra beyond
      rw [slice, List.getElem?_take_eq_none (Nat.not_lt.mp beyond)] at found
      cases found
    rw [getElem?_slice inside] at found
    obtain ⟨other, here, separated⟩ := stands (start + index) (Nat.le_add_right _ _) (by omega)
    rw [List.getElem?_toArray, found] at here
    cases here
    exact separated

/-! ## Captures -/

theorem segment_of_capture? {pattern : String} {compiled : CompiledPattern} {tree : Regex.Tree}
    (compilation : CompilesBy pattern .empty compiled tree) {uri : List Char} {found : Regex.Match}
    (success : compiled.regex.find? uri = some found) {index start stop : Nat}
    (captured : found.capture? index = some (start, stop)) :
    Segment uri (slice uri start stop) := by
  obtain ⟨after, meant⟩ := compilation.meant
  have inside : defaultExpression.Confines Separated :=
    (Expression.Confines.step segmentSet).repetition 1 none true
  have confines := (Regex.Tree.confines_meaning meaning_defaultTree inside
    (fun _ _ _ => separated_of_takes) (capturesOnly_default compilation) meant).2
  obtain ⟨capture, first, equal⟩ := Option.map_eq_some_iff.mp captured
  cases equal
  exact segment_slice (confines _ _ _ _ (Regex.find?_sound success).2 capture
    (List.mem_of_find?_eq_some first))

/-- For any pattern without fragments, whatever its operators, the parameters of a URI are for just
the names of the pattern. A name has as its value the text of its group, which is a segment of the
URI; a name whose group took no part has none. -/
theorem exec_segments {pattern uri : String} {capture : Capture} {params : Params}
    (succeeds : (Capture.compile pattern .empty).value = .ok capture)
    (executed : (capture.exec uri).value = some params) :
    (∀ name, name ∈ params.keys ↔ name ∈ capture.names) ∧
    (∀ name text, params.get? name = some (some text) → Segment uri.toList text.toList) ∧
    ∃ found, capture.compiled.regex.find? uri.toList = some found ∧
      ∀ index name, capture.names[index]? = some name →
        params.get? name = some (Capture.textOf? uri.toList found (index + 1)) := by
  rw [Capture.value_compile] at succeeds
  obtain ⟨compiled, compiles, rfl⟩ := Regex.ok_of_map succeeds
  obtain ⟨tree, compilation⟩ := compilesBy_of_compile compiles
  have distinct : (Capture.names ⟨compiled, .empty⟩).Nodup := (source_trace compilation.built).2.2
  rw [Capture.value_exec] at executed
  obtain ⟨found, success, rfl⟩ := Option.map_eq_some_iff.mp executed
  have known {index : Nat} {name : String} (named : compiled.names[index]? = some name) :
      (Capture.params ⟨compiled, .empty⟩ uri.toList found).get? name =
        some (Capture.textOf? uri.toList found (index + 1)) := by
    rw [Capture.get?_params_of_name distinct named, SortedMap.get?_empty, Option.or_none]
  have unknown {name : String} (other : name ∉ compiled.names) :
      (Capture.params ⟨compiled, .empty⟩ uri.toList found).get? name = none :=
    Capture.get?_params_of_other distinct other
  refine ⟨fun name => ?_, fun name text given => ?_, found, success, fun _ _ => known⟩
  · rw [SortedMap.mem_keys_iff]
    by_cases declared : name ∈ compiled.names
    · obtain ⟨index, named⟩ := List.mem_iff_getElem?.mp declared
      rw [known named]
      exact iff_of_true rfl declared
    · rw [unknown declared]
      exact iff_of_false Bool.false_ne_true declared
  · by_cases declared : name ∈ compiled.names
    · obtain ⟨index, named⟩ := List.mem_iff_getElem?.mp declared
      rw [known named, Option.some.injEq, Capture.textOf?, Option.map_eq_some_iff] at given
      obtain ⟨⟨start, stop⟩, captured, rfl⟩ := given
      rw [String.toList_ofList]
      exact segment_of_capture? compilation success captured
    · rw [unknown declared] at given
      cases given

theorem exec_segments_of_bar : ∃ (capture : Capture) (params : Params),
    (Capture.compile "/<a>|=<b>" .empty).value = .ok capture ∧
    (capture.exec "/x").value = some params ∧
    params.entries = [("a", some "x"), ("b", none)] ∧
    (∀ name, name ∈ params.keys ↔ name ∈ capture.names) ∧
    (∀ name text, params.get? name = some (some text) → Segment "/x".toList text.toList) ∧
    ∃ found, capture.compiled.regex.find? "/x".toList = some found ∧
      ∀ index name, capture.names[index]? = some name →
        params.get? name = some (Capture.textOf? "/x".toList found (index + 1)) := by
  have result : (Capture.compile "/<a>|=<b>" .empty).value.toOption.map
      (fun capture => (capture.exec "/x").value.map (·.entries)) =
        some (some [("a", some "x"), ("b", none)]) := by
    decide +kernel
  cases succeeds : (Capture.compile "/<a>|=<b>" .empty).value with
  | error error =>
      rw [succeeds] at result
      cases result
  | ok capture =>
      rw [succeeds] at result
      obtain ⟨params, executed, entries⟩ := Option.map_eq_some_iff.mp (Option.some.inj result)
      exact ⟨capture, params, rfl, executed, entries, exec_segments succeeds executed⟩

end UriDispatch.Pattern
