import UriDispatch.Proofs.Pattern.OutlineChoices

/-! Which of the texts for the names of a pattern are reported, if there are several ways to write a
URI. They are those that a matcher comes upon first that goes over the pattern itself from left to
right: it takes a section before it leaves it out, and as long a text for a name as there is before
a shorter one. -/

namespace UriDispatch.Pattern

open Regex (Choices Captured)

/-! ## The matcher -/

/-- The ways to cut off a front that has characters, but no separators; the longest one comes
first. -/
def cuts : List Char → List (List Char × List Char)
  | [] => []
  | head :: tail =>
      if head ∈ separators then []
      else (cuts tail).map (fun (front, back) => (head :: front, back)) ++ [([head], tail)]

example : cuts "ab/c".toList = [("ab".toList, "/c".toList), ("a".toList, "b/c".toList)] := by
  decide

theorem append_of_mem_cuts {text : List Char} {cut : List Char × List Char}
    (member : cut ∈ cuts text) : cut.1 ++ cut.2 = text := by
  induction text generalizing cut with
  | nil => cases member
  | cons head tail induction =>
      rw [cuts] at member
      split at member
      · cases member
      · rcases List.mem_append.mp member with longer | shortest
        · rcases List.mem_map.mp longer with ⟨inner, inTail, rfl⟩
          exact congrArg (head :: ·) (induction inTail)
        · rw [List.mem_singleton.mp shortest]
          rfl

namespace Outline

variable {Result : Type}

/-- Goes over an outline from left to right, with the values of its tokens so far and what is left
of the text. If what comes after them fails, the last choice is made anew. -/
def attempt : Outline → (text : List Char) →
    (finish : List (String × List Char) → List Char → Option Result) → Option Result
  | .done, text, finish => finish [] text
  | .literal _ _ _, [], _ => none
  | .literal character _ rest, head :: tail, finish =>
      if head = character then rest.attempt tail finish else none
  | .token letters rest, text, finish =>
      (cuts text).findSome? fun (value, left) =>
        rest.attempt left fun values => finish ((String.ofList letters, value) :: values)
  | .optional body rest, text, finish =>
      (body.attempt text fun inner left =>
        rest.attempt left fun values => finish (inner ++ values)).or (rest.attempt text finish)

def decompose (outline : Outline) (text : List Char) : Option (List (String × List Char)) :=
  outline.attempt text fun values left => if left = [] then some values else none

def params (outline : Outline) (values : List (String × List Char)) : Params :=
  (Params.absent outline.names).insertMany
    (values.map fun pair => (pair.1, some (String.ofList pair.2)))

end Outline

/-! ## Choices in a text -/

theorem stands_of_drop {text tail : List Char} {start : Nat} {head : Char}
    (left : text.drop start = head :: tail) :
    text[start]? = some head ∧ text.drop (start + 1) = tail := by
  constructor
  · have first := congrArg (·[0]?) left
    simpa using first
  · rw [← List.tail_drop, left]
    rfl

theorem stands_of_drop_nil {text : List Char} {start : Nat} (left : text.drop start = []) :
    text[start]? = none :=
  List.getElem?_eq_none (List.drop_eq_nil_iff.mp left)

section Tokens

variable {uri : List Char} {start : Nat}

theorem next_segment (further : Choices) :
    ((Regex.Expression.step segmentSet).choices uri.toArray).next further start =
      match uri.drop start with
      | [] => []
      | head :: _ => if head ∈ separators then [] else further (start + 1) := by
  cases left : uri.drop start with
  | nil =>
      refine Choices.next_of_nil ?_ _
      simp [Regex.Expression.choices, stands_of_drop_nil left]
  | cons head tail =>
      have inSet := contains_segmentSet head
      have here := (stands_of_drop left).1
      by_cases stops : head ∈ separators
      · refine (Choices.next_of_nil ?_ _).trans (if_pos stops).symm
        simp [Regex.Expression.choices, here, inSet, stops]
      · have takes : (Regex.Expression.step segmentSet).choices uri.toArray start =
            [(start + 1, [])] := by
          simp [Regex.Expression.choices, here, inSet, stops]
        rw [Choices.next, takes]
        simp [stops]

theorem map_cuts_cons (head : Char) (tail : List Char) :
    (cuts (head :: tail)).map (fun cut => (start + cut.1.length, ([] : List Captured))) =
      if head ∈ separators then []
      else (cuts tail).map (fun cut => (start + 1 + cut.1.length, [])) ++ [(start + 1, [])] := by
  rw [cuts]
  split
  · rfl
  · rw [List.map_append, List.map_map]
    refine congrArg (· ++ _) (List.map_congr_left fun cut _ => ?_)
    simp [Nat.add_assoc, Nat.add_comm 1]

theorem many_segment :
    ((Regex.Expression.step segmentSet).choices uri.toArray).many true uri.toArray.size start =
      (cuts (uri.drop start)).map (fun cut => (start + cut.1.length, [])) ++ [(start, [])] := by
  induction left : uri.drop start generalizing start with
  | nil =>
      rw [Choices.many_eq (advances_segment _), Choices.option, if_pos rfl, next_segment, left]
      rfl
  | cons head tail induction =>
      rw [Choices.many_eq (advances_segment _), Choices.option, if_pos rfl, next_segment, left,
        map_cuts_cons, ← induction (stands_of_drop left).2]
      rfl

theorem choices_token (index : Nat) :
    (Regex.Expression.capture index defaultExpression).choices uri.toArray start =
      (cuts (uri.drop start)).map fun cut =>
        (start + cut.1.length, [⟨index, start, start + cut.1.length⟩]) := by
  have body : defaultExpression.choices uri.toArray start =
      (cuts (uri.drop start)).map fun cut => (start + cut.1.length, []) := by
    rw [defaultExpression, Regex.Expression.choices, Choices.rounds, Choices.rounds,
      Choices.next_stay, next_segment]
    cases left : uri.drop start with
    | nil => rfl
    | cons head tail => rw [map_cuts_cons, many_segment, (stands_of_drop left).2]
  change List.map _ (defaultExpression.choices uri.toArray start) = _
  rw [body, List.map_map]
  rfl

end Tokens

namespace Outline

/-- The matcher comes upon the choices of an outline in their order. -/
theorem attempt_eq {Result : Type} {uri : List Char} {outline : Outline}
    {names earlier later : List String} {before : Nat} (count : earlier.length = before)
    (equal : names = earlier ++ (outline.names ++ later)) (start : Nat)
    (finish : List (String × List Char) → List Char → Option Result) :
    outline.attempt (uri.drop start) finish =
      (outline.choices before uri.toArray start).findSome? fun (stop, captured) =>
        finish (captured.reverse.map (valueOf names uri)) (uri.drop stop) := by
  induction outline generalizing before earlier later start finish with
  | done => simp [attempt, choices, partChoices, Choices.row, Choices.stay]
  | literal character plain rest induction =>
      change _ = ((Choices.character character uri.toArray).next
        (rest.choices before uri.toArray) start).findSome? _
      rw [Choices.findSome?_next, Choices.character, List.getElem?_toArray]
      cases left : uri.drop start with
      | nil =>
          rw [stands_of_drop_nil left]
          rfl
      | cons head tail =>
          rcases stands_of_drop left with ⟨here, others⟩
          simp only [here, attempt, Option.some.injEq]
          split
          · rw [← others, induction count equal]
            simp
          · rfl
  | token letters rest induction =>
      change _ = (((Regex.Expression.capture (before + 1) defaultExpression).choices
        uri.toArray).next (rest.choices (before + 1) uri.toArray) start).findSome? _
      have equalRest : names = (earlier ++ [String.ofList letters]) ++ (rest.names ++ later) := by
        rw [equal, Outline.names, List.append_assoc]
        rfl
      have countRest : (earlier ++ [String.ofList letters]).length = before + 1 := by
        rw [List.length_append, count]
        rfl
      rw [Choices.findSome?_next, choices_token, List.findSome?_map, attempt]
      refine Regex.findSome?_congr fun cut member => ?_
      rcases cut with ⟨value, left⟩
      have whole : value ++ left = uri.drop start := append_of_mem_cuts member
      have others : uri.drop (start + value.length) = left := by
        rw [← List.drop_drop, ← whole, List.drop_left]
      have own : valueOf names uri ⟨before + 1, start, start + value.length⟩ =
          (String.ofList letters, value) := by
        rw [valueOf, Nat.add_sub_cancel, equal, ← count,
          List.getElem?_append_right (Nat.le_refl _), Nat.sub_self, slice, ← whole,
          Nat.add_sub_cancel_left, List.take_left]
        rfl
      rw [Function.comp_apply]
      simp only [← others, induction countRest equalRest, List.reverse_append,
        List.reverse_singleton, List.singleton_append, List.map_cons, own]
  | optional body rest inner outer =>
      have equalBody : names = earlier ++ (body.names ++ (rest.names ++ later)) := by
        rw [equal, Outline.names, List.append_assoc]
      have equalRest : names = (earlier ++ body.names) ++ (rest.names ++ later) := by
        rw [equalBody, List.append_assoc]
      have countRest : (earlier ++ body.names).length = before + body.names.length := by
        rw [List.length_append, count]
      change _ = ((Choices.option true (body.choices before uri.toArray)).next
        (rest.choices (before + body.names.length) uri.toArray) start).findSome? _
      rw [Choices.findSome?_next, Choices.option, if_pos rfl, List.findSome?_append, attempt]
      refine congrArg₂ Option.or ?_ ?_
      · rw [inner count equalBody]
        refine Regex.findSome?_congr fun place _ => ?_
        rcases place with ⟨middle, first⟩
        simp only [outer countRest equalRest, List.reverse_append, List.map_append]
      · rw [outer countRest equalRest]
        simp [Choices.stay]

end Outline

/-! ## Matches -/

theorem map_find?_eq_decompose {pattern : String} {outline : Outline} {compiled : CompiledPattern}
    {tree : Regex.Tree} (meant : pieces pattern.toList = outline.pieces)
    (compilation : CompilesBy pattern .empty compiled tree) (uri : List Char) :
    (compiled.regex.find? uri).map (fun found =>
        found.captured.reverse.map (Outline.valueOf compiled.names uri)) =
      outline.decompose uri := by
  rcases Outline.source_text meant compilation.built with ⟨_, names, _, _⟩
  have equal : compiled.names = [] ++ (outline.names ++ []) := by
    rw [names, List.nil_append, List.append_nil]
  have attempts : outline.attempt (uri.drop 0)
      (fun values left => if left = [] then some values else none) = _ :=
    Outline.attempt_eq List.length_nil equal 0 _
  rw [List.drop_zero] at attempts
  rw [Outline.decompose, attempts, Outline.find?_eq meant compilation, List.map_findSome?]
  refine Regex.findSome?_congr fun (stop, captured) _ => ?_
  simp only [Function.comp_apply]
  split <;> rfl

section Execution

variable {pattern : String} {outline : Outline} {compiled : CompiledPattern} {tree : Regex.Tree}

theorem params_of_find? (meant : pieces pattern.toList = outline.pieces)
    (compilation : CompilesBy pattern .empty compiled tree) {uri : List Char}
    {found : Regex.Match} (success : compiled.regex.find? uri = some found) :
    Capture.params ⟨compiled, .empty⟩ uri found = outline.params
      (found.captured.reverse.map (Outline.valueOf compiled.names uri)) := by
  rcases Outline.source_text meant compilation.built with ⟨_, names, _, _⟩
  have indices := (writes_of_find? meant (fun name _ => fits_default name) compilation success).2
  rw [Capture.params, captured_eq indices, Outline.params, ← names]
  rfl

theorem value_exec_eq_decompose (meant : pieces pattern.toList = outline.pieces)
    (compilation : CompilesBy pattern .empty compiled tree) (uri : String) :
    (Capture.exec ⟨compiled, .empty⟩ uri).value =
      (outline.decompose uri.toList).map outline.params := by
  rw [Capture.value_exec, ← map_find?_eq_decompose meant compilation, Option.map_map]
  exact Option.map_congr fun found success => params_of_find? meant compilation success

theorem get?_params_decompose (meant : pieces pattern.toList = outline.pieces)
    (compilation : CompilesBy pattern .empty compiled tree) {uri : List Char}
    {values : List (String × List Char)} (decomposes : outline.decompose uri = some values)
    (name : String) : (outline.params values).get? name =
      if name ∈ outline.names then some ((values.lookup name).map String.ofList) else none := by
  rcases Outline.source_text meant compilation.built with ⟨_, names, distinct, _⟩
  rw [← map_find?_eq_decompose meant compilation] at decomposes
  rcases Option.map_eq_some_iff.mp decomposes with ⟨found, success, rfl⟩
  rcases writes_of_find? meant (fun name _ => fits_default name) compilation success with
    ⟨writes, indices⟩
  have within := writes.names_sublist
  have distinctNames : (Capture.names ⟨compiled, .empty⟩).Nodup := distinct
  rw [← params_of_find? meant compilation success]
  rw [← names] at within ⊢
  exact get?_params rfl distinctNames within (captured_eq indices) name

end Execution

/-- A pattern of plain text, names and sections without fragments reports the first way to write a
URI that a matcher comes upon that goes over the pattern from left to right. The names of sections
that are left out are absent. -/
theorem exec_eq_decompose {pattern : String} {outline : Outline} {capture : Capture}
    (meant : pieces pattern.toList = outline.pieces)
    (succeeds : (Capture.compile pattern .empty).value = .ok capture) (uri : String) :
    (capture.exec uri).value = (outline.decompose uri.toList).map outline.params ∧
    ∀ values, outline.decompose uri.toList = some values → ∀ name,
      (outline.params values).get? name =
        if name ∈ outline.names then some ((values.lookup name).map String.ofList) else none := by
  rw [Capture.value_compile] at succeeds
  rcases Regex.ok_of_map succeeds with ⟨compiled, compiles, rfl⟩
  rcases compilesBy_of_compile compiles with ⟨tree, compilation⟩
  exact ⟨value_exec_eq_decompose meant compilation uri,
    fun values decomposes => get?_params_decompose meant compilation decomposes⟩

theorem exec_eq_decompose_of_adjacent : ∃ (outline : Outline) (capture : Capture),
    pieces "(<a>)(<b>)x".toList = outline.pieces ∧
    (Capture.compile "(<a>)(<b>)x" .empty).value = .ok capture ∧
    outline.decompose "ppx".toList = some [("a", "pp".toList)] ∧
    (capture.exec "ppx").value = (outline.decompose "ppx".toList).map outline.params ∧
    ∀ values, outline.decompose "ppx".toList = some values → ∀ name,
      (outline.params values).get? name =
        if name ∈ outline.names then some ((values.lookup name).map String.ofList) else none := by
  let outline : Outline :=
    .optional (.token ['a'] .done) (.optional (.token ['b'] .done) (.literal 'x' rfl .done))
  have meant : pieces "(<a>)(<b>)x".toList = outline.pieces := by decide +kernel
  have compiles : (Capture.compile "(<a>)(<b>)x" .empty).value.isOk := by decide +kernel
  rcases exists_of_isOk compiles with ⟨capture, succeeds⟩
  exact ⟨outline, capture, meant, succeeds, by decide, exec_eq_decompose meant succeeds "ppx"⟩

end UriDispatch.Pattern
