import UriDispatch.Proofs.Pattern.DefaultCaptures
import UriDispatch.Proofs.Regex.Preference

/-! The choices that the expression of an outline leaves, told part by part, if no name has a
fragment of its own. -/

namespace UriDispatch.Regex

namespace Choices

def character (single : Char) (text : Array Char) : Choices := fun start =>
  if text[start]? = some single then [(start + 1, [])] else []

end Choices

/-- A tree has a meaning that leaves just these choices, and leaves the flags as they are at the
start. -/
def Tree.Leaves (tree : Tree) (choices : Array Char → Choices) : Prop :=
  ∃ expression, tree.meaning {} = .ok (expression, {}) ∧
    ∀ text, expression.Steady text ∧ expression.choices text = choices text

namespace Tree.Leaves

theorem literal (span : Span) (single : Char) :
    (Tree.literal ⟨span, single, false⟩).Leaves (Choices.character single) := by
  refine ⟨.ofSet (.singleton single), rfl, fun text => ⟨trivial, ?_⟩⟩
  rw [Expression.choices_ofSet]
  funext start
  have same : text[start]?.any (CharacterSet.singleton single).contains = true ↔
      text[start]? = some single := by
    cases text[start]? with
    | none => simp
    | some character => simp [contains_singleton]
  simp only [Expression.choices, Choices.character, same]

theorem assertion (span : Span) (kind : Assertion) :
    (Tree.assertion span kind).Leaves fun text =>
      (Expression.test (assertionMeaning {} kind)).choices text :=
  ⟨_, rfl, fun _ => ⟨trivial, rfl⟩⟩

theorem optional {body : Tree} {choices : Array Char → Choices} (span outer : Span)
    (leaves : body.Leaves choices) :
    (Tree.repetition span 0 (some 1) true (.group outer [] body)).Leaves fun text =>
      .option true (choices text) := by
  rcases leaves with ⟨expression, meant, known⟩
  refine ⟨.repeated 0 (some 1) true expression, ?_, fun text => ?_⟩
  · rw [Tree.meaning, Tree.meaning, Flags.change, List.foldl_nil, meant]
    rfl
  · rw [Expression.repeated_option, Expression.choices_option, (known text).2]
    exact ⟨(known text).1, rfl⟩

theorem capture {tree : Tree} {expression : Expression} (span : Span) (index : Nat)
    (meant : tree.meaning {} = .ok (expression, {})) (steady : ∀ text, expression.Steady text) :
    (Tree.capture span index tree).Leaves fun text =>
      (Expression.capture index expression).choices text := by
  refine ⟨.capture index expression, ?_, fun text => ⟨steady text, rfl⟩⟩
  rw [Tree.meaning, meant]
  rfl

theorem follow {first rest : Tree} {choices others : Array Char → Choices}
    (before : first.Leaves choices) (after : rest.Leaves others) :
    (Tree.follow first rest).Leaves fun text => (choices text).next (others text) := by
  rcases before with ⟨left, leftMeant, leftKnown⟩
  rcases after with ⟨right, rightMeant, rightKnown⟩
  refine ⟨left.append right, ?_, fun text => ⟨(leftKnown text).1.append (rightKnown text).1, ?_⟩⟩
  · rw [Tree.meaning, leftMeant]
    simp only [bind, Except.bind, rightMeant]
    rfl
  · rw [Expression.choices_append, (leftKnown text).2, (rightKnown text).2]

theorem joined {earlier : List Tree} {choices : List (Array Char → Choices)}
    (leaves : List.Forall₂ Leaves earlier choices) {last : Tree} {own : Array Char → Choices}
    (lastLeaves : last.Leaves own) :
    (earlier.foldl (fun rest item => .follow item rest) last).Leaves fun text =>
      .row ((own :: choices).reverse.map (· text)) := by
  induction leaves generalizing last own with
  | nil =>
      rcases lastLeaves with ⟨expression, meant, known⟩
      exact ⟨expression, meant, fun text =>
        ⟨(known text).1, (known text).2.trans (Choices.row_singleton _).symm⟩⟩
  | @cons item first others choices itemLeaves _ induction =>
      rcases induction (itemLeaves.follow lastLeaves) with ⟨expression, meant, known⟩
      refine ⟨expression, meant, fun text => ⟨(known text).1, (known text).2.trans ?_⟩⟩
      simp only [List.reverse_cons, List.map_append, List.map_cons, List.map_nil,
        Choices.row_append, Choices.row_singleton, Choices.next_assoc]

theorem sequence {items : List Tree} {choices : List (Array Char → Choices)} (span : Span)
    (leaves : List.Forall₂ Leaves items choices) :
    (Tree.ofSequence span items).Leaves fun text => .row (choices.reverse.map (· text)) := by
  cases leaves with
  | nil => exact ⟨.empty, rfl, fun _ => ⟨trivial, rfl⟩⟩
  | cons last earlier =>
      cases earlier with
      | nil => exact joined .nil last
      | cons second others => exact joined (.cons second others) last

end Tree.Leaves

end UriDispatch.Regex

namespace UriDispatch.Pattern

open Regex (Tree Choices Captured)

theorem advances_segment (text : Array Char) :
    Choices.Advances text.size ((Regex.Expression.step segmentSet).choices text) := by
  intro start choice member
  simp only [Regex.Expression.choices] at member
  split at member
  · next stands =>
      rcases (Option.any_eq_true _ _).mp stands with ⟨character, here, _⟩
      rw [List.mem_singleton.mp member]
      exact ⟨Nat.lt_succ_self start, (Array.getElem?_eq_some_iff.mp here).1⟩
  · cases member

theorem steady_default (text : Array Char) : defaultExpression.Steady text :=
  ⟨trivial, advances_segment text⟩

namespace Outline

def partChoices (before : Nat) : Outline → List (Array Char → Choices)
  | .done => []
  | .literal character _ rest => Choices.character character :: rest.partChoices before
  | .token _ rest =>
      (fun text => (Regex.Expression.capture (before + 1) defaultExpression).choices text) ::
        rest.partChoices (before + 1)
  | .optional body rest =>
      (fun text => .option true (.row ((body.partChoices before).map (· text)))) ::
        rest.partChoices (before + body.names.length)

def choices (before : Nat) (outline : Outline) (text : Array Char) : Choices :=
  .row ((outline.partChoices before).map (· text))

theorem leaves_trees (outline : Outline) (before : Nat) :
    List.Forall₂ Tree.Leaves (outline.trees .empty before) (outline.partChoices before) := by
  induction outline generalizing before with
  | done => exact .nil
  | literal character plain rest induction =>
      exact .cons (.literal .nowhere character) (induction before)
  | token letters rest induction =>
      exact .cons (.capture .nowhere (before + 1) meaning_defaultTree steady_default)
        (induction (before + 1))
  | optional body rest inner outer =>
      have inside : (Tree.ofSequence .nowhere (body.trees .empty before).reverse).Leaves
          (body.choices before) := by
        have leaves := Tree.Leaves.sequence .nowhere (List.rel_reverse (inner before))
        rwa [List.reverse_reverse] at leaves
      exact .cons (inside.optional .nowhere .nowhere) (outer (before + body.names.length))

theorem leaves_expression {pattern : String} {outline : Outline} {compiled : CompiledPattern}
    {tree : Tree} (meant : Pattern.pieces pattern.toList = outline.pieces)
    (compilation : CompilesBy pattern .empty compiled tree) (text : Array Char) :
    compiled.regex.expression.Steady text ∧ compiled.regex.expression.choices text =
      ((Regex.Expression.test .startOfText).choices text).next
        ((outline.choices 0 text).next ((Regex.Expression.test .endOfText).choices text)) := by
  rcases source_text meant compilation.built with ⟨written, _, _, bodies⟩
  have parsed := compilation.parsed
  rw [written] at parsed
  have bare := bare_parse (fun name member => ⟨fits_default name, bodies name member⟩) parsed
  rcases compilation.meant with ⟨after, whole⟩
  have wholeBare := Regex.Tree.meaning_bare whole
  have leaves := Tree.Leaves.sequence .nowhere (List.rel_reverse (List.Forall₂.cons
    (Tree.Leaves.assertion .nowhere .startOfLine)
    (List.rel_append (leaves_trees outline 0) (.cons (.assertion .nowhere .endOfLine) .nil))))
  rw [items] at bare
  rw [← bare] at leaves
  rcases leaves with ⟨expression, found, known⟩
  rw [wholeBare] at found
  cases found
  refine ⟨(known text).1, (known text).2.trans ?_⟩
  rw [List.reverse_reverse]
  simp only [List.map_cons, List.map_append, List.map_nil]
  change Choices.next _ (Choices.row (_ ++ [_])) = _
  rw [Choices.row_append, Choices.row_singleton]
  rfl

/-- What is found in a URI is the first choice of the outline that leads to its end. -/
theorem find?_eq {pattern : String} {outline : Outline} {compiled : CompiledPattern} {tree : Tree}
    (meant : Pattern.pieces pattern.toList = outline.pieces)
    (compilation : CompilesBy pattern .empty compiled tree) (uri : List Char) :
    compiled.regex.find? uri = (outline.choices 0 uri.toArray 0).findSome? fun (stop, captured) =>
      if uri.drop stop = [] then some ⟨0, stop, captured⟩ else none := by
  rcases leaves_expression meant compilation uri.toArray with ⟨steady, equal⟩
  have later : ∀ start < uri.length,
      compiled.regex.expression.choices uri.toArray (start + 1) = [] := by
    intro start inside
    have fails : ¬Regex.Condition.startOfText.holdsAt uri.toArray (start + 1) = true := by
      rw [Regex.startOfText_holds inside]
      exact Nat.succ_ne_zero start
    rw [equal]
    exact Choices.next_of_nil (Regex.Expression.choices_test_fails fails) _
  have begins : Regex.Condition.startOfText.holdsAt uri.toArray 0 = true :=
    (Regex.startOfText_holds (Nat.zero_le _)).mpr rfl
  rw [Regex.find?, Regex.find?_of_beginning steady later, equal,
    Choices.next_of_stay (Regex.Expression.choices_test_holds begins), Choices.next,
    List.head?_flatMap, List.map_findSome?]
  refine Regex.findSome?_congr fun place _ => ?_
  rcases place with ⟨stop, captured⟩
  have ends : Regex.Condition.endOfText.holdsAt uri.toArray stop = true ↔ uri.drop stop = [] := by
    simp [Regex.Condition.holdsAt, Regex.Condition.holds]
  simp only [Function.comp_apply, Regex.Expression.choices, ends]
  split <;> rfl

end Outline

end UriDispatch.Pattern
