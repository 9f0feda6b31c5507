import UriDispatch.Proofs.Pattern.OutlineTrees

/-! The ways through the expression of an outline, told part by part. Whatever form the expression
has been given, its ways are those of the parts in a row. -/

namespace UriDispatch.Regex

/-! ## Ways of trees -/

namespace Passage

def character (single : Char) (text : Array Char) : Passage := fun start stop captured =>
  text[start]? = some single ∧ stop = start + 1 ∧ captured = []

def captureOf (index : Nat) (expression : Expression) (text : Array Char) : Passage :=
  fun start stop captured =>
    (expression.Way text).Takes start stop ∧ captured = [⟨index, start, stop⟩]

def perhaps (passage : Passage) : Passage := fun start stop captured =>
  stay start stop captured ∨ passage start stop captured

end Passage

def Tree.Goes (tree : Tree) (passage : Array Char → Passage) : Prop :=
  ∃ expression, tree.meaning {} = .ok (expression, {}) ∧ ∀ text, expression.Way text = passage text

theorem contains_singleton (single character : Char) :
    (CharacterSet.singleton single).contains character = decide (character = single) := by
  rw [Bool.eq_iff_iff, decide_eq_true_eq, ← Char.toNat_inj]
  simp [CharacterSet.singleton, CharacterSet.ofRange, CharacterSet.contains,
    CharacterSet.containsCode, CharacterRange.contains]
  omega

namespace Tree.Goes

theorem literal (span : Span) (single : Char) :
    (Tree.literal ⟨span, single, false⟩).Goes (Passage.character single) := by
  refine ⟨.ofSet (.singleton single), rfl, fun text => ?_⟩
  rw [Expression.way_ofSet]
  funext start stop captured
  have same : text[start]?.any (CharacterSet.singleton single).contains = true ↔
      text[start]? = some single := by
    cases text[start]? with
    | none => simp
    | some character => simp [contains_singleton]
  simp only [Expression.way_step, Passage.character, same]

theorem assertion (span : Span) (kind : Assertion) :
    (Tree.assertion span kind).Goes fun text =>
      (Expression.test (assertionMeaning {} kind)).Way text :=
  ⟨_, rfl, fun _ => rfl⟩

theorem optional {body : Tree} {passage : Array Char → Passage} (span outer : Span)
    (goes : body.Goes passage) :
    (Tree.repetition span 0 (some 1) true (.group outer [] body)).Goes fun text =>
      (passage text).perhaps := by
  rcases goes with ⟨expression, meant, ways⟩
  refine ⟨.repeated 0 (some 1) true expression, ?_, fun text => ?_⟩
  · rw [Tree.meaning, Tree.meaning, Flags.change, List.foldl_nil, meant]
    rfl
  · rw [Expression.way_repeated text true (.inr ⟨rfl, rfl⟩)]
    funext start stop captured
    apply propext
    rw [Expression.Way, ways text]
    constructor
    · rintro ⟨count, _, bounded, way⟩
      have atMost : count ≤ 1 := bounded 1 rfl
      rcases Nat.le_one_iff_eq_zero_or_eq_one.mp atMost with rfl | rfl
      · exact .inl way
      · rw [Passage.rounds_one] at way
        exact .inr way
    · rintro (stays | way)
      · exact ⟨0, Nat.le_refl 0, fun _ _ => Nat.zero_le _, stays⟩
      · refine ⟨1, Nat.zero_le 1, fun bound equal => ?_, ?_⟩
        · cases equal
          exact Nat.le_refl 1
        · rwa [Passage.rounds_one]

theorem capture {tree : Tree} {expression : Expression} {after : Flags} (span : Span) (index : Nat)
    (meant : tree.meaning {} = .ok (expression, after)) :
    (Tree.capture span index tree.plain).Goes (Passage.captureOf index expression) := by
  rcases Tree.meaning_plain meant with ⟨plainly, meantPlainly, same⟩
  refine ⟨.capture index plainly, ?_, fun text => ?_⟩
  · rw [Tree.meaning, meantPlainly]
    rfl
  · have noCaptures : plainly.captures = [] := by
      have within := captures_meaning meantPlainly
      rw [Tree.captures_plain] at within
      exact List.subset_nil.mp within
    funext start stop captured
    apply propext
    constructor
    · rintro ⟨inner, way, rfl⟩
      refine ⟨(same text start stop).mpr ⟨inner, way⟩, ?_⟩
      rw [way_captured noCaptures way]
    · rintro ⟨takes, rfl⟩
      rcases (same text start stop).mp takes with ⟨inner, way⟩
      refine ⟨inner, way, ?_⟩
      rw [way_captured noCaptures way]

theorem follow {first rest : Tree} {passage other : Array Char → Passage}
    (before : first.Goes passage) (after : rest.Goes other) :
    (Tree.follow first rest).Goes fun text => (passage text).next (other text) := by
  rcases before with ⟨left, leftMeant, leftWays⟩
  rcases after with ⟨right, rightMeant, rightWays⟩
  refine ⟨left.append right, ?_, fun text => ?_⟩
  · rw [Tree.meaning, leftMeant]
    simp only [bind, Except.bind, rightMeant]
    rfl
  · rw [Expression.way_append, leftWays, rightWays]

theorem joined {earlier : List Tree} {passages : List (Array Char → Passage)}
    (goes : List.Forall₂ Goes earlier passages) {last : Tree} {passage : Array Char → Passage}
    (lastGoes : last.Goes passage) :
    (earlier.foldl (fun rest item => .follow item rest) last).Goes fun text =>
      .row ((passage :: passages).reverse.map (· text)) := by
  induction goes generalizing last passage with
  | nil =>
      rcases lastGoes with ⟨expression, meant, ways⟩
      exact ⟨expression, meant, fun text => (ways text).trans (Passage.row_singleton _).symm⟩
  | @cons item own others passages itemGoes _ induction =>
      rcases induction (itemGoes.follow lastGoes) with ⟨expression, meant, ways⟩
      refine ⟨expression, meant, fun text => (ways text).trans ?_⟩
      simp only [List.reverse_cons, List.map_append, List.map_cons, List.map_nil,
        Passage.row_append, Passage.row_singleton, Passage.next_assoc]

theorem sequence {items : List Tree} {passages : List (Array Char → Passage)} (span : Span)
    (goes : List.Forall₂ Goes items passages) :
    (Tree.ofSequence span items).Goes fun text => .row (passages.reverse.map (· text)) := by
  cases goes with
  | nil => exact ⟨.empty, rfl, fun _ => rfl⟩
  | cons last earlier =>
      cases earlier with
      | nil => exact joined .nil last
      | cons second others => exact joined (.cons second others) last

end Tree.Goes

end UriDispatch.Regex

namespace UriDispatch.Pattern

open Regex (Tree Passage Captured)

/-! ## Ways of outlines -/

namespace Outline

def ways (fragments : Fragments) (before : Nat) : Outline → List (Array Char → Passage)
  | .done => []
  | .literal character _ rest => Passage.character character :: rest.ways fragments before
  | .token letters rest =>
      Passage.captureOf (before + 1) (expressionFor fragments (String.ofList letters)) ::
        rest.ways fragments (before + 1)
  | .optional body rest =>
      (fun text => (Passage.row ((body.ways fragments before).map (· text))).perhaps) ::
        rest.ways fragments (before + body.names.length)

def passage (fragments : Fragments) (before : Nat) (outline : Outline) (text : Array Char) :
    Passage :=
  .row ((outline.ways fragments before).map (· text))

theorem goes_trees {fragments : Fragments} {outline : Outline}
    (fits : ∀ name ∈ outline.names, Fits fragments name) (before : Nat) :
    List.Forall₂ Tree.Goes (outline.trees fragments before) (outline.ways fragments before) := by
  induction outline generalizing before with
  | done => exact .nil
  | literal character plain rest induction =>
      exact .cons (.literal .nowhere character) (induction fits before)
  | token letters rest induction =>
      rw [names, List.forall_mem_cons] at fits
      rcases fits.1.tree with ⟨_, after, meant⟩
      exact .cons (.capture .nowhere (before + 1) meant) (induction fits.2 (before + 1))
  | optional body rest inner outer =>
      rw [names, List.forall_mem_append] at fits
      have inside : (Tree.ofSequence .nowhere (body.trees fragments before).reverse).Goes
          (body.passage fragments before) := by
        have goes := Tree.Goes.sequence .nowhere (List.rel_reverse (inner fits.1 before))
        rwa [List.reverse_reverse] at goes
      exact .cons (inside.optional .nowhere .nowhere)
        (outer fits.2 (before + body.names.length))

theorem goes_items {fragments : Fragments} {outline : Outline}
    (fits : ∀ name ∈ outline.names, Fits fragments name) :
    (Tree.ofSequence .nowhere (outline.items fragments).reverse).Goes fun text =>
      (Regex.Expression.Way text (.test .startOfText)).next
        ((outline.passage fragments 0 text).next (Regex.Expression.Way text (.test .endOfText))) := by
  have goes := Tree.Goes.sequence .nowhere (List.rel_reverse (List.Forall₂.cons
    (Tree.Goes.assertion .nowhere .startOfLine)
    (List.rel_append (goes_trees fits 0) (.cons (.assertion .nowhere .endOfLine) .nil))))
  rcases goes with ⟨expression, meant, ways⟩
  refine ⟨expression, meant, fun text => ?_⟩
  rw [ways text, List.reverse_reverse]
  simp only [List.map_cons, List.map_append, List.map_nil]
  change Passage.next _ (Passage.row (_ ++ [_])) = _
  rw [Passage.row_append, Passage.row_singleton]
  rfl

/-- The ways through the expression of a pattern lead through its outline, from end to end. -/
theorem way_expression {pattern : String} {fragments : Fragments} {outline : Outline}
    {compiled : CompiledPattern} {tree : Tree}
    (meant : Pattern.pieces pattern.toList = outline.pieces)
    (fits : ∀ name ∈ outline.names, Fits fragments name)
    (compilation : CompilesBy pattern fragments compiled tree) {text : Array Char}
    {start stop : Nat} {captured : List Captured} (within : start ≤ text.size) :
    compiled.regex.expression.Way text start stop captured ↔
      start = 0 ∧ stop = text.size ∧ outline.passage fragments 0 text start stop captured := by
  rcases source_text meant compilation.built with ⟨written, _, _, bodies⟩
  have parsed := compilation.parsed
  rw [written] at parsed
  have bare := bare_parse (fun name member => ⟨fits name member, bodies name member⟩) parsed
  rcases compilation.meant with ⟨after, whole⟩
  have wholeBare := Regex.Tree.meaning_bare whole
  have goes := goes_items fits
  rw [← bare] at goes
  rcases goes with ⟨expression, found, ways⟩
  rw [wholeBare] at found
  cases found
  have chain := ways text
  constructor
  · intro way
    have place := Regex.way_le way within
    rw [chain] at way
    rcases way with ⟨_, _, _, ⟨begins, rfl, rfl⟩, ⟨_, inner, _, through, ⟨ends, rfl, rfl⟩, rfl⟩, rfl⟩
    rw [List.append_nil]
    exact ⟨(Regex.startOfText_holds within).mp begins, (Regex.endOfText_holds place).mp ends,
      through⟩
  · rintro ⟨rfl, rfl, through⟩
    rw [chain]
    refine ⟨0, [], captured, ⟨(Regex.startOfText_holds within).mpr rfl, rfl, rfl⟩,
      ⟨text.size, captured, [], through, ?_, rfl⟩, (List.append_nil _).symm⟩
    exact ⟨(Regex.endOfText_holds (Nat.le_refl _)).mpr rfl, rfl, rfl⟩

end Outline

end UriDispatch.Pattern
