import UriDispatch.Proofs.Pattern.FragmentSteps
import UriDispatch.Proofs.Pattern.Outline

/-! The tree of the source of an outline: a literal for each literal character, a capture for each
name, with the tree of its fragment inside, and an optional group for each section. -/

namespace UriDispatch.Regex

/-! ## States with more items -/

/-- The second state has read some items and captures more than the first one, in the same
alternative. The items are given without places. -/
structure ParserState.Extends (state next : ParserState) (captures : Nat) (items : List Tree) :
    Prop where
  verbose : next.verbose = state.verbose
  captures : next.captures = state.captures + captures
  groups : next.groups = state.groups
  alternatives : next.level.alternatives = state.level.alternatives
  items : next.level.items.map Tree.bare = items.reverse ++ state.level.items.map Tree.bare

namespace ParserState.Extends

variable {state next last : ParserState}

theorem refl (state : ParserState) : state.Extends state 0 [] := ⟨rfl, rfl, rfl, rfl, rfl⟩

theorem trans {first second : Nat} {items others : List Tree}
    (before : state.Extends next first items) (after : next.Extends last second others) :
    state.Extends last (first + second) (items ++ others) where
  verbose := after.verbose.trans before.verbose
  captures := by rw [after.captures, before.captures, Nat.add_assoc]
  groups := after.groups.trans before.groups
  alternatives := after.alternatives.trans before.alternatives
  items := by rw [after.items, before.items, List.reverse_append, List.append_assoc]

theorem push (state : ParserState) (item : Tree) : state.Extends (state.push item) 0 [item.bare] :=
  ⟨rfl, rfl, rfl, rfl, rfl⟩

theorem bare_tree {captures : Nat} {items : List Tree}
    (extended : state.Extends next captures items) (noItems : state.level.items = [])
    (noBars : state.level.alternatives = []) (rest : List Char) :
    (next.level.tree rest).bare = .ofSequence .nowhere items.reverse := by
  have read := extended.items
  rw [noItems, List.map_nil, List.append_nil] at read
  rw [Level.tree, Level.alternative, extended.alternatives, noBars, Tree.ofAlternatives, Tree.bare,
    Tree.strip_ofSequence]
  exact congrArg _ read

end ParserState.Extends

/-! ## Steps over single parts -/

theorem Steps.single {state next : ParserState} {head : Char} {tail rest : List Char}
    (notVerbose : state.verbose = false) (reads : Reads (Regex.step state (head :: tail)) next rest) :
    Steps state (head :: tail) next rest :=
  .step notVerbose reads (.here next rest)

theorem run_end {state : ParserState} (notVerbose : state.verbose = false)
    (noGroups : state.groups = []) : run state [] = .ok (state.level.tree []) := by
  rw [run]
  split
  · rw [noGroups]
  · next equal =>
      rw [notVerbose] at equal
      cases equal

theorem head_ne_of_run {fragment : List Char} {tree : Tree}
    (ran : run (.initial fragment) fragment = .ok tree) : fragment.head? ≠ some '?' := by
  intro mark
  rcases List.head?_eq_some_iff.mp mark with ⟨rest, rfl⟩
  rcases exists_step_of_run rfl ran with ⟨reading, found, _⟩
  have repetition := repetition_of_readRepetition found
  generalize reading.rest = left at repetition
  cases repetition with
  | lazy repeated | greedy _ repeated => cases repeated

theorem step_close {state : ParserState} {group : OpenGroup} {others : List OpenGroup}
    (groups : state.groups = group :: others) (rest : List Char) :
    Reads (step state (')' :: rest))
      { state with
        verbose := group.outerVerbose
        level := group.outer.push (group.kind.tree ⟨group.parenthesis.start, rest.length⟩
          (state.level.tree (')' :: rest)))
        groups := others } rest := by
  have closed : closeGroup state (')' :: rest) rest = .ok
      { state with
        verbose := group.outerVerbose
        level := group.outer.push (group.kind.tree ⟨group.parenthesis.start, rest.length⟩
          (state.level.tree (')' :: rest)))
        groups := others } := by
    unfold closeGroup
    rw [groups]
  exact step_of_form (.closes closed)

theorem steps_token {state : ParserState} {fragment demoted after : List Char} {tree : Tree}
    (notVerbose : state.verbose = false) (plain : Fragment.isPlain fragment)
    (demotes : Fragment.demote fragment = some demoted)
    (ran : run (.initial fragment) fragment = .ok tree)
    (inert : ∀ letter ∈ tree.letters, isInert letter) :
    tree.unconditional ∧ ∃ next, Steps state ('(' :: demoted ++ ')' :: after) next after ∧
      state.Extends next 1 [.capture .nowhere (state.captures + 1) tree.plain] := by
  have notMark : (demoted ++ ')' :: after).head? ≠ some '?' := by
    intro mark
    exact head_ne_of_run ran (continues_demoted demotes (by simp) mark)
  have opens := readGroup_capture notVerbose notMark
  let opened := { state with captures := state.captures + 1 }.openGroup
    (.head ('(' :: (demoted ++ ')' :: after))) (.capture (state.captures + 1)) state.verbose
    (demoted ++ ')' :: after)
  have inStep : InStep opened.groups opened.captures (')' :: after) (.initial fragment) fragment
      opened (demoted ++ ')' :: after) := by
    refine ⟨⟨⟨rfl, notVerbose⟩, rfl, .startingAt _ _, [], rfl, .nil⟩, plain, demoted, demotes, rfl⟩
  rcases inStep.run (by simp) ran inert with ⟨last, steps, lastVerbose, captures, groups, mirrors⟩
  refine ⟨(mirrors []).unconditional, _, .step notVerbose opens
    (steps.trans (.single lastVerbose (step_close groups after))), ?_⟩
  refine ⟨rfl, captures, rfl, rfl, ?_⟩
  have same := (mirrors (')' :: after)).same
  rw [Tree.bare] at same
  change (Tree.capture _ _ _).bare :: _ = _
  rw [Tree.bare, Tree.strip, if_pos rfl, same]
  rfl

theorem steps_literal {state : ParserState} {character : Char} (after : List Char)
    (notVerbose : state.verbose = false) (plain : Pattern.isLiteral character) :
    ∃ next, Steps state (Pattern.rewriteCharacter character ++ after) next after ∧
      state.Extends next 0 [.literal ⟨.nowhere, character, false⟩] := by
  by_cases operator : character ∈ Pattern.plainOperators
  · rw [Pattern.rewriteCharacter_operator operator]
    have escapable : isEscapable character := by
      simp only [Pattern.plainOperators, List.mem_cons, List.not_mem_nil, or_false] at operator
      rcases operator with rfl | rfl | rfl | rfl | rfl | rfl <;> decide
    have known (span : Span) :
        singleEscape? span character = some (.literal ⟨span, character, false⟩) :=
      if_pos escapable
    have form : StepForm state ('\\' :: character :: after) _ after :=
      .single (by decide) (.escape (.single (known _)))
    exact ⟨_, .single notVerbose (step_of_form form), .push state _⟩
  · have marks : character ∉ stepMarks ∧ character ∉ ['\\', '.', '^', '$'] := by
      simp [Pattern.isLiteral] at plain
      simp [Pattern.plainOperators] at operator
      simp [plain, operator]
    rcases Pattern.isLiteral_parentheses plain with ⟨notOpen, notClose⟩
    rw [Pattern.rewriteCharacter_self operator notOpen notClose]
    have form : StepForm state (character :: after) _ after := .single marks.1 (.literal marks.2)
    exact ⟨_, .single notVerbose (step_of_form form), .push state _⟩

theorem step_mark {state : ParserState} {item : Tree} {others : List Tree} {after : List Char}
    (items : state.level.items = item :: others) (isOperand : item.isOperand)
    (ends : after.head? ≠ some '?') :
    Reads (step state ('?' :: after))
      ({ state with level := { state.level with items := others } }.push
        (.repetition ⟨item.span.start, after.length⟩ 0 (some 1) true item)) after := by
  have isMark : ('?', ⟨0, some 1⟩) ∈ repetitionMarks := by decide
  refine step_of_form (.repeats isMark (.greedy ends ?_))
  rw [repeatOperand, takeOperand_of items isOperand]
  rfl

theorem steps_optional {state : ParserState} {body after : List Char} {captures : Nat}
    {items : List Tree} (notVerbose : state.verbose = false) (ends : after.head? ≠ some '?')
    (inner : ∀ opened : ParserState, opened.verbose = false → opened.captures = state.captures →
      ∃ last, Steps opened (body ++ ')' :: '?' :: after) last (')' :: '?' :: after) ∧
        opened.Extends last captures items) :
    ∃ next, Steps state ('(' :: '?' :: ':' :: (body ++ ')' :: '?' :: after)) next after ∧
      state.Extends next captures [.repetition .nowhere 0 (some 1) true
        (.group .nowhere [] (.ofSequence .nowhere items.reverse))] := by
  have opens : Reads (readGroup state ('(' :: '?' :: ':' :: (body ++ ')' :: '?' :: after))) _ _ :=
    readGroup_plain state _
  let opened := state.openGroup (.head ('(' :: '?' :: ':' :: (body ++ ')' :: '?' :: after)))
    (.plain []) state.verbose (body ++ ')' :: '?' :: after)
  rcases inner opened notVerbose rfl with ⟨last, steps, extended⟩
  have closes := step_close extended.groups ('?' :: after)
  have bare := extended.bare_tree rfl rfl (')' :: '?' :: after)
  refine ⟨_, .step notVerbose opens (steps.trans (.step (extended.verbose.trans notVerbose) closes
    (.single notVerbose (step_mark rfl rfl ends)))), rfl, extended.captures, rfl, rfl, ?_⟩
  rw [Tree.bare] at bare
  change (Tree.repetition _ _ _ _ (.group _ [] _)).bare :: _ = _
  rw [Tree.bare, Tree.strip, Tree.strip, bare]
  rfl

end UriDispatch.Regex

namespace UriDispatch.Pattern

open Regex (Tree ParserState Steps)

/-! ## Fragments -/

def treeFor (fragments : Fragments) (name : String) : Tree :=
  (Regex.parse (fragmentFor fragments name)).toOption.getD (.empty .nowhere)

def expressionFor (fragments : Fragments) (name : String) : Regex.Expression :=
  (Regex.meaning (fragmentFor fragments name)).toOption.getD .empty

theorem run_treeFor {fragments : Fragments} {name : String} {expression : Regex.Expression}
    (meant : Regex.meaning (fragmentFor fragments name) = .ok expression) :
    Regex.run (.initial (fragmentFor fragments name)) (fragmentFor fragments name) =
        .ok (treeFor fragments name) ∧
      ∃ after, (treeFor fragments name).meaning {} = .ok (expression, after) := by
  unfold Regex.meaning at meant
  split at meant
  · cases meant
  · next tree parsed =>
      rcases Regex.ok_of_map meant with ⟨⟨found, after⟩, whole, rfl⟩
      have sameTree : treeFor fragments name = tree := by
        rw [treeFor, parsed]
        rfl
      rw [sameTree]
      exact ⟨Regex.run_of_parse parsed, after, whole⟩

/-- The fragment for a name is well formed by itself and says only what it matches. -/
structure Fits (fragments : Fragments) (name : String) : Prop where
  plain : Fragment.isPlain (fragmentFor fragments name)
  meant : ∃ expression, Regex.meaning (fragmentFor fragments name) = .ok expression

namespace Fits

variable {fragments : Fragments} {name : String}

theorem meaning (fits : Fits fragments name) :
    Regex.meaning (fragmentFor fragments name) = .ok (expressionFor fragments name) := by
  rcases fits.meant with ⟨expression, meant⟩
  rw [expressionFor, meant]
  rfl

theorem tree (fits : Fits fragments name) :
    Regex.run (.initial (fragmentFor fragments name)) (fragmentFor fragments name) =
        .ok (treeFor fragments name) ∧
      ∃ after, (treeFor fragments name).meaning {} = .ok (expressionFor fragments name, after) :=
  run_treeFor fits.meaning

theorem steps (fits : Fits fragments name)
    (written : groupBody fragments name = .ok (groupText fragments name)) {state : ParserState}
    (after : List Char) (notVerbose : state.verbose = false) :
    (treeFor fragments name).unconditional ∧
      ∃ next, Steps state ('(' :: groupText fragments name ++ ')' :: after) next after ∧
        state.Extends next 1
          [.capture .nowhere (state.captures + 1) (treeFor fragments name).plain] := by
  rcases fits.tree with ⟨ran, flags, meant⟩
  exact Regex.steps_token notVerbose fits.plain (demote_fragmentFor written) ran
    (Regex.Tree.inert_of_meaning meant)

theorem unconditional (fits : Fits fragments name)
    (written : groupBody fragments name = .ok (groupText fragments name)) :
    (treeFor fragments name).unconditional := by
  have notVerbose : (ParserState.initial []).verbose = false := rfl
  exact (fits.steps written [] notVerbose).1

end Fits

/-! ## Outlines -/

namespace Outline

def trees (fragments : Fragments) (before : Nat) : Outline → List Tree
  | .done => []
  | .literal character _ rest =>
      .literal ⟨.nowhere, character, false⟩ :: rest.trees fragments before
  | .token letters rest =>
      .capture .nowhere (before + 1) (treeFor fragments (String.ofList letters)).plain ::
        rest.trees fragments (before + 1)
  | .optional body rest =>
      .repetition .nowhere 0 (some 1) true
          (.group .nowhere [] (.ofSequence .nowhere (body.trees fragments before).reverse)) ::
        rest.trees fragments (before + body.names.length)

theorem head_text {fragments : Fragments} {after : List Char} (ends : after.head? ≠ some '?')
    (outline : Outline) : (outline.text fragments ++ after).head? ≠ some '?' := by
  cases outline with
  | done => exact ends
  | literal character plain rest =>
      rw [text, List.append_assoc]
      by_cases operator : character ∈ plainOperators
      · rw [rewriteCharacter_operator operator]
        simp
      · have different : character ≠ '?' := by
          rintro rfl
          exact operator (by decide)
        rcases isLiteral_parentheses plain with ⟨notOpen, notClose⟩
        rw [rewriteCharacter_self operator notOpen notClose]
        simpa using different
  | token letters rest => simp [text]
  | optional body rest => simp [text]

theorem steps {fragments : Fragments} {outline : Outline}
    (fits : ∀ name ∈ outline.names, Fits fragments name ∧
      groupBody fragments name = .ok (groupText fragments name))
    {state : ParserState} {after : List Char} (ends : after.head? ≠ some '?')
    (notVerbose : state.verbose = false) :
    ∃ next, Steps state (outline.text fragments ++ after) next after ∧
      state.Extends next outline.names.length (outline.trees fragments state.captures) := by
  induction outline generalizing state after with
  | done => exact ⟨state, .here state after, .refl state⟩
  | literal character plain rest induction =>
      rw [text, List.append_assoc]
      rcases Regex.steps_literal (rest.text fragments ++ after) notVerbose plain with
        ⟨next, steps, extended⟩
      rcases induction fits ends (extended.verbose.trans notVerbose) with ⟨last, others, further⟩
      refine ⟨last, steps.trans others, ?_⟩
      have whole := extended.trans further
      rw [Nat.zero_add, extended.captures] at whole
      exact whole
  | token letters rest induction =>
      rw [names, List.forall_mem_cons] at fits
      rw [text, List.append_assoc, List.cons_append]
      rcases fits.1.1.steps fits.1.2 (rest.text fragments ++ after) notVerbose with
        ⟨_, next, steps, extended⟩
      rcases induction fits.2 ends (extended.verbose.trans notVerbose) with ⟨last, others, further⟩
      refine ⟨last, steps.trans others, ?_⟩
      have whole := extended.trans further
      rw [Nat.add_comm, extended.captures] at whole
      exact whole
  | optional body rest inner outer =>
      rw [names, List.forall_mem_append] at fits
      rw [text, List.append_assoc]
      have inside (opened : ParserState) (openedVerbose : opened.verbose = false)
          (same : opened.captures = state.captures) :
          ∃ last, Steps opened (body.text fragments ++ ')' :: '?' :: (rest.text fragments ++ after))
              last (')' :: '?' :: (rest.text fragments ++ after)) ∧
            opened.Extends last body.names.length (body.trees fragments state.captures) := by
        rw [← same]
        exact inner fits.1 (by simp) openedVerbose
      rcases Regex.steps_optional notVerbose (head_text ends rest) inside with
        ⟨next, steps, extended⟩
      rcases outer fits.2 ends (extended.verbose.trans notVerbose) with ⟨last, others, further⟩
      refine ⟨last, steps.trans others, ?_⟩
      have whole := extended.trans further
      rw [extended.captures] at whole
      rw [names, List.length_append]
      exact whole

def items (fragments : Fragments) (outline : Outline) : List Tree :=
  .assertion .nowhere .startOfLine ::
    (outline.trees fragments 0 ++ [.assertion .nowhere .endOfLine])

theorem exists_run {fragments : Fragments} {outline : Outline}
    (fits : ∀ name ∈ outline.names, Fits fragments name ∧
      groupBody fragments name = .ok (groupText fragments name)) :
    ∃ tree, Regex.run (.initial ('^' :: outline.text fragments ++ ['$']))
        ('^' :: outline.text fragments ++ ['$']) = .ok tree ∧
      tree.bare = .ofSequence .nowhere (outline.items fragments).reverse := by
  let whole := '^' :: (outline.text fragments ++ ['$'])
  let opened := (ParserState.initial whole).push (.assertion (.head whole) .startOfLine)
  have notVerbose : opened.verbose = false := rfl
  have notMark : ['$'].head? ≠ some '?' := by decide
  rcases steps fits notMark notVerbose with ⟨next, read, extended⟩
  let last := next.push (.assertion (.head ['$']) .endOfLine)
  have begins : Steps (.initial whole) whole opened (outline.text fragments ++ ['$']) :=
    .single rfl ⟨_, rfl, rfl, rfl⟩
  have ends : Steps next ['$'] last [] := .single extended.verbose ⟨_, rfl, rfl, rfl⟩
  have atEnd : Regex.run last [] = .ok (last.level.tree []) :=
    Regex.run_end extended.verbose extended.groups
  have all : ParserState.Extends (.initial whole) last _ _ :=
    ((Regex.ParserState.Extends.push _ _).trans extended).trans (.push next _)
  refine ⟨last.level.tree [], ?_, all.bare_tree rfl rfl []⟩
  exact (Regex.run_of_steps ((begins.trans read).trans ends)).trans atEnd

theorem bare_parse {fragments : Fragments} {outline : Outline}
    (fits : ∀ name ∈ outline.names, Fits fragments name ∧
      groupBody fragments name = .ok (groupText fragments name)) {tree : Tree}
    (parsed : Regex.parse ('^' :: outline.text fragments ++ ['$']) = .ok tree) :
    tree.bare = .ofSequence .nowhere (outline.items fragments).reverse := by
  rcases exists_run fits with ⟨found, ran, bare⟩
  rw [Regex.run_of_parse parsed] at ran
  cases ran
  exact bare

end Outline

end UriDispatch.Pattern
