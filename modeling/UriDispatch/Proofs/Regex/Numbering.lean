import UriDispatch.Proofs.Regex.Rests

/-! Captures are numbered in the order in which their parentheses stand in the source, one after
the other and without gaps. A parenthesis that is followed by a question mark and a colon never
opens a capture. -/

namespace UriDispatch.Regex

/-! ## Captures of trees and states -/

def Tree.captures : Tree → List (Nat × Place)
  | .capture span index body => (index, span.start) :: body.captures
  | .repetition _ _ _ _ body | .group _ _ body | .sequence _ body | .alternation _ body =>
      body.captures
  | .follow first rest | .orElse first rest => first.captures ++ rest.captures
  | _ => []

theorem collect_foldl {Node Value : Type} {collect : Node → List Value} {join : Node → Node → Node}
    (joins : ∀ first rest, collect (join first rest) = collect first ++ collect rest)
    (earlier : List Node) (last : Node) :
    collect (earlier.foldl (fun rest item => join item rest) last) =
      (last :: earlier).reverse.flatMap collect := by
  induction earlier generalizing last with
  | nil => exact (List.flatMap_singleton collect last).symm
  | cons head tail induction =>
      rw [List.foldl_cons, induction]
      simp only [List.reverse_cons, List.flatMap_append, List.flatMap_singleton, joins,
        List.append_assoc]

theorem Tree.captures_ofSequence (span : Span) (items : List Tree) :
    (Tree.ofSequence span items).captures = items.reverse.flatMap Tree.captures := by
  match items with
  | [] => rfl
  | [item] => exact (List.flatMap_singleton captures item).symm
  | last :: second :: earlier => exact collect_foldl (fun _ _ => rfl) (second :: earlier) last

theorem Tree.captures_ofAlternatives (span : Span) (last : Tree) (earlier : List Tree) :
    (Tree.ofAlternatives span last earlier).captures =
      (last :: earlier).reverse.flatMap Tree.captures := by
  cases earlier with
  | nil => exact (List.flatMap_singleton captures last).symm
  | cons head tail => exact collect_foldl (fun _ _ => rfl) (head :: tail) last

def Level.captures (level : Level) : List (Nat × Place) :=
  level.alternatives.reverse.flatMap Tree.captures ++ level.items.reverse.flatMap Tree.captures

def GroupKind.captures (kind : GroupKind) (parenthesis : Span) : List (Nat × Place) :=
  match kind with
  | .capture index => [(index, parenthesis.start)]
  | .plain _ => []

def OpenGroup.captures (group : OpenGroup) : List (Nat × Place) :=
  group.outer.captures ++ group.kind.captures group.parenthesis

def ParserState.opened (state : ParserState) : List (Nat × Place) :=
  state.groups.reverse.flatMap OpenGroup.captures ++ state.level.captures

/-! ## Single changes of a state -/

theorem Level.captures_tree (level : Level) (rest : List Char) :
    (level.tree rest).captures = level.captures := by
  rw [Level.tree, Tree.captures_ofAlternatives, List.reverse_cons, List.flatMap_append,
    List.flatMap_singleton, Level.alternative, Tree.captures_ofSequence]
  rfl

@[simp] theorem Level.captures_startingAt (rest : List Char) :
    (Level.startingAt rest).captures = [] := rfl

theorem Level.captures_push (level : Level) (item : Tree) :
    (level.push item).captures = level.captures ++ item.captures := by
  simp [Level.captures, Level.push]

theorem Level.captures_nextAlternative (level : Level) (bar afterBar : List Char) :
    (level.nextAlternative bar afterBar).captures = level.captures := by
  simp [Level.captures, Level.nextAlternative, Level.alternative, Tree.captures_ofSequence]

theorem ParserState.opened_push (state : ParserState) (item : Tree) :
    (state.push item).opened = state.opened ++ item.captures := by
  simp [ParserState.opened, ParserState.push, Level.captures_push]

theorem ParserState.opened_openGroup (state : ParserState) (parenthesis : Span)
    (kind : GroupKind) (verbose : Bool) (body : List Char) :
    (state.openGroup parenthesis kind verbose body).opened =
      state.opened ++ kind.captures parenthesis := by
  simp [ParserState.opened, ParserState.openGroup, OpenGroup.captures]

theorem GroupKind.captures_tree (kind : GroupKind) (span parenthesis : Span) (body : Tree)
    (start : span.start = parenthesis.start) :
    (kind.tree span body).captures = kind.captures parenthesis ++ body.captures := by
  cases kind with
  | capture index => simp [GroupKind.tree, GroupKind.captures, Tree.captures, start]
  | plain changes => rfl

theorem opened_closeGroup {state next : ParserState} {input rest : List Char}
    (closed : closeGroup state input rest = .ok next) :
    next.opened = state.opened ∧ next.captures = state.captures := by
  unfold closeGroup at closed
  split at closed
  · cases closed
  · next group others groups =>
      cases closed
      refine ⟨?_, rfl⟩
      simp only [ParserState.opened, groups, List.reverse_cons, List.flatMap_append,
        List.flatMap_cons, List.flatMap_nil, List.append_nil, Level.captures_push,
        OpenGroup.captures, List.append_assoc]
      rw [GroupKind.captures_tree group.kind ⟨group.parenthesis.start, rest.length⟩
        group.parenthesis _ rfl, Level.captures_tree]

theorem opened_takeOperand {state left : ParserState} {operand : Tree} {input : List Char}
    (taken : takeOperand state input = .ok (operand, left)) :
    state.opened = left.opened ++ operand.captures ∧ left.captures = state.captures := by
  unfold takeOperand at taken
  split at taken
  · cases taken
  · cases taken
  · cases taken
  · next item others _ _ items =>
      cases taken
      refine ⟨?_, rfl⟩
      simp [ParserState.opened, Level.captures, items]

theorem opened_repeatOperand {state next : ParserState} {input rest : List Char} {count : Count}
    {greedy : Bool} (repeated : repeatOperand state input rest count greedy = .ok next) :
    next.opened = state.opened ∧ next.captures = state.captures := by
  unfold repeatOperand at repeated
  cases taken : takeOperand state input with
  | error => rw [taken] at repeated; cases repeated
  | ok pair =>
      rcases pair with ⟨operand, left⟩
      rw [taken] at repeated
      cases repeated
      have operand := opened_takeOperand taken
      rw [ParserState.opened_push]
      exact ⟨operand.1.symm, operand.2⟩

/-! ## Steps -/

/-- The places of the parentheses of a text that are not followed by a question mark and a
colon. -/
def bareParentheses : List Char → List Place
  | [] => []
  | head :: tail =>
      if head = '(' ∧ ¬['?', ':'] <+: tail then (tail.length + 1) :: bareParentheses tail
      else bareParentheses tail

theorem bareParentheses_suffix {rest input : List Char} (suffix : rest <:+ input) :
    (bareParentheses rest).Sublist (bareParentheses input) := by
  induction input with
  | nil =>
      cases List.suffix_nil.mp suffix
      exact List.Sublist.refl _
  | cons head tail induction =>
      rcases List.suffix_cons_iff.mp suffix with rfl | inTail
      · exact List.Sublist.refl _
      · refine (induction inTail).trans ?_
        simp only [bareParentheses]
        split
        · exact List.sublist_cons_self _ _
        · exact List.Sublist.refl _

def Opens (state next : ParserState) (input : List Char) : Prop :=
  next.opened = state.opened ∧ next.captures = state.captures ∨
    ∃ rest, input = '(' :: rest ∧ ¬['?', ':'] <+: rest ∧
      next.opened = state.opened ++ [(state.captures + 1, input.length)] ∧
      next.captures = state.captures + 1

theorem Opens.of_push {state : ParserState} {item : Tree} (input : List Char)
    (none : item.captures = []) : Opens state (state.push item) input :=
  .inl ⟨by rw [ParserState.opened_push, none, List.append_nil], rfl⟩

theorem Primitive.captures_toTree (primitive : Primitive) : primitive.toTree.captures = [] := by
  cases primitive with
  | literal | dot | assertion | escape | property => rfl

theorem Opens.of_opening {state next : ParserState} {tail rest : List Char}
    (opening : GroupOpening state (.head ('(' :: tail)) (skip state.verbose tail) next rest) :
    Opens state next ('(' :: tail) := by
  have marked : ['?', ':'] <+: tail → ∃ body, skip state.verbose tail = '?' :: ':' :: body := by
    rintro ⟨body, rfl⟩
    exact ⟨body, skip_mark state.verbose body⟩
  generalize skip state.verbose tail = inside at opening marked
  cases opening with
  | named _ lead =>
      refine .inr ⟨tail, rfl, fun mark => ?_, ParserState.opened_openGroup .., rfl⟩
      rcases marked mark with ⟨body, rfl⟩
      cases (stripLead?_mark body).symm.trans lead
  | flags =>
      refine .inl ⟨?_, rfl⟩
      exact (ParserState.opened_push state (.setFlags _ _)).trans (List.append_nil _)
  | plain => exact .inl ⟨(ParserState.opened_openGroup ..).trans (List.append_nil _), rfl⟩
  | capture notMark =>
      refine .inr ⟨tail, rfl, fun mark => ?_, ParserState.opened_openGroup .., rfl⟩
      rcases marked mark with ⟨body, rfl⟩
      exact notMark rfl

theorem Opens.of_moves {state next : ParserState} {input : List Char}
    (moves : Moves state input next) : Opens state next input := by
  cases moves with
  | primitive single => exact .of_push _ single.captures_toTree
  | bracketed => exact .of_push _ rfl
  | bar =>
      refine .inl ⟨?_, rfl⟩
      simp only [ParserState.opened, Level.captures_nextAlternative]
  | repeats repeated => exact .inl (opened_repeatOperand repeated)
  | opens start opening =>
      subst start
      exact .of_opening opening
  | closes closed => exact .inl (opened_closeGroup closed)

/-! ## Runs -/

/-- The captures read by a run are numbered from those before it on, and stand at bare
parentheses of the text in their order. -/
theorem captures_run {state : ParserState} {input : List Char} {tree : Tree}
    (ran : run state input = .ok tree) :
    ∃ places, tree.captures =
        state.opened ++ (List.range' (state.captures + 1) places.length).zip places ∧
      places.Sublist (bareParentheses input) := by
  fun_induction run state input with
  | case1 state input blank noGroups =>
      cases ran
      refine ⟨[], ?_, List.nil_sublist _⟩
      simp [ParserState.opened, noGroups, Level.captures_tree]
  | case2 => cases ran
  | case3 => cases ran
  | case4 state input head tail start next rest shorter stepped _ induction =>
      rcases induction ran with ⟨places, equal, inRest⟩
      have tailInput : head :: tail <:+ input := start ▸ skip_suffix state.verbose input
      have restTail : rest <:+ head :: tail := step_suffix stepped
      rcases Opens.of_moves (moves_of_step stepped) with
        ⟨sameOpened, sameCount⟩ | ⟨after, parenthesis, bare, opened, count⟩
      · simp only at sameOpened sameCount
        refine ⟨places, ?_, inRest.trans (bareParentheses_suffix (restTail.trans tailInput))⟩
        rw [equal, sameOpened, sameCount]
      · simp only at opened count
        cases parenthesis
        have restAfter : rest <:+ tail := by
          rcases List.suffix_cons_iff.mp restTail with same | inTail
          · rw [same] at shorter
            exact absurd shorter (Nat.lt_irrefl _)
          · exact inTail
        refine ⟨('(' :: tail).length :: places, ?_, ?_⟩
        · rw [equal, opened, count, List.append_assoc]
          rfl
        · refine List.Sublist.trans ?_ (bareParentheses_suffix tailInput)
          simp only [bareParentheses, bare, not_false_eq_true, and_self, if_true]
          exact (inRest.trans (bareParentheses_suffix restAfter)).cons_cons _

theorem run_of_parse {source : List Char} {tree : Tree} (parsed : parse source = .ok tree) :
    run (.initial source) source = .ok tree := by
  unfold parse at parsed
  split at parsed
  · cases parsed
  · next found ran =>
      split at parsed
      · cases parsed
      · cases parsed
        exact ran

theorem captures_parse {source : List Char} {tree : Tree} (parsed : parse source = .ok tree) :
    ∃ places, tree.captures = (List.range' 1 places.length).zip places ∧
      places.Sublist (bareParentheses source) :=
  captures_run (run_of_parse parsed)

end UriDispatch.Regex
