import UriDispatch.Proofs.Pattern.Language
import UriDispatch.Proofs.Pattern.Translation
import UriDispatch.Proofs.Regex.Confinement

/-! Sources of patterns without fragments. Whatever operators an author uses, the parentheses of
such a source open sections and groups of the default fragment, and only the latter capture. -/

namespace UriDispatch.Regex

/-! ## Texts -/

def OpensOnly (body text : List Char) : Prop :=
  ∀ rest, '(' :: rest <:+ text → ['?', ':'] <+: rest ∨ body ++ [')'] <+: rest

namespace OpensOnly

variable {body text rest : List Char}

theorem nil : OpensOnly body [] := by
  intro rest suffix
  cases List.suffix_nil.mp suffix

theorem of_suffix (opens : OpensOnly body text) (suffix : rest <:+ text) : OpensOnly body rest :=
  fun others inRest => opens others (inRest.trans suffix)

theorem cons {head : Char} (opens : OpensOnly body text)
    (first : head = '(' → ['?', ':'] <+: text ∨ body ++ [')'] <+: text) :
    OpensOnly body (head :: text) := by
  intro rest suffix
  rcases List.suffix_cons_iff.mp suffix with equal | inText
  · cases equal
    exact first rfl
  · exact opens rest inText

theorem append (opens : OpensOnly body text) {front : List Char} (noneOpens : '(' ∉ front) :
    OpensOnly body (front ++ text) := by
  induction front with
  | nil => exact opens
  | cons head tail induction =>
      rw [List.mem_cons, not_or] at noneOpens
      exact (induction noneOpens.2).cons fun equal => absurd equal.symm noneOpens.1

end OpensOnly

/-! ## States -/

def Level.CapturesOnly (level : Level) (body : Tree) : Prop :=
  (∀ tree ∈ level.alternatives, tree.CapturesOnly body) ∧
    ∀ item ∈ level.items, item.CapturesOnly body

namespace Level.CapturesOnly

variable {level : Level} {body : Tree}

theorem startingAt (rest : List Char) : (Level.startingAt rest).CapturesOnly body := by
  constructor <;> exact fun _ member => nomatch member

theorem push (holds : level.CapturesOnly body) {item : Tree} (own : item.CapturesOnly body) :
    (level.push item).CapturesOnly body :=
  ⟨holds.1, List.forall_mem_cons.mpr ⟨own, holds.2⟩⟩

theorem alternative (holds : level.CapturesOnly body) (rest : List Char) :
    (level.alternative rest).CapturesOnly body :=
  Tree.capturesOnly_ofSequence holds.2 _

theorem nextAlternative (holds : level.CapturesOnly body) (bar afterBar : List Char) :
    (level.nextAlternative bar afterBar).CapturesOnly body :=
  ⟨List.forall_mem_cons.mpr ⟨holds.alternative bar, holds.1⟩, fun _ member => nomatch member⟩

theorem tree (holds : level.CapturesOnly body) (rest : List Char) :
    (level.tree rest).CapturesOnly body :=
  Tree.capturesOnly_ofAlternatives (holds.alternative rest) holds.1 _

end Level.CapturesOnly

structure OpenGroup.CapturesOnly (group : OpenGroup) (body : Tree) : Prop where
  kind : group.kind = .plain []
  notVerbose : group.outerVerbose = false
  outer : group.outer.CapturesOnly body

/-- All that has been read captures only the body, and so will the groups that are open. -/
structure ParserState.CapturesOnly (state : ParserState) (body : Tree) : Prop where
  notVerbose : state.verbose = false
  level : state.level.CapturesOnly body
  groups : ∀ group ∈ state.groups, group.CapturesOnly body

namespace ParserState.CapturesOnly

variable {state next : ParserState} {body : Tree} {input rest : List Char}

theorem initial (source : List Char) : (ParserState.initial source).CapturesOnly body :=
  ⟨rfl, .startingAt source, fun _ member => nomatch member⟩

theorem push (holds : state.CapturesOnly body) {item : Tree} (own : item.CapturesOnly body) :
    (state.push item).CapturesOnly body :=
  { holds with level := holds.level.push own }

theorem openGroup (holds : state.CapturesOnly body) (parenthesis : Span) (inside : List Char) :
    (state.openGroup parenthesis (.plain []) state.verbose inside).CapturesOnly body where
  notVerbose := holds.notVerbose
  level := .startingAt inside
  groups := List.forall_mem_cons.mpr ⟨⟨rfl, holds.notVerbose, holds.level⟩, holds.groups⟩

theorem closeGroup (holds : state.CapturesOnly body)
    (closed : closeGroup state input rest = .ok next) : next.CapturesOnly body := by
  unfold Regex.closeGroup at closed
  split at closed
  · cases closed
  · next group others groups =>
      cases closed
      have opened := holds.groups
      rw [groups, List.forall_mem_cons] at opened
      refine ⟨opened.1.notVerbose, opened.1.outer.push ?_, opened.2⟩
      rw [opened.1.kind]
      exact ⟨rfl, holds.level.tree input⟩

theorem repeatOperand (holds : state.CapturesOnly body) {count : Count} {greedy : Bool}
    (repeated : repeatOperand state input rest count greedy = .ok next) :
    next.CapturesOnly body := by
  obtain ⟨⟨operand, left⟩, taken, rfl⟩ := ok_of_map repeated
  obtain ⟨others, items, -, rfl⟩ := takeOperand_cases taken
  have read := holds.level.2
  rw [items, List.forall_mem_cons] at read
  exact ⟨holds.notVerbose, ⟨holds.level.1, List.forall_mem_cons.mpr read⟩, holds.groups⟩

end ParserState.CapturesOnly

/-! ## Steps -/

section Steps

variable {state : ParserState} {body : Tree}

theorem Primitive.capturesOnly_toTree (primitive : Primitive) :
    primitive.toTree.CapturesOnly body := by
  cases primitive <;> trivial

theorem capturesOnly_step (holds : state.CapturesOnly body) {head : Char} {tail : List Char}
    (plain : head = '(' → ['?', ':'] <+: tail) {reading : Reading (head :: tail) ParserState}
    (found : step state (head :: tail) = .ok reading) : reading.value.CapturesOnly body := by
  by_cases isOpening : head = '('
  · subst isOpening
    obtain ⟨inside, rfl⟩ := plain rfl
    rw [((readGroup_plain state _).unique found).1]
    exact holds.openGroup _ inside
  · have moves := moves_of_step found
    generalize reading.value = next at moves
    cases moves with
    | primitive single => exact holds.push single.capturesOnly_toTree
    | bracketed => exact holds.push trivial
    | bar => exact { holds with level := holds.level.nextAlternative _ _ }
    | repeats repeated => exact holds.repeatOperand repeated
    | opens => exact absurd rfl isOpening
    | closes closed => exact holds.closeGroup closed

end Steps

theorem ParserState.CapturesOnly.of_extends {state next : ParserState} {body : Tree}
    (holds : state.CapturesOnly body) (fixed : body.bare = body) {captures index : Nat}
    (extended : state.Extends next captures [.capture .nowhere index body]) :
    next.CapturesOnly body := by
  refine ⟨extended.verbose.trans holds.notVerbose, ⟨?_, ?_⟩, ?_⟩
  · rw [extended.alternatives]
    exact holds.level.1
  · intro item member
    have bare := extended.items ▸ List.mem_map_of_mem member
    rw [← Tree.capturesOnly_bare]
    rcases List.mem_cons.mp bare with isNew | isOld
    · rw [isNew]
      exact fixed
    · obtain ⟨other, inState, same⟩ := List.mem_map.mp isOld
      rw [← same, Tree.capturesOnly_bare]
      exact holds.level.2 other inState
  · rw [extended.groups]
    exact holds.groups

/-- If all that a text can open a capture with is read as the body, nothing else captures in it. -/
theorem capturesOnly_run {fragment : List Char} {body : Tree} (fixed : body.bare = body)
    (reads : ∀ (state : ParserState) (after : List Char), state.verbose = false →
      ∃ next, Steps state ('(' :: fragment ++ ')' :: after) next after ∧
        state.Extends next 1 [.capture .nowhere (state.captures + 1) body])
    {state : ParserState} {input : List Char} {tree : Tree} (holds : state.CapturesOnly body)
    (opens : OpensOnly fragment input) (ran : run state input = .ok tree) :
    tree.CapturesOnly body := by
  -- A group is gone over as a whole, in many steps, so the induction is on what is left of the text.
  induction size : input.length using Nat.strongRecOn generalizing state input with
  | ind length induction =>
      subst size
      by_cases group : ∃ after, input = '(' :: fragment ++ ')' :: after
      · obtain ⟨after, rfl⟩ := group
        obtain ⟨next, steps, extended⟩ := reads state after holds.notVerbose
        rw [run_of_steps steps] at ran
        have suffix : after <:+ '(' :: fragment ++ ')' :: after :=
          ⟨'(' :: fragment ++ [')'], by simp⟩
        have shorter : after.length < ('(' :: fragment ++ ')' :: after).length := by
          simp only [List.length_append, List.length_cons]
          omega
        exact induction _ shorter (holds.of_extends fixed extended) (opens.of_suffix suffix) ran rfl
      · rw [run] at ran
        split at ran
        · split at ran
          · cases ran
            exact holds.level.tree []
          · cases ran
        · next head tail start =>
            rw [holds.notVerbose, skip_false] at start
            subst start
            split at ran
            · cases ran
            · next next rest shorter stepped =>
                have plain : head = '(' → ['?', ':'] <+: tail := by
                  rintro rfl
                  refine (opens tail (List.suffix_refl _)).resolve_right ?_
                  rintro ⟨after, rfl⟩
                  exact group ⟨after, by simp⟩
                exact induction _ shorter (capturesOnly_step holds plain stepped)
                  (opens.of_suffix (step_suffix stepped)) ran rfl

end UriDispatch.Regex

namespace UriDispatch.Pattern

open Regex (Tree OpensOnly ParserState Steps)

def defaultTree : Tree := treeFor .empty ""

theorem opensOnly_translate {after : List Char} (opens : OpensOnly Fragment.default after)
    (parts : List Piece) : OpensOnly Fragment.default (translate .empty parts ++ after) := by
  induction parts with
  | nil => exact opens
  | cons part rest induction =>
      rw [translate_cons, List.append_assoc]
      cases part with
      | character single =>
          by_cases isOpen : single = '('
          · subst isOpen
            have marks : OpensOnly Fragment.default
                (['?', ':'] ++ (translate .empty rest ++ after)) :=
              induction.append (by decide)
            exact marks.cons fun _ => .inl (List.prefix_append _ _)
          · refine induction.append ?_
            rw [Piece.translate, ← rewriteCharacter_eq]
            exact open_not_mem_rewriteCharacter isOpen
      | name letters =>
          have closed : OpensOnly Fragment.default
              (Fragment.default ++ [')'] ++ (translate .empty rest ++ after)) :=
            induction.append (by decide)
          exact closed.cons fun _ => .inr (List.prefix_append _ _)

theorem opensOnly_source {pattern text : String} {names : List String}
    (built : source pattern .empty = .ok (text, names)) :
    OpensOnly Fragment.default text.toList := by
  rw [text_of_source built, sourceText, String.toList_ofList, List.cons_append]
  have anchor : OpensOnly Fragment.default ['$'] :=
    OpensOnly.nil.cons fun equal => absurd equal (by decide)
  exact (opensOnly_translate anchor _).cons fun equal => absurd equal (by decide)

theorem fits_default (name : String) : Fits .empty name :=
  fits_of_given fun _ given => nomatch given

theorem capturesOnly_default {pattern : String} {compiled : CompiledPattern} {tree : Tree}
    (compilation : CompilesBy pattern .empty compiled tree) :
    tree.CapturesOnly defaultTree.plain := by
  have reads (state : ParserState) (after : List Char) (notVerbose : state.verbose = false) :
      ∃ next, Steps state ('(' :: Fragment.default ++ ')' :: after) next after ∧
        state.Extends next 1 [.capture .nowhere (state.captures + 1) defaultTree.plain] :=
    ((fits_default "").steps rfl after notVerbose).2
  exact Regex.capturesOnly_run (Tree.bare_strip false _) reads (.initial _)
    (opensOnly_source compilation.built) (Regex.run_of_parse compilation.parsed)

end UriDispatch.Pattern
