import UriDispatch.Proofs.Pattern.Balance
import UriDispatch.Proofs.Pattern.GroupBodies
import UriDispatch.Proofs.Regex.Outermost

/-! Groups that hold their fragments. A group is written as a parenthesis, a fragment and another
parenthesis. If the fragment is self-contained and the first parenthesis opens a group, the last one
closes it: what stands between them is the fragment itself, and what follows is read as if it were
not there. -/

namespace UriDispatch.Regex

/-! ## The text of an author -/

/-- The state of a reader outside of the groups for names. An author opens plain groups only. -/
structure ParserState.Authored (state : ParserState) : Prop where
  verbose : state.verbose = false
  groups : ∀ group ∈ state.groups, group.kind = .plain [] ∧ group.outerVerbose = false

theorem ParserState.Authored.quiet {state : ParserState} (authored : state.Authored) :
    state.Quiet :=
  ⟨authored.verbose, fun group member => (authored.groups group member).2⟩

theorem Primitive.outermost_toTree (primitive : Primitive) : primitive.toTree.outermost = [] := by
  cases primitive <;> rfl

theorem authored_of_moves {state next : ParserState} {input : List Char}
    (moves : Moves state input next) (notOpening : input.head? ≠ some '(')
    (authored : state.Authored) : next.Authored ∧ next.outermost = state.outermost := by
  cases moves with
  | primitive single =>
      refine ⟨⟨authored.verbose, authored.groups⟩, ?_⟩
      rw [ParserState.outermost_push, single.outermost_toTree, List.append_nil]
  | bracketed =>
      refine ⟨⟨authored.verbose, authored.groups⟩, ?_⟩
      exact (ParserState.outermost_push _ _).trans (List.append_nil _)
  | bar =>
      refine ⟨⟨authored.verbose, authored.groups⟩, ?_⟩
      rw [ParserState.outermost, Level.outermost_nextAlternative]
      rfl
  | repeats repeated =>
      rcases groups_repeatOperand repeated with ⟨groups, verbose⟩
      exact ⟨⟨verbose.trans authored.verbose, groups ▸ authored.groups⟩,
        outermost_repeatOperand repeated⟩
  | opens => exact absurd rfl notOpening
  | closes closed =>
      unfold closeGroup at closed
      split at closed
      · cases closed
      · next group others equal =>
          cases closed
          have opened := authored.groups
          rw [equal, List.forall_mem_cons] at opened
          refine ⟨⟨opened.1.2, opened.2⟩, ?_⟩
          simp [ParserState.outermost, equal, Level.outermost_push, opened.1.1, GroupKind.tree,
            Tree.outermost, Level.outermost_tree]

theorem authored_step {state : ParserState} {head : Char} {tail : List Char}
    (authored : state.Authored) (marked : head = '(' → ['?', ':'] <+: tail)
    {reading : Reading (head :: tail) ParserState}
    (found : step state (head :: tail) = .ok reading) :
    reading.value.Authored ∧ reading.value.outermost = state.outermost := by
  by_cases isOpening : head = '('
  · rcases marked isOpening with ⟨body, rfl⟩
    subst isOpening
    rw [((readGroup_plain state body).unique found).1]
    refine ⟨⟨authored.verbose, List.forall_mem_cons.mpr ⟨⟨rfl, authored.verbose⟩, authored.groups⟩⟩,
      ?_⟩
    simp [ParserState.outermost, ParserState.openGroup, Level.outermost, Level.startingAt]
  · refine authored_of_moves (moves_of_step found) (fun opens => isOpening ?_) authored
    exact Option.some.inj opens

theorem marked_of_bare {head : Char} {tail : List Char}
    (none : bareParentheses (head :: tail) = []) (opens : head = '(') : ['?', ':'] <+: tail := by
  by_contra bare
  rw [bareParentheses, if_pos ⟨opens, bare⟩] at none
  cases none

theorem bareParentheses_append {first second : List Char} (noneFirst : bareParentheses first = [])
    (noneSecond : bareParentheses second = []) : bareParentheses (first ++ second) = [] := by
  induction first with
  | nil => exact noneSecond
  | cons head tail induction =>
      have sublist := bareParentheses_suffix (List.suffix_cons head tail)
      rw [noneFirst, List.sublist_nil] at sublist
      rw [List.cons_append, bareParentheses, if_neg]
      · exact induction sublist
      · rintro ⟨opens, bare⟩
        exact bare ((marked_of_bare noneFirst opens).trans (List.prefix_append _ _))

/-! ## Steps -/

theorem length_le_of_steps {state next : ParserState} {input rest : List Char}
    (steps : Steps state input next rest) : rest.length ≤ input.length := by
  induction steps with
  | here => exact Nat.le_refl _
  | step _ reads _ induction =>
      rcases reads with ⟨reading, _, _, rfl⟩
      exact induction.trans (Nat.le_of_lt reading.shorter)

theorem openings_of_next {state : ParserState} {head : Char} {tail : List Char} {place : Place}
    (notVerbose : state.verbose = false) {reading : Reading (head :: tail) ParserState}
    (found : step state (head :: tail) = .ok reading) (opens : place ∈ openings state (head :: tail))
    (behind : place < (head :: tail).length) : place ∈ openings reading.value reading.rest := by
  have start : skip state.verbose (head :: tail) = head :: tail := notVerbose ▸ skip_false _
  rw [openings_of_step start found] at opens
  split at opens
  · exact (List.mem_cons.mp opens).resolve_left (Nat.ne_of_lt behind)
  · exact opens

theorem openings_of_steps {state next : ParserState} {input rest : List Char} {place : Place}
    (steps : Steps state input next rest) (opens : place ∈ openings state input)
    (within : place ≤ rest.length) : place ∈ openings next rest := by
  induction steps with
  | here => exact opens
  | step notVerbose reads steps induction =>
      rcases reads with ⟨reading, found, rfl, rfl⟩
      have before := within.trans (length_le_of_steps steps)
      have later := openings_of_next notVerbose found opens (before.trans_lt reading.shorter)
      exact induction later within

theorem exists_front {rest front suffix : List Char} (inside : rest <:+ front ++ suffix)
    (long : suffix.length ≤ rest.length) : ∃ others, rest = others ++ suffix ∧ others <:+ front := by
  rcases List.suffix_of_suffix_length_le (List.suffix_append front suffix) inside long with
    ⟨others, rfl⟩
  exact ⟨others, rfl, List.suffix_append_self_iff.mp inside⟩

/-- A reader of an author's text comes to its end, or to the next opening in it. -/
theorem exists_reach {state : ParserState} {lead suffix : List Char} {tree : Tree}
    (authored : state.Authored) (noneBare : bareParentheses lead = [])
    (ahead : suffix = [] ∨ suffix.length ∈ openings state (lead ++ suffix))
    (ran : run state (lead ++ suffix) = .ok tree) :
    ∃ next, Steps state (lead ++ suffix) next suffix ∧ next.Authored ∧
      next.outermost = state.outermost := by
  -- A step can take many characters, so the induction is on what is left of the text.
  induction size : lead.length using Nat.strongRecOn generalizing state lead with
  | ind length induction =>
      subst size
      cases lead with
      | nil => exact ⟨state, .here _ _, authored, rfl⟩
      | cons head tail =>
          rcases exists_step_of_run authored.verbose ran with ⟨reading, found, ranNext⟩
          have behind : suffix.length < (head :: (tail ++ suffix)).length := by
            simp only [List.length_append, List.length_cons]
            omega
          have later : suffix = [] ∨ suffix.length ∈ openings reading.value reading.rest :=
            ahead.imp_right fun opens => openings_of_next authored.verbose found opens behind
          have long : suffix.length ≤ reading.rest.length := by
            rcases later with rfl | opens
            · exact Nat.zero_le _
            · exact openings_le opens
          have inTail : reading.rest <:+ tail ++ suffix := by
            refine (List.suffix_cons_iff.mp (step_suffix found)).resolve_left fun whole => ?_
            have shorter := reading.shorter
            rw [whole] at shorter
            exact absurd shorter (Nat.lt_irrefl _)
          rcases exists_front inTail long with ⟨others, rest, suffixTail⟩
          have marked : head = '(' → ['?', ':'] <+: tail ++ suffix := fun opens =>
            (marked_of_bare noneBare opens).trans (List.prefix_append _ _)
          rcases authored_step authored marked found with ⟨nextAuthored, same⟩
          have noneLater : bareParentheses others = [] := by
            have sublist := bareParentheses_suffix (suffixTail.trans (List.suffix_cons head tail))
            rwa [noneBare, List.sublist_nil] at sublist
          rw [rest] at later ranNext
          rcases induction _ (Nat.lt_succ_of_le suffixTail.length_le) nextAuthored noneLater later
            ranNext rfl with ⟨last, steps, lastAuthored, sameLast⟩
          refine ⟨last, ?_, lastAuthored, sameLast.trans same⟩
          exact .step authored.verbose ⟨reading, found, rfl, rest⟩ steps

/-! ## Groups -/

/-- A reader of the source comes to the parenthesis before the body and the rest, and takes the body
with both of its parentheses as one capture of the tree. Besides, it knows the names of the groups in
the body. -/
def Encloses (source body rest : List Char) (tree : Tree) : Prop :=
  ∃ state inside names,
    Steps (.initial source) source state ('(' :: (body ++ ')' :: rest)) ∧ inside.plain = tree.plain ∧
      Steps state ('(' :: (body ++ ')' :: rest))
        (state.behind (.capture ⟨('(' :: (body ++ ')' :: rest)).length, rest.length⟩
          (state.captures + 1) inside) names) rest

theorem ParserState.outermost_behind (state : ParserState) (item : Tree)
    (names : List (List Char × Span)) :
    (state.behind item names).outermost = state.outermost ++ item.outermost :=
  state.outermost_push item

theorem ParserState.Authored.behind {state : ParserState} (authored : state.Authored) (item : Tree)
    (names : List (List Char × Span)) : (state.behind item names).Authored :=
  ⟨authored.verbose, authored.groups⟩

theorem outermost_run {state : ParserState} {tree : Tree} (authored : state.Authored)
    (ran : run state [] = .ok tree) : tree.outermost = state.outermost := by
  rw [run] at ran
  split at ran
  · split at ran
    · next noGroups =>
        cases ran
        rw [Level.outermost_tree, ParserState.outermost, noGroups]
        rfl
    · cases ran
  · next equal =>
      rw [authored.verbose, skip_false] at equal
      cases equal

end UriDispatch.Regex

namespace UriDispatch.Pattern

open Fragment (isSelfContained)
open Regex (Tree ParserState Steps isInert bareParentheses openings)

theorem bareParentheses_translateCharacter (single : Char) :
    bareParentheses (translateCharacter single) = [] := by
  unfold translateCharacter
  split
  · next operator =>
      simp only [plainOperators, List.mem_cons, List.not_mem_nil, or_false] at operator
      rcases operator with rfl | rfl | rfl | rfl | rfl | rfl <;> decide
  · split
    · decide
    · split
      · decide
      · next notOpen _ => simp [bareParentheses, notOpen]

def groupPlaces (fragments : Fragments) : List Piece → List Regex.Place
  | [] => []
  | .character _ :: rest => groupPlaces fragments rest
  | .name letters :: rest =>
      (translate fragments (.name letters :: rest) ++ ['$']).length :: groupPlaces fragments rest

theorem groupPlaces_le {fragments : Fragments} {parts : List Piece} {place : Regex.Place}
    (member : place ∈ groupPlaces fragments parts) :
    place ≤ (translate fragments parts ++ ['$']).length := by
  induction parts with
  | nil => cases member
  | cons part rest induction =>
      have later : (translate fragments rest ++ ['$']).length ≤
          (translate fragments (part :: rest) ++ ['$']).length := by
        rw [translate_cons, List.append_assoc]
        exact (List.suffix_append _ _).length_le
      cases part with
      | character => exact (induction member).trans later
      | name letters =>
          rcases List.mem_cons.mp member with rfl | inRest
          · exact Nat.le_refl _
          · exact (induction inRest).trans later

def HoldsFragment (fragments : Fragments) (name : String) (body : Tree) : Prop :=
  ∃ alone, Regex.run (.initial (fragmentFor fragments name)) (fragmentFor fragments name) =
    .ok alone ∧ body.plain = alone.plain

def EnclosesFragment (fragments : Fragments) (source rest : List Char) (name : String) : Prop :=
  ∃ alone, Regex.run (.initial (fragmentFor fragments name)) (fragmentFor fragments name) =
    .ok alone ∧ Regex.Encloses source (groupText fragments name) rest alone

/-- A reader of the source, which leads to the tree, has come to what an author wrote between two
names, and to the parts behind it. -/
structure ComesTo (fragments : Fragments) (source : List Char) (tree : Tree) (state : ParserState)
    (lead : List Char) (parts : List Piece) : Prop where
  authored : state.Authored
  noneBare : bareParentheses lead = []
  opens : ∀ place ∈ groupPlaces fragments parts,
    place ∈ openings state (lead ++ (translate fragments parts ++ ['$']))
  reached : Steps (.initial source) source state (lead ++ (translate fragments parts ++ ['$']))
  ran : Regex.run state (lead ++ (translate fragments parts ++ ['$'])) = .ok tree

namespace ComesTo

variable {fragments : Fragments} {source lead : List Char} {tree : Tree} {state : ParserState}
  {rest : List Piece}

theorem outermost (comes : ComesTo fragments source tree state lead []) :
    tree.outermost = state.outermost := by
  have ran := comes.ran
  have whole : bareParentheses (lead ++ ['$']) = [] :=
    Regex.bareParentheses_append comes.noneBare (by decide)
  rw [translate, List.flatMap_nil, List.nil_append, ← List.append_nil (lead ++ ['$'])] at ran
  rcases Regex.exists_reach comes.authored whole (.inl rfl) ran with
    ⟨next, steps, nextAuthored, same⟩
  rw [Regex.run_of_steps steps] at ran
  exact (Regex.outermost_run nextAuthored ran).trans same

theorem character {single : Char}
    (comes : ComesTo fragments source tree state lead (.character single :: rest)) :
    ComesTo fragments source tree state (lead ++ translateCharacter single) rest := by
  rcases comes with ⟨authored, noneBare, opens, reached, ran⟩
  have shape : lead ++ (translate fragments (.character single :: rest) ++ ['$']) =
      lead ++ translateCharacter single ++ (translate fragments rest ++ ['$']) := by
    simp [translate_cons, Piece.translate]
  rw [shape] at opens reached ran
  exact ⟨authored,
    Regex.bareParentheses_append noneBare (bareParentheses_translateCharacter single),
    opens, reached, ran⟩

theorem name {letters : List Char}
    (comes : ComesTo fragments source tree state lead (.name letters :: rest))
    (contained : isSelfContained (fragmentFor fragments (String.ofList letters)))
    (written : groupBody fragments (String.ofList letters) =
      .ok (groupText fragments (String.ofList letters)))
    (inert : ∀ letter ∈ tree.letters, isInert letter) :
    EnclosesFragment fragments source (translate fragments rest ++ ['$']) (String.ofList letters) ∧
      ∃ body next, HoldsFragment fragments (String.ofList letters) body ∧
        next.outermost = state.outermost ++ [some body] ∧
          ComesTo fragments source tree next [] rest := by
  rcases comes with ⟨authored, noneBare, opens, reached, ran⟩
  have shape : translate fragments (.name letters :: rest) ++ ['$'] =
      '(' :: (groupText fragments (String.ofList letters) ++ ')' ::
        (translate fragments rest ++ ['$'])) := by
    simp [translate_cons, Piece.translate]
  rw [groupPlaces, List.forall_mem_cons] at opens
  rw [shape] at opens reached ran
  rcases Regex.exists_reach authored noneBare (.inr opens.1) ran with
    ⟨before, steps, beforeAuthored, same⟩
  rw [Regex.run_of_steps steps] at ran
  have opening := Regex.openings_of_steps steps opens.1 (Nat.le_refl _)
  rcases Regex.exists_group beforeAuthored.quiet contained (demote_fragmentFor written) inert
    opening ran with ⟨alone, body, names, ranAlone, samePlain, group⟩
  rw [Regex.run_of_steps group] at ran
  refine ⟨⟨alone, ranAlone, before, body, names, reached.trans steps, samePlain, group⟩,
    body, _, ⟨alone, ranAlone, samePlain⟩, ?_, beforeAuthored.behind _ names, rfl,
    fun place member => ?_, reached.trans (steps.trans group), ran⟩
  · rw [Regex.ParserState.outermost_behind, same]
    rfl
  · exact Regex.openings_of_steps (steps.trans group) (opens.2 place member) (groupPlaces_le member)

end ComesTo

theorem exists_bodies {fragments : Fragments} {source lead : List Char} {tree : Tree}
    {state : ParserState} {parts : List Piece}
    (comes : ComesTo fragments source tree state lead parts)
    (contained : ∀ name ∈ parts.filterMap Piece.name?,
      isSelfContained (fragmentFor fragments name))
    (written : ∀ name ∈ parts.filterMap Piece.name?,
      groupBody fragments name = .ok (groupText fragments name))
    (inert : ∀ letter ∈ tree.letters, isInert letter) :
    ∃ bodies : List Tree, tree.outermost = state.outermost ++ bodies.map some ∧
      List.Forall₂ (HoldsFragment fragments) (parts.filterMap Piece.name?) bodies ∧
      ∀ before letters after, parts = before ++ .name letters :: after →
        EnclosesFragment fragments source (translate fragments after ++ ['$'])
          (String.ofList letters) := by
  induction parts generalizing lead state with
  | nil =>
      refine ⟨[], ?_, .nil, fun before letters after split => absurd split (by simp)⟩
      exact comes.outermost.trans (List.append_nil _).symm
  | cons part rest induction =>
      cases part with
      | character single =>
          rw [List.filterMap_cons_none rfl] at contained written ⊢
          rcases induction comes.character contained written with ⟨bodies, outermost, holds, encloses⟩
          refine ⟨bodies, outermost, holds, fun before letters after split => ?_⟩
          cases before with
          | nil => cases split
          | cons first others => exact encloses others letters after (List.cons.inj split).2
      | name letters =>
          have named : Piece.name? (.name letters) = some (String.ofList letters) := rfl
          rw [List.filterMap_cons_some named] at contained written ⊢
          rw [List.forall_mem_cons] at contained written
          rcases comes.name contained.1 written.1 inert with ⟨own, body, next, holdsOwn, read, later⟩
          rcases induction later contained.2 written.2 with ⟨bodies, outermost, holds, encloses⟩
          refine ⟨body :: bodies, ?_, .cons holdsOwn holds, fun before others after split => ?_⟩
          · rw [outermost, read, List.append_assoc]
            rfl
          · cases before with
            | nil =>
                cases split
                exact own
            | cons first front => exact encloses front others after (List.cons.inj split).2

section Bodies

variable {fragments : Fragments} {source : List Char} {tree : Tree} {expression : Regex.Expression}
  {after : Regex.Flags} (parsed : Regex.parse source = .ok tree)
  (meant : tree.meaning {} = .ok (expression, after)) (noFlags : none ∉ tree.outermost)

include parsed meant noFlags

theorem valid_of_holds {name : String} {body : Tree} (inside : some body ∈ tree.outermost)
    (holds : HoldsFragment fragments name body) :
    (∃ found, Regex.meaning (fragmentFor fragments name) = .ok found) ∧
      body.plain = (treeFor fragments name).plain := by
  rcases holds with ⟨alone, ran, same⟩
  rcases (Regex.Tree.meaning_outermost noFlags meant).2 body inside with ⟨⟨_, _⟩, foundBody⟩
  have shallow := Regex.Tree.tooDeep?_outermost (Regex.tooDeep?_of_parse parsed) inside
  rcases (Regex.meaning_of_run ran same.symm shallow foundBody).2 with ⟨found, meantAlone, _⟩
  cases ran.symm.trans (run_treeFor meantAlone).1
  exact ⟨⟨found, meantAlone⟩, same⟩

theorem valid_of_forall {names : List String} {bodies : List Tree}
    (holds : List.Forall₂ (HoldsFragment fragments) names bodies)
    (inside : ∀ body ∈ bodies, some body ∈ tree.outermost) :
    (∀ name ∈ names, ∃ found, Regex.meaning (fragmentFor fragments name) = .ok found) ∧
      bodies.map Tree.plain = names.map fun name => (treeFor fragments name).plain := by
  induction holds with
  | nil => exact ⟨fun _ member => (nomatch member), rfl⟩
  | cons own _ induction =>
      rw [List.forall_mem_cons] at inside
      have first := valid_of_holds parsed meant noFlags inside.1 own
      have others := induction inside.2
      refine ⟨List.forall_mem_cons.mpr ⟨first.1, others.1⟩, ?_⟩
      rw [List.map_cons, List.map_cons, first.2, others.2]

end Bodies

/-- If a pattern can be compiled and the parentheses for its names open groups, a self-contained
fragment is well formed by itself. It is all that its group holds, and what comes after the group is
read as it would be after any other. -/
theorem encloses_fragments {pattern : String} {fragments : Fragments} {compiled : CompiledPattern}
    (succeeds : (compile pattern fragments).value = .ok compiled)
    (contained : ∀ name ∈ compiled.names, isSelfContained (fragmentFor fragments name))
    (opens : ∀ place ∈ groupPlaces fragments (pieces pattern.toList),
      place ∈ openings (.initial compiled.regex.source.toList) compiled.regex.source.toList) :
    (∀ name ∈ compiled.names,
      ∃ expression, Regex.meaning (fragmentFor fragments name) = .ok expression) ∧
    (∃ tree, Regex.parse compiled.regex.source.toList = .ok tree ∧
      tree.outermost.map (Option.map Tree.plain) =
        compiled.names.map fun name => some (treeFor fragments name).plain) ∧
    ∀ before letters after, pieces pattern.toList = before ++ .name letters :: after →
      Regex.Encloses compiled.regex.source.toList (groupText fragments (String.ofList letters))
        (translate fragments after ++ ['$']) (treeFor fragments (String.ofList letters)) := by
  rcases compilesBy_of_compile succeeds with ⟨tree, compilation⟩
  rcases compilation.meant with ⟨after, meant⟩
  have names : compiled.names = tokens pattern := (source_trace compilation.built).2.1
  have text : compiled.regex.source.toList =
      '^' :: (translate fragments (pieces pattern.toList) ++ ['$']) := by
    rw [text_of_source compilation.built, sourceText, String.toList_ofList]
    rfl
  have parsed := compilation.parsed
  rw [text] at opens parsed ⊢
  rw [names] at contained ⊢
  have comes : ComesTo fragments _ tree (.initial _) ['^'] (pieces pattern.toList) :=
    ⟨⟨rfl, fun _ member => nomatch member⟩, by decide, opens, .here _ _, Regex.run_of_parse parsed⟩
  rcases exists_bodies comes contained (groupBody_of_source compilation.built)
    (Regex.Tree.inert_of_meaning meant) with ⟨bodies, outermost, holds, encloses⟩
  change tree.outermost = [] ++ bodies.map some at outermost
  rw [List.nil_append] at outermost
  have noFlags : none ∉ tree.outermost := by simp [outermost]
  have inside : ∀ body ∈ bodies, some body ∈ tree.outermost := by simp [outermost]
  rcases valid_of_forall parsed meant noFlags holds inside with ⟨valid, trees⟩
  refine ⟨valid, ⟨tree, parsed, ?_⟩, fun before letters rest split => ?_⟩
  · have mapped := congrArg (List.map some) trees
    rw [List.map_map, List.map_map] at mapped
    rw [outermost, List.map_map]
    exact mapped
  · have member : String.ofList letters ∈ tokens pattern := by
      rw [tokens, split, List.filterMap_append]
      exact List.mem_append_right _ List.mem_cons_self
    rcases valid _ member with ⟨found, meantAlone⟩
    rcases encloses before letters rest split with ⟨alone, ranAlone, enclosed⟩
    cases ranAlone.symm.trans (run_treeFor meantAlone).1
    exact enclosed

theorem encloses_fragments_of_section : ∃ compiled,
    (compile "/(<a>)" (.ofList [("a", "([[:alpha:]])[)]")])).value = .ok compiled ∧
    (∀ name ∈ compiled.names,
      isSelfContained (fragmentFor (.ofList [("a", "([[:alpha:]])[)]")]) name)) ∧
    (∀ place ∈ groupPlaces (.ofList [("a", "([[:alpha:]])[)]")]) (pieces "/(<a>)".toList),
      place ∈ openings (.initial compiled.regex.source.toList) compiled.regex.source.toList) ∧
    (∀ name ∈ compiled.names, ∃ expression,
      Regex.meaning (fragmentFor (.ofList [("a", "([[:alpha:]])[)]")]) name) = .ok expression) ∧
    (∃ tree, Regex.parse compiled.regex.source.toList = .ok tree ∧
      tree.outermost.map (Option.map Tree.plain) = compiled.names.map fun name =>
        some (treeFor (.ofList [("a", "([[:alpha:]])[)]")]) name).plain) ∧
    ∀ before letters after, pieces "/(<a>)".toList = before ++ .name letters :: after →
      Regex.Encloses compiled.regex.source.toList
        (groupText (.ofList [("a", "([[:alpha:]])[)]")]) (String.ofList letters))
        (translate (.ofList [("a", "([[:alpha:]])[)]")]) after ++ ['$'])
        (treeFor (.ofList [("a", "([[:alpha:]])[)]")]) (String.ofList letters)) := by
  have succeeds : (compile "/(<a>)" (.ofList [("a", "([[:alpha:]])[)]")])).value = .ok
      { pattern := "/(<a>)"
        regex := ⟨"^/(?:((?:[[:alpha:]])[)]))?$",
          .follow (.test .startOfText) (.follow (.step (.singleton '/'))
            (.follow (.repetition 0 (some 1) true (.capture 1 (.follow
              (.step ⟨[⟨65, 90⟩, ⟨97, 122⟩]⟩) (.step (.singleton ')'))))) (.test .endOfText)))⟩
        names := ["a"] } := by decide +kernel
  have contained : ∀ name ∈ ["a"],
      isSelfContained (fragmentFor (.ofList [("a", "([[:alpha:]])[)]")]) name) := by
    decide +kernel
  have opens : ∀ place ∈ groupPlaces (.ofList [("a", "([[:alpha:]])[)]")]) (pieces "/(<a>)".toList),
      place ∈ openings (.initial "^/(?:((?:[[:alpha:]])[)]))?$".toList)
        "^/(?:((?:[[:alpha:]])[)]))?$".toList := by
    decide +kernel
  exact ⟨_, succeeds, contained, opens, encloses_fragments succeeds contained opens⟩

/-- A backslash at the end of a fragment takes the parenthesis written after it, and the author's own
one closes the group. -/
theorem backslash_escapes :
    (compile "<a>)" (.ofList [("a", "\\")])).value.toOption.map
        (fun compiled => (compiled.names, compiled.regex.source)) = some (["a"], "^(\\))?$") ∧
    (Regex.meaning "\\".toList).isOk = false := by
  decide +kernel

end UriDispatch.Pattern
