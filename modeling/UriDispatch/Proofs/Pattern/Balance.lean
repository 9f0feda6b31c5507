import UriDispatch.Proofs.Pattern.Demotion
import UriDispatch.Proofs.Pattern.StepParts
import UriDispatch.Proofs.Pattern.Translation
import UriDispatch.Proofs.Unicode.PropertyNames

/-! Which fragments are balanced. Demotion and regular expressions have rules of their own for the
parentheses that count. Where they count the same ones, a fragment that is well formed is balanced. -/

namespace UriDispatch.Fragment

/-! ## Counted parentheses -/

def countedFrom : Context → List Char → List Char
  | _, [] => []
  | _, ['\\'] => []
  | context, '\\' :: _ :: rest =>
      countedFrom (if context = .outside then .outside else .inClass) rest
  | .outside, '[' :: rest => countedFrom .classStart rest
  | .outside, '(' :: rest => '(' :: countedFrom .outside rest
  | .outside, ')' :: rest => ')' :: countedFrom .outside rest
  | .outside, _ :: rest => countedFrom .outside rest
  | .classStart, '^' :: rest => countedFrom .afterNegation rest
  | .inClass, ']' :: rest => countedFrom .outside rest
  | _, _ :: rest => countedFrom .inClass rest

def closesAll : Nat → List Char → Bool
  | depth, [] => depth = 0
  | depth, '(' :: rest => closesAll (depth + 1) rest
  | 0, _ :: _ => false
  | depth + 1, _ :: rest => closesAll depth rest

theorem isSome_demoteFrom (depth : Nat) (context : Context) (input : List Char) :
    (demoteFrom depth context input).isSome = closesAll depth (countedFrom context input) := by
  fun_induction demoteFrom depth context input with
  | case1 => rfl
  | case2 depth context nested => exact (decide_eq_false nested).symm
  | case3 => rfl
  | case4 depth context nested => exact (decide_eq_false nested).symm
  | case5 depth context escaped rest =>
      rename_i induction
      rw [Option.isSome_map, countedFrom, induction]
  | case6 depth rest induction =>
      rw [Option.isSome_map, induction]
      rfl
  | case7 depth rest mark =>
      rename_i induction
      rw [Option.isSome_map, induction]
      rfl
  | case8 => rfl
  | case9 rest depth induction =>
      rw [Option.isSome_map, induction]
      rfl
  | case10 depth character rest notLast notEscape notBracket notOpening notClosing induction =>
      rw [Option.isSome_map, induction, countedFrom] <;> assumption
  | case11 depth rest induction =>
      rw [Option.isSome_map, induction]
      rfl
  | case12 depth rest induction =>
      rw [Option.isSome_map, induction]
      rfl
  | case13 depth context character rest =>
      rename_i induction
      rw [Option.isSome_map, induction, countedFrom] <;> assumption

end UriDispatch.Fragment

namespace UriDispatch.Regex

open Fragment (isSelfContained demoteFrom closesAll)

/-! ## Fragments that show their parentheses -/

theorem StepPart.contained {state next : ParserState} {input rest : List Char}
    (part : StepPart state input next rest) (quiet : state.Quiet)
    (contained : isSelfContained input) :
    next.Quiet ∧ isSelfContained rest ∧
      (demoteFrom state.groups.length .outside input).isSome =
        (demoteFrom next.groups.length .outside rest).isSome := by
  cases part with
  | @opens tail _ _ opening =>
      rw [isSelfContained, Bool.and_eq_true] at contained
      by_cases marked : tail.head? = some '?'
      · rcases opening.takesLead quiet marked contained.1 with
          ⟨part, _, rfl, lead, ⟨pushed, groups, rfl⟩, quietNext, _⟩
        refine ⟨quietNext, Fragment.isSelfContained_lead lead contained.2, ?_⟩
        rw [groups, List.length_append, Nat.add_comm, ← List.cons_append,
          Fragment.demoteFrom_lead lead, Option.isSome_map]
      · rcases opening.unmarked marked with ⟨rfl, rfl⟩
        refine ⟨⟨quiet.verbose, List.forall_mem_cons.mpr ⟨quiet.verbose, quiet.groups⟩⟩,
          contained.2, ?_⟩
        exact Option.isSome_map ..
  | closes closed =>
      rcases quiet_closeGroup quiet closed with ⟨quietNext, group, groups⟩
      refine ⟨quietNext, by rwa [← Fragment.isSelfContained_closing rest], ?_⟩
      rw [groups]
      exact Option.isSome_map ..
  | bracketed form inert =>
      rcases Fragment.exists_contained_class contained with
        ⟨part, left, rfl, containedLeft, demotes, ends⟩
      cases ends form inert
      rcases form.takesPart quiet.verbose with ⟨_, taken⟩
      refine ⟨taken.quiet quiet, containedLeft, ?_⟩
      rw [← List.cons_append, demotes, Option.isSome_map]
      exact congrArg (fun groups => (demoteFrom groups.length .outside rest).isSome)
        taken.groups.symm
  | run isRun taken =>
      rw [taken.equal, isRun.isSelfContained_append] at contained
      refine ⟨taken.quiet quiet, contained, ?_⟩
      rw [taken.equal, isRun.demoteFrom_append, Option.isSome_map, taken.groups]

theorem isSome_demoteFrom_of_contained {state : ParserState} {input : List Char} {tree : Tree}
    (quiet : state.Quiet) (contained : isSelfContained input)
    (ran : run state input = .ok tree) (inert : ∀ letter ∈ tree.letters, isInert letter) :
    (demoteFrom state.groups.length .outside input).isSome := by
  fun_induction run state input with
  | case1 state input blank noGroups =>
      rw [quiet.verbose, skip_false] at blank
      rw [blank, noGroups]
      rfl
  | case2 => cases ran
  | case3 => cases ran
  | case4 state input head tail start next rest shorter stepped _ induction =>
      rw [quiet.verbose, skip_false] at start
      subst start
      have mentioned : ∀ letter, next.Mentions letter → isInert letter :=
        fun letter mentions => inert letter (letters_run ran mentions)
      rcases ((form_of_step stepped).part quiet.verbose mentioned).contained quiet contained with
        ⟨quietNext, containedRest, same⟩
      rw [same]
      exact induction quietNext containedRest ran

/-! ## Marks of groups -/

theorem groups_of_moves {state next : ParserState} {input : List Char}
    (moves : Moves state input next) :
    next.groups.length = state.groups.length ∨
      next.groups.length = state.groups.length + 1 ∨
        state.groups.length = next.groups.length + 1 := by
  cases moves with
  | primitive | bracketed | bar => exact .inl rfl
  | repeats repeated => exact .inl (congrArg List.length (groups_repeatOperand repeated).1)
  | opens _ opening =>
      cases opening with
      | named => exact .inr (.inl rfl)
      | flags => exact .inl rfl
      | plain => exact .inr (.inl rfl)
      | capture => exact .inr (.inl rfl)
  | closes closed =>
      unfold closeGroup at closed
      split at closed
      · cases closed
      · next group others equal =>
          cases closed
          exact .inr (.inr (congrArg List.length equal))

/-- The parentheses that open and close groups, as a run comes to them. Flags that are set by
themselves have both. -/
def groupMarks (state : ParserState) (input : List Char) : List Char :=
  match equal : skip state.verbose input with
  | [] => []
  | head :: tail =>
      match step state (head :: tail) with
      | .error _ => []
      | .ok ⟨next, rest, shorter⟩ =>
          have : rest.length < input.length :=
            Nat.lt_of_lt_of_le shorter (equal ▸ length_skip_le state.verbose input)
          let marks :=
            if next.groups.length = state.groups.length then
              if head = '(' then ['(', ')'] else []
            else if next.groups.length < state.groups.length then [')'] else ['(']
          marks ++ groupMarks next rest
termination_by input.length

theorem groupMarks_of_step {state next : ParserState} {input rest tail : List Char} {head : Char}
    {shorter : rest.length < (head :: tail).length} (start : skip state.verbose input = head :: tail)
    (stepped : step state (head :: tail) = .ok ⟨next, rest, shorter⟩) :
    groupMarks state input =
      (if next.groups.length = state.groups.length then if head = '(' then ['(', ')'] else []
        else if next.groups.length < state.groups.length then [')'] else ['(']) ++
          groupMarks next rest := by
  rw [groupMarks]
  split
  · next equal => cases start.symm.trans equal
  · next equal =>
      cases start.symm.trans equal
      simp only [stepped]

/-- A run that comes to its end has closed what it has opened. -/
theorem closesAll_groupMarks {state : ParserState} {input : List Char} {tree : Tree}
    (ran : run state input = .ok tree) :
    closesAll state.groups.length (groupMarks state input) := by
  fun_induction run state input with
  | case1 state input blank noGroups =>
      rw [groupMarks, noGroups]
      split
      · rfl
      · next equal => cases blank.symm.trans equal
  | case2 => cases ran
  | case3 => cases ran
  | case4 state input head tail start next rest shorter stepped _ induction =>
      have inner := induction ran
      rw [groupMarks_of_step start stepped]
      rcases groups_of_moves (moves_of_step stepped) with same | opened | closed
      · change next.groups.length = state.groups.length at same
        rw [if_pos same, ← same]
        split
        · exact inner
        · exact inner
      · change next.groups.length = state.groups.length + 1 at opened
        rw [if_neg (by omega), if_neg (by omega), List.singleton_append, closesAll, ← opened]
        exact inner
      · change state.groups.length = next.groups.length + 1 at closed
        rw [if_neg (by omega), if_pos (by omega), List.singleton_append, closed]
        exact inner

end UriDispatch.Regex

namespace UriDispatch.Fragment

open Regex (Expression)

/-- Demotion counts the parentheses that open and close groups, and no others. -/
def CountsGroups (fragment : List Char) : Prop :=
  countedFrom .outside fragment = Regex.groupMarks (.initial fragment) fragment

instance (fragment : List Char) : Decidable (CountsGroups fragment) :=
  inferInstanceAs (Decidable (_ = _))

theorem isSome_demote_of_meaning {fragment : List Char} {expression : Expression}
    (meant : Regex.meaning fragment = .ok expression)
    (agrees : isFlat fragment ∨ CountsGroups fragment) : (demote fragment).isSome := by
  unfold Regex.meaning at meant
  split at meant
  · cases meant
  · next tree parsed =>
      rcases Regex.ok_of_map meant with ⟨⟨_, after⟩, found, _⟩
      have ran := Regex.run_of_parse parsed
      rcases agrees with flat | counts
      · have quiet : (Regex.ParserState.initial fragment).Quiet :=
          ⟨rfl, fun _ member => nomatch member⟩
        exact Regex.isSome_demoteFrom_of_contained quiet (isSelfContained_of_flat flat) ran
          (Regex.Tree.inert_of_meaning found)
      · rw [demote, isSome_demoteFrom, counts]
        exact Regex.closesAll_groupMarks ran

end UriDispatch.Fragment

namespace UriDispatch.Pattern

open Fragment (isFlat CountsGroups)

theorem demote_of_unbalanced {pattern name fragment : String} {fragments : Fragments}
    (refused : (compile pattern fragments).value = .error (.unbalancedFragment name fragment)) :
    fragments.get? name = some fragment ∧ Fragment.demote fragment.toList = none := by
  rw [value_compile, source_eq] at refused
  cases found : firstFault? fragments [] (tokens pattern) with
  | none =>
      rw [found] at refused
      simp only [build] at refused
      split at refused
      · cases refused
      · split at refused
        · cases refused
        · cases refused
  | some error =>
      rw [found] at refused
      rcases firstFault?_eq_some found with ⟨earlier, first, later, _, _, fault⟩
      cases error with
      | duplicateName => cases refused
      | unbalancedFragment =>
          cases refused
          unfold fault? at fault
          split at fault
          · cases fault
          · split at fault
            · cases fault
            · next given =>
                split at fault
                · next unbalanced =>
                    cases fault
                    exact ⟨given, unbalanced⟩
                · cases fault

/-- Fragments that are well formed are balanced, and no pattern is refused for one of them, as far as
demotion counts the parentheses that open and close groups. -/
theorem not_unbalanced {fragments : Fragments}
    (valid : ∀ name fragment, fragments.get? name = some fragment →
      ∃ expression, Regex.meaning fragment.toList = .ok expression)
    (agrees : ∀ name fragment, fragments.get? name = some fragment →
      isFlat fragment.toList ∨ CountsGroups fragment.toList) :
    (∀ name fragment, fragments.get? name = some fragment →
      (Fragment.demote fragment.toList).isSome) ∧
    ∀ pattern name fragment,
      (compile pattern fragments).value ≠ .error (.unbalancedFragment name fragment) := by
  have balanced (name fragment : String) (given : fragments.get? name = some fragment) :
      (Fragment.demote fragment.toList).isSome := by
    rcases valid name fragment given with ⟨expression, meant⟩
    exact Fragment.isSome_demote_of_meaning meant (agrees name fragment given)
  refine ⟨balanced, fun pattern name fragment refused => ?_⟩
  rcases demote_of_unbalanced refused with ⟨given, unbalanced⟩
  have some := balanced name fragment given
  rw [unbalanced] at some
  cases some

theorem not_unbalanced_of_class :
    (∃ expression, Regex.meaning "(?s:[^()]|\\))".toList = .ok expression) ∧
    isFlat "(?s:[^()]|\\))".toList ∧
    (∃ expression, Regex.meaning "([[:alpha:]])".toList = .ok expression) ∧
    CountsGroups "([[:alpha:]])".toList ∧
    ((Fragment.demote "(?s:[^()]|\\))".toList).isSome ∧
      (Fragment.demote "([[:alpha:]])".toList).isSome) ∧
    ∀ pattern name fragment,
      (compile pattern (.ofList [("a", "(?s:[^()]|\\))"), ("b", "([[:alpha:]])")])).value ≠
        .error (.unbalancedFragment name fragment) := by
  have meantFirst : (Regex.meaning "(?s:[^()]|\\))".toList).isOk := by decide +kernel
  have meantSecond : (Regex.meaning "([[:alpha:]])".toList).isOk := by decide +kernel
  have flat : isFlat "(?s:[^()]|\\))".toList := by decide +kernel
  have counts : CountsGroups "([[:alpha:]])".toList := by decide +kernel
  let fragments : Fragments := .ofList [("a", "(?s:[^()]|\\))"), ("b", "([[:alpha:]])")]
  have cases (name fragment : String) (given : fragments.get? name = some fragment) :
      fragment = "(?s:[^()]|\\))" ∨ fragment = "([[:alpha:]])" := by
    change ((SortedMap.empty.insert "a" "(?s:[^()]|\\))").insert "b" "([[:alpha:]])").get? name =
      some fragment at given
    rw [SortedMap.get?_insert, SortedMap.get?_insert, SortedMap.get?_empty] at given
    split at given
    · exact .inr (Option.some.inj given).symm
    · split at given
      · exact .inl (Option.some.inj given).symm
      · cases given
  have valid (name fragment : String) (given : fragments.get? name = some fragment) :
      ∃ expression, Regex.meaning fragment.toList = .ok expression := by
    rcases cases name fragment given with rfl | rfl
    · exact exists_of_isOk meantFirst
    · exact exists_of_isOk meantSecond
  have agrees (name fragment : String) (given : fragments.get? name = some fragment) :
      isFlat fragment.toList ∨ CountsGroups fragment.toList := by
    rcases cases name fragment given with rfl | rfl
    · exact .inl flat
    · exact .inr counts
  have result := not_unbalanced valid agrees
  refine ⟨?_, flat, ?_, counts, ⟨result.1 "a" _ rfl, result.1 "b" _ rfl⟩, result.2⟩
  · exact exists_of_isOk meantFirst
  · exact exists_of_isOk meantSecond

/-- The bracket that closes a class within another one ends both for demotion, which then takes a
member for a parenthesis that closes a group. -/
theorem nested_class_unbalanced :
    (Regex.meaning "[[a])]".toList).isOk ∧ Fragment.demote "[[a])]".toList = none ∧
    (compile "<a>" (.ofList [("a", "[[a])]")])).value =
      .error (.unbalancedFragment "a" "[[a])]") := by
  refine ⟨?_, ?_, ?_⟩ <;> decide +kernel

end UriDispatch.Pattern
