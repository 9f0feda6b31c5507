import UriDispatch.Proofs.Pattern.OutlineTrees
import UriDispatch.Proofs.Pattern.StepParts

/-! The bodies of groups. A reader goes through a self-contained fragment in its group as it does
through the fragment by itself, and comes to the parenthesis that was written to close the group. -/

namespace UriDispatch.Regex

open Fragment (isSelfContained demoteFrom IsRun)

/-! ## Runs -/

theorem not_counts_parenthesis {after rest : List Char} {value : Count × Bool} :
    ¬Counts false (')' :: after) value rest := by
  intro counts
  cases counts with
  | exactly first | atLeast first | between first =>
      exact readDecimal_other (by decide) (by decide) first

theorem not_run_brace {state : ParserState} {after : List Char} {tree : Tree}
    (notVerbose : state.verbose = false) : run state ('{' :: ')' :: after) ≠ .ok tree := by
  intro ran
  rcases exists_step_of_run notVerbose ran with ⟨reading, found, _⟩
  change readCountedRepetition state ('{' :: ')' :: after) = .ok reading at found
  cases counted_of_readCountedRepetition found with
  | intro counts =>
      rw [notVerbose] at counts
      exact not_counts_parenthesis counts

theorem goesOn_demoted {state : ParserState} {depth : Nat} {fragment demoted after : List Char}
    {tree : Tree} (demotes : demoteFrom depth .outside fragment = some demoted)
    (notVerbose : state.verbose = false)
    (ran : run state (demoted ++ ')' :: after) = .ok tree) :
    GoesOn (demoted ++ ')' :: after) fragment where
  mark mark := by
    rw [← Fragment.demoteFrom_head demotes] at mark
    rcases List.head?_eq_some_iff.mp mark with ⟨others, rfl⟩
    rfl
  brace tail equal := by
    subst equal
    rw [Fragment.demoteFrom_outside (by decide)] at demotes
    rcases Option.map_eq_some_iff.mp demotes with ⟨inner, demotesTail, rfl⟩
    refine ⟨inner ++ ')' :: after, rfl, ?_⟩
    cases inner with
    | nil => exact absurd ran (not_run_brace notVerbose)
    | cons first others =>
        have same := Fragment.demoteFrom_head demotesTail
        exact same

/-! ## Steps -/

/-- Two readers at the same place: one in a fragment alone, the other in its demoted text before a
parenthesis that closes the group around it. -/
structure InGroup (names : List (List Char × Span)) (around : List OpenGroup) (after : List Char)
    (alone : ParserState) (fragment : List Char) (inside : ParserState) (input : List Char) :
    Prop where
  same : (alone.within names around).plain = inside.plain
  quiet : inside.Quiet
  contained : isSelfContained fragment
  demotes : ∃ demoted, demoteFrom alone.groups.length .outside fragment = some demoted ∧
    input = demoted ++ ')' :: after
  groups : ∃ opened, inside.groups = opened ++ around ∧ opened.length = alone.groups.length

theorem length_groups_of_plain {alone inside : ParserState} {names : List (List Char × Span)}
    {around opened : List OpenGroup} (same : (alone.within names around).plain = inside.plain)
    (groups : inside.groups = opened ++ around) : opened.length = alone.groups.length := by
  have lengths := congrArg (·.groups.length) same
  simp only [ParserState.plain, ParserState.within, groups, List.length_map, List.length_append]
    at lengths
  omega

theorem closeGroup_within {state next : ParserState} {input rest : List Char}
    (names : List (List Char × Span)) (around : List OpenGroup) (some : state.groups ≠ [])
    (closed : closeGroup (state.within names around) input rest = .ok next) :
    ∃ last, closeGroup state input rest = .ok last ∧ last.within names around = next := by
  rcases List.exists_cons_of_ne_nil some with ⟨group, others, equal⟩
  have equalWithin : (state.within names around).groups = group :: (others ++ around) := by
    rw [ParserState.within, equal]
    rfl
  unfold closeGroup at closed ⊢
  rw [equalWithin] at closed
  rw [equal]
  cases closed
  exact ⟨_, rfl, rfl⟩

theorem marked_of_demoteFrom {depth : Nat} {fragment tail : List Char}
    (demotes : demoteFrom depth .outside fragment = some ('(' :: tail)) :
    tail.head? = some '?' := by
  rcases List.head?_eq_some_iff.mp (Fragment.demoteFrom_head demotes).symm with ⟨inner, rfl⟩
  by_cases mark : inner.head? = some '?'
  · simp only [demoteFrom, if_pos mark] at demotes
    rcases Option.map_eq_some_iff.mp demotes with ⟨rest, demotesRest, shape⟩
    rw [← (List.cons.inj shape).2]
    exact (Fragment.demoteFrom_head demotesRest).trans mark
  · simp only [demoteFrom, if_neg mark] at demotes
    rcases Option.map_eq_some_iff.mp demotes with ⟨rest, _, shape⟩
    rw [← (List.cons.inj shape).2]
    rfl

theorem counted_of_moves {state next : ParserState} {input : List Char}
    (moves : Moves state input next) (notVerbose : state.verbose = false)
    (marked : ∀ tail, input = '(' :: tail → tail.head? = some '?') :
    ∃ own, next.names = own ++ state.names ∧ next.captures = state.captures + own.length := by
  cases moves with
  | primitive | bracketed | bar => exact ⟨[], rfl, rfl⟩
  | repeats repeated =>
      rcases ok_of_map repeated with ⟨⟨operand, left⟩, taken, rfl⟩
      rcases takeOperand_cases taken with ⟨others, _, _, rfl⟩
      exact ⟨[], rfl, rfl⟩
  | opens start opening =>
      have mark := marked _ rfl
      rw [notVerbose, skip_false] at start
      subst start
      cases opening with
      | @named _ _ _ name => exact ⟨[name], rfl, rfl⟩
      | flags | plain => exact ⟨[], rfl, rfl⟩
      | capture notMark => exact absurd mark notMark
  | closes closed =>
      unfold closeGroup at closed
      split at closed
      · cases closed
      · cases closed
        exact ⟨[], rfl, rfl⟩

namespace InGroup

variable {names : List (List Char × Span)} {around : List OpenGroup} {after : List Char}
  {alone inside next : ParserState} {tree : Tree}

theorem of_part {input part left demotedLeft : List Char} {opened : Nat}
    (inGroup : InGroup names around after alone (part ++ left) inside input)
    (contained : isSelfContained left)
    (demotes : demoteFrom (alone.groups.length + opened) .outside left = some demotedLeft)
    (repeats : Repeats inside next part (demotedLeft ++ ')' :: after))
    (groups : ∃ pushed, next.groups = pushed ++ inside.groups ∧ pushed.length = opened)
    (quiet : next.Quiet) (ran : run next (demotedLeft ++ ')' :: after) = .ok tree) :
    ∃ last, StepForm alone (part ++ left) last left ∧
      InGroup names around after last left next (demotedLeft ++ ')' :: after) := by
  have goesOn := goesOn_demoted demotes quiet.verbose ran
  rcases repeats alone names around left inGroup.same goesOn with ⟨last, form, same⟩
  rcases inGroup.groups with ⟨before, equal, count⟩
  rcases groups with ⟨pushed, equalNext, rfl⟩
  rw [equal, ← List.append_assoc] at equalNext
  have countNext := length_groups_of_plain same equalNext
  refine ⟨last, form, same, quiet, contained, ⟨demotedLeft, ?_, rfl⟩, _, equalNext, countNext⟩
  rw [← countNext, List.length_append, count, Nat.add_comm]
  exact demotes

theorem openGroup {tail input rest : List Char} {opening : Span}
    (inGroup : InGroup names around after alone ('(' :: tail) inside ('(' :: input))
    (opens : GroupOpening inside opening input next rest) (ran : run next rest = .ok tree) :
    ∃ last left, StepForm alone ('(' :: tail) last left ∧
      InGroup names around after last left next rest := by
  rcases inGroup.demotes with ⟨demoted, demotes, equal⟩
  have contained := inGroup.contained
  rw [isSelfContained, Bool.and_eq_true] at contained
  by_cases marked : tail.head? = some '?'
  · simp only [demoteFrom, if_pos marked] at demotes
    rcases Option.map_eq_some_iff.mp demotes with ⟨inner, demotesTail, rfl⟩
    obtain rfl : input = inner ++ ')' :: after := (List.cons.inj equal).2
    have markedToo : (inner ++ ')' :: after).head? = some '?' := by
      rw [← Fragment.demoteFrom_head demotesTail] at marked
      rw [List.head?_append, marked]
      rfl
    have plain := contained.1
    rw [← Fragment.leadsPlainly_demoted demotesTail after] at plain
    rcases opens.takesLead inGroup.quiet markedToo plain with
      ⟨part, opened, equal, lead, groups, quiet, repeats⟩
    rcases Fragment.exists_lead_append lead demotesTail equal with
      ⟨left, demotedLeft, rfl, demotesLeft, rfl⟩
    rcases inGroup.of_part (Fragment.isSelfContained_lead lead contained.2) demotesLeft repeats
      groups quiet ran with ⟨last, form, nextInGroup⟩
    exact ⟨last, left, form, nextInGroup⟩
  · simp only [demoteFrom, if_neg marked] at demotes
    rcases Option.map_eq_some_iff.mp demotes with ⟨inner, demotesTail, rfl⟩
    obtain rfl : input = '?' :: ':' :: (inner ++ ')' :: after) := (List.cons.inj equal).2
    have verbose : alone.verbose = false :=
      (ParserState.verbose_of_plain inGroup.same).trans inGroup.quiet.verbose
    rcases opens.of_mark with ⟨rfl, rfl⟩
    refine ⟨_, tail, .opens (by rw [verbose, skip_false]) (.capture marked), ?_⟩
    rcases inGroup.groups with ⟨before, equal, count⟩
    refine ⟨?_, inGroup.quiet.openGroup _ _ _ inGroup.quiet.verbose, contained.2,
      ⟨inner, demotesTail, rfl⟩, _ :: before, congrArg (_ :: ·) equal, congrArg (· + 1) count⟩
    exact ParserState.plain_openGroup inGroup.same (by rfl)
      (verbose.trans inGroup.quiet.verbose.symm) _ _ _ _

theorem closeGroup {tail rest : List Char}
    (inGroup : InGroup names around after alone (')' :: tail) inside (')' :: rest))
    (closed : Regex.closeGroup inside (')' :: rest) rest = .ok next) :
    ∃ last left, StepForm alone (')' :: tail) last left ∧
      InGroup names around after last left next rest := by
  rcases inGroup.demotes with ⟨demoted, demotes, input⟩
  rcases inGroup.groups with ⟨before, equal, count⟩
  cases aloneGroups : alone.groups with
  | nil =>
      rw [aloneGroups] at demotes
      cases demotes
  | cons group others =>
      rw [aloneGroups] at demotes count
      rcases Option.map_eq_some_iff.mp demotes with ⟨inner, demotesTail, rfl⟩
      cases (List.cons.inj input).2
      rcases ParserState.plain_closeGroup inGroup.same closed (')' :: tail) tail with
        ⟨moved, closedWithin, same⟩
      rcases closeGroup_within names around (by simp [aloneGroups]) closedWithin with
        ⟨last, closedAlone, rfl⟩
      rcases quiet_closeGroup inGroup.quiet closed with ⟨quiet, closing, groups⟩
      have equalNext : next.groups = before.tail ++ around := by
        rw [equal] at groups
        cases before with
        | nil => cases count
        | cons first opened => exact (List.cons.inj groups).2.symm
      have countNext := length_groups_of_plain same equalNext
      have contained := inGroup.contained
      rw [Fragment.isSelfContained_closing] at contained
      refine ⟨last, tail, .closes closedAlone, same, quiet, contained, ⟨inner, ?_, rfl⟩, _,
        equalNext, countNext⟩
      rw [← countNext, List.length_tail, count]
      exact demotesTail

theorem bracketed {tail input rest : List Char} {item : Tree}
    (inGroup : InGroup names around after alone ('[' :: tail) inside ('[' :: input))
    (form : ClassForm false ('[' :: input) item rest) (ran : run (inside.push item) rest = .ok tree)
    (inert : ∀ letter ∈ item.letters, isInert letter) :
    ∃ last left, StepForm alone ('[' :: tail) last left ∧
      InGroup names around after last left (inside.push item) rest := by
  rcases inGroup.demotes with ⟨demoted, demotes, equal⟩
  rcases Fragment.exists_contained_class inGroup.contained with
    ⟨part, left, rfl, contained, demotesClass, ends⟩
  rw [← List.cons_append, demotesClass] at demotes
  rcases Option.map_eq_some_iff.mp demotes with ⟨inner, demotesLeft, rfl⟩
  rw [List.cons_append, List.cons_append, List.append_assoc] at equal
  cases equal
  cases ends form inert
  rcases form.takesPart inGroup.quiet.verbose with ⟨again, taken⟩
  cases List.append_cancel_right (List.cons.inj taken.equal).2
  rcases inGroup.of_part contained demotesLeft taken.repeats ⟨[], taken.groups, rfl⟩
    (taken.quiet inGroup.quiet) ran with ⟨last, movedForm, nextInGroup⟩
  exact ⟨last, left, movedForm, nextInGroup⟩

theorem takesRun {fragment input rest part : List Char}
    (inGroup : InGroup names around after alone fragment inside input) (isRun : IsRun part)
    (taken : TakesPart inside input next rest part) (ran : run next rest = .ok tree) :
    ∃ last left, StepForm alone fragment last left ∧
      InGroup names around after last left next rest := by
  rcases inGroup.demotes with ⟨demoted, demotes, rfl⟩
  rcases isRun.exists_append inGroup.contained demotes taken.equal with
    ⟨left, demotedLeft, rfl, demotesLeft, rfl⟩
  have contained := inGroup.contained
  rw [isRun.isSelfContained_append] at contained
  rcases inGroup.of_part contained demotesLeft taken.repeats
    ⟨[], taken.groups, rfl⟩ (taken.quiet inGroup.quiet) ran with ⟨last, form, nextInGroup⟩
  exact ⟨last, left, form, nextInGroup⟩

theorem marked {fragment tail : List Char}
    (inGroup : InGroup names around after alone fragment inside ('(' :: tail)) :
    tail.head? = some '?' := by
  rcases inGroup.demotes with ⟨demoted, demotes, equal⟩
  cases demoted with
  | nil => exact absurd (List.cons.inj equal).1 (by decide)
  | cons first others =>
      rw [List.cons_append] at equal
      rcases List.cons.inj equal with ⟨rfl, rfl⟩
      rw [List.head?_append, marked_of_demoteFrom demotes]
      rfl

theorem head?_eq {mark : Char} {tail input : List Char}
    (inGroup : InGroup names around after alone (mark :: tail) inside input) :
    input.head? = some mark := by
  rcases inGroup.demotes with ⟨demoted, demotes, rfl⟩
  rw [List.head?_append, Fragment.demoteFrom_head demotes]
  rfl

theorem step {mark : Char} {tail input rest : List Char}
    (inGroup : InGroup names around after alone (mark :: tail) inside input)
    (part : StepPart inside input next rest) (ran : Regex.run next rest = .ok tree) :
    ∃ last left, StepForm alone (mark :: tail) last left ∧
      InGroup names around after last left next rest := by
  have start := inGroup.head?_eq
  cases part with
  | opens opening =>
      cases start
      exact inGroup.openGroup opening ran
  | closes closed =>
      cases start
      exact inGroup.closeGroup closed
  | bracketed form inert =>
      cases start
      exact inGroup.bracketed form ran inert
  | run isRun taken => exact inGroup.takesRun isRun taken ran

theorem run {fragment input : List Char}
    (inGroup : InGroup names around after alone fragment inside input)
    (ran : Regex.run inside input = .ok tree) (inert : ∀ letter ∈ tree.letters, isInert letter) :
    ∃ body last own, Regex.run alone fragment = .ok body ∧
      Steps inside input last (')' :: after) ∧ last.verbose = false ∧ last.groups = around ∧
        last.names = own ++ inside.names ∧ last.captures = inside.captures + own.length ∧
          ∀ rest, (last.level.tree rest).plain = body.plain := by
  fun_induction Regex.run inside input generalizing alone fragment with
  | case1 state input blank =>
      rcases inGroup.demotes with ⟨demoted, _, rfl⟩
      rw [inGroup.quiet.verbose, skip_false] at blank
      exact absurd blank (by simp)
  | case2 => cases ran
  | case3 => cases ran
  | case4 state input head tail start next rest shorter stepped _ induction =>
      have verbose := (ParserState.verbose_of_plain inGroup.same).trans inGroup.quiet.verbose
      cases fragment with
      | nil =>
          rcases inGroup.demotes with ⟨demoted, demotes, rfl⟩
          rcases inGroup.groups with ⟨opened, equal, count⟩
          rw [demoteFrom] at demotes
          split at demotes
          · next closed =>
              cases demotes
              rw [closed, List.length_eq_zero_iff] at count
              subst count
              refine ⟨alone.level.tree [], state, [],
                run_end verbose (List.length_eq_zero_iff.mp closed), .here _ _,
                inGroup.quiet.verbose, equal, rfl, rfl, fun rest => ?_⟩
              have level : alone.level.plain = state.level.plain :=
                congrArg ParserState.level inGroup.same
              rw [Level.plain_tree, Level.plain_tree, level]
          · cases demotes
      | cons mark others =>
          rw [inGroup.quiet.verbose, skip_false] at start
          subst start
          have mentioned : ∀ letter, next.Mentions letter → isInert letter :=
            fun letter mentions => inert letter (letters_run ran mentions)
          have form := form_of_step stepped
          rcases inGroup.step (form.part inGroup.quiet.verbose mentioned) ran with
            ⟨moved, left, movedForm, nextInGroup⟩
          rcases induction nextInGroup ran with
            ⟨body, last, later, ranAlone, steps, lastVerbose, groups, names, captures, same⟩
          rcases counted_of_moves form.moves inGroup.quiet.verbose
              (fun tail equal => (equal ▸ inGroup).marked) with
            ⟨own, namesNext, capturesNext⟩
          refine ⟨body, last, later ++ own, ?_,
            .step inGroup.quiet.verbose ⟨_, stepped, rfl, rfl⟩ steps, lastVerbose, groups, ?_, ?_,
            same⟩
          · rw [← ranAlone]
            exact run_of_steps (.single verbose (step_of_form movedForm))
          · rw [names, namesNext, List.append_assoc]
          · rw [captures, capturesNext, List.length_append]
            omega

end InGroup

/-! ## Groups -/

def ParserState.behind (state : ParserState) (capture : Tree) (names : List (List Char × Span)) :
    ParserState :=
  { state.push capture with
    captures := state.captures + 1 + names.length
    names := names ++ state.names }

section Groups

variable {state : ParserState} {fragment demoted after : List Char} {tree : Tree}
  (quiet : state.Quiet) (contained : Fragment.isSelfContained fragment)
  (demotes : Fragment.demote fragment = some demoted)
  (inert : ∀ letter ∈ tree.letters, isInert letter)

include quiet contained demotes inert

theorem exists_body {place : Span}
    (ran : run ({ state with captures := state.captures + 1 }.openGroup place
        (.capture (state.captures + 1)) state.verbose (demoted ++ ')' :: after))
      (demoted ++ ')' :: after) = .ok tree) :
    ∃ alone body names, run (.initial fragment) fragment = .ok alone ∧ body.plain = alone.plain ∧
      Steps ({ state with captures := state.captures + 1 }.openGroup place
          (.capture (state.captures + 1)) state.verbose (demoted ++ ')' :: after))
        (demoted ++ ')' :: after)
        (state.behind (.capture ⟨place.start, after.length⟩ (state.captures + 1) body) names)
        after := by
  let opened := { state with captures := state.captures + 1 }.openGroup place
    (.capture (state.captures + 1)) state.verbose (demoted ++ ')' :: after)
  have inGroup : InGroup state.names opened.groups after (.initial fragment) fragment opened
      (demoted ++ ')' :: after) := by
    refine ⟨?_, ⟨quiet.verbose, List.forall_mem_cons.mpr ⟨quiet.verbose, quiet.groups⟩⟩,
      contained, ⟨demoted, demotes, rfl⟩, [], rfl, rfl⟩
    change ParserState.plain _ = { ParserState.plain _ with verbose := state.verbose }
    rw [quiet.verbose]
    rfl
  rcases inGroup.run ran inert with
    ⟨alone, last, own, ranAlone, steps, notVerbose, groups, names, captures, same⟩
  change last.names = own ++ state.names at names
  change last.captures = state.captures + 1 + own.length at captures
  refine ⟨alone, last.level.tree (')' :: after), own, ranAlone, same _, ?_⟩
  have closes := step_close groups after
  rw [names, captures] at closes
  exact steps.trans (.single notVerbose closes)

/-- The group of a self-contained fragment ends where it was written to end, and holds what the
fragment is by itself. -/
theorem exists_group
    (opens : ('(' :: (demoted ++ ')' :: after)).length ∈
      openings state ('(' :: (demoted ++ ')' :: after)))
    (ran : run state ('(' :: (demoted ++ ')' :: after)) = .ok tree) :
    ∃ alone body names, run (.initial fragment) fragment = .ok alone ∧ body.plain = alone.plain ∧
      Steps state ('(' :: (demoted ++ ')' :: after))
        (state.behind (.capture ⟨('(' :: (demoted ++ ')' :: after)).length, after.length⟩
          (state.captures + 1) body) names) after := by
  rcases exists_step_of_run quiet.verbose ran with ⟨⟨next, rest, shorter⟩, found, ranNext⟩
  have start (text : List Char) : skip state.verbose text = text := by
    rw [quiet.verbose, skip_false]
  have captures : next.captures = state.captures + 1 ∧ next.names.length = state.names.length := by
    by_contra other
    rw [openings_of_step (start _) found, if_neg other] at opens
    exact absurd ((openings_le opens).trans_lt shorter) (Nat.lt_irrefl _)
  have opening := opening_of_readGroup found
  rw [start] at opening
  rcases opening.eq_capture captures.1 captures.2 with ⟨opened, left⟩
  change next = _ at opened
  change rest = _ at left
  subst opened left
  rcases exists_body quiet contained demotes inert ranNext with
    ⟨alone, body, names, ranAlone, same, steps⟩
  exact ⟨alone, body, names, ranAlone, same, .step quiet.verbose ⟨_, found, rfl, rfl⟩ steps⟩

end Groups

end UriDispatch.Regex
