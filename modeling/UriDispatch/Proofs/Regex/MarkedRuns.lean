import UriDispatch.Proofs.Pattern.FragmentSteps
import UriDispatch.Proofs.Regex.MarkedClasses

/-! Runs over texts with marks. Where each mark follows a parenthesis that opens a capture without a
name, a reader goes through the marked text as it does through the other one, but for the captures:
it reads the same tree with plain groups in their place. -/

namespace UriDispatch.Regex

variable {allowed : Place → Prop} {input marked : List Char}

/-! ## States without captures -/

def Level.plain (level : Level) : Level :=
  ⟨0, 0, level.alternatives.map Tree.plain, level.items.map Tree.plain⟩

def GroupKind.changes : GroupKind → FlagChanges
  | .capture _ => []
  | .plain changes => changes

def OpenGroup.plain (group : OpenGroup) : OpenGroup :=
  ⟨.nowhere, .plain group.kind.changes, group.outerVerbose, group.outer.plain⟩

def ParserState.plain (state : ParserState) : ParserState where
  verbose := state.verbose
  captures := 0
  names := state.names.map fun (name, _) => (name, .nowhere)
  level := state.level.plain
  groups := state.groups.map OpenGroup.plain

theorem GroupKind.plain_tree (kind : GroupKind) (span : Span) (body : Tree) :
    (kind.tree span body).plain = .group .nowhere kind.changes body.plain := by
  cases kind with
  | capture => rw [GroupKind.tree, Tree.plain, Tree.strip, if_neg Bool.false_ne_true]; rfl
  | plain => rfl

namespace Level

theorem plain_alternative (level : Level) (rest : List Char) :
    (level.alternative rest).plain = level.plain.alternative [] :=
  Tree.strip_ofSequence false _ level.items

theorem plain_nextAlternative (level : Level) (bar afterBar : List Char) :
    (level.nextAlternative bar afterBar).plain = level.plain.nextAlternative [] [] := by
  simp only [plain, nextAlternative, List.map_cons, List.map_nil, plain_alternative]
  rfl

theorem plain_tree (level : Level) (rest : List Char) :
    (level.tree rest).plain = level.plain.tree [] := by
  have last := level.plain_alternative rest
  rw [Tree.plain] at last
  rw [tree, Tree.plain, Tree.strip_ofAlternatives, last]
  rfl

end Level

namespace ParserState

variable {state other : ParserState}

theorem verbose_of_plain (same : other.plain = state.plain) : other.verbose = state.verbose := by
  have equal : other.plain.verbose = state.plain.verbose := congrArg verbose same
  exact equal

theorem names_of_plain (same : other.plain = state.plain) :
    other.names.map Prod.fst = state.names.map Prod.fst := by
  have equal : other.plain.names.map Prod.fst = state.plain.names.map Prod.fst :=
    congrArg (·.names.map Prod.fst) same
  rwa [plain, plain, List.map_map, List.map_map] at equal

theorem plain_push (same : other.plain = state.plain) {item moved : Tree}
    (sameItem : moved.plain = item.plain) : (other.push moved).plain = (state.push item).plain := by
  change other.plain.push moved.plain = state.plain.push item.plain
  rw [same, sameItem]

theorem plain_setVerbose (same : other.plain = state.plain) {verbose otherVerbose : Bool}
    (sameVerbose : otherVerbose = verbose) :
    { other with verbose := otherVerbose }.plain = { state with verbose }.plain := by
  rw [sameVerbose]
  exact congrArg (fun left : ParserState => { left with verbose }) same

theorem plain_nextAlternative (same : other.plain = state.plain)
    (bar afterBar otherBar otherAfter : List Char) :
    { other with level := other.level.nextAlternative otherBar otherAfter }.plain =
      { state with level := state.level.nextAlternative bar afterBar }.plain := by
  simp only [plain, Level.plain_nextAlternative]
  exact congrArg (fun left : ParserState =>
    { left with level := left.level.nextAlternative [] [] }) same

theorem plain_named (same : other.plain = state.plain) {name otherName : List Char × Span}
    (sameName : otherName.1 = name.1) (count otherCount : Nat) :
    { other with captures := otherCount, names := otherName :: other.names }.plain =
      { state with captures := count, names := name :: state.names }.plain := by
  simp only [plain, List.map_cons, sameName]
  exact congrArg (fun left : ParserState =>
    { left with names := (name.1, .nowhere) :: left.names }) same

theorem plain_openGroup (same : other.plain = state.plain) {kind otherKind : GroupKind}
    (sameChanges : otherKind.changes = kind.changes) {verbose otherVerbose : Bool}
    (sameVerbose : otherVerbose = verbose) (span otherSpan : Span) (body otherBody : List Char) :
    (other.openGroup otherSpan otherKind otherVerbose otherBody).plain =
      (state.openGroup span kind verbose body).plain := by
  change other.plain.openGroup .nowhere (.plain otherKind.changes) otherVerbose [] =
    state.plain.openGroup .nowhere (.plain kind.changes) verbose []
  rw [same, sameChanges, sameVerbose]

theorem plain_leaving (state : ParserState) (group : OpenGroup) (others : List OpenGroup)
    (tree : Tree) :
    { state with
        verbose := group.outerVerbose
        level := group.outer.push tree
        groups := others }.plain =
      { state.plain with
        verbose := group.plain.outerVerbose
        level := group.plain.outer.push tree.plain
        groups := others.map OpenGroup.plain } :=
  rfl

theorem plain_closeGroup (same : other.plain = state.plain) {next : ParserState}
    {input rest : List Char} (closed : closeGroup state input rest = .ok next)
    (otherInput otherRest : List Char) :
    ∃ last, closeGroup other otherInput otherRest = .ok last ∧ last.plain = next.plain := by
  have groups : other.groups.map OpenGroup.plain = state.groups.map OpenGroup.plain :=
    congrArg ParserState.groups same
  have level : other.level.plain = state.level.plain := congrArg ParserState.level same
  unfold closeGroup at closed ⊢
  split at closed
  · cases closed
  · next group others equal =>
      cases closed
      rw [equal] at groups
      rcases List.map_eq_cons_iff.mp groups with ⟨inner, left, otherEqual, sameGroup, sameLeft⟩
      have changes : GroupKind.plain inner.kind.changes = .plain group.kind.changes :=
        congrArg OpenGroup.kind sameGroup
      have tree (span otherSpan : Span) :
          (inner.kind.tree otherSpan (other.level.tree otherInput)).plain =
            (group.kind.tree span (state.level.tree input)).plain := by
        rw [GroupKind.plain_tree, GroupKind.plain_tree, GroupKind.plain.inj changes,
          Level.plain_tree, Level.plain_tree, level]
      rw [otherEqual]
      refine ⟨_, rfl, ?_⟩
      rw [plain_leaving, plain_leaving, same, sameGroup, sameLeft, tree]

theorem plain_repeatOperand (same : other.plain = state.plain) {next : ParserState}
    {input rest : List Char} {count : Count} {greedy : Bool}
    (repeated : repeatOperand state input rest count greedy = .ok next)
    (otherInput otherRest : List Char) :
    ∃ last, repeatOperand other otherInput otherRest count greedy = .ok last ∧
      last.plain = next.plain := by
  rcases ok_of_map repeated with ⟨⟨operand, left⟩, taken, rfl⟩
  rcases takeOperand_cases taken with ⟨others, equal, isOperand, rfl⟩
  have level : other.level.plain = state.level.plain := congrArg ParserState.level same
  have items : other.level.items.map Tree.plain = state.level.items.map Tree.plain :=
    congrArg Level.items level
  rw [equal] at items
  rcases List.map_eq_cons_iff.mp items with ⟨item, rest, otherEqual, sameItem, sameRest⟩
  have itemOperand : item.isOperand := by
    rw [← Tree.isOperand_strip false, ← Tree.plain, sameItem, Tree.plain, Tree.isOperand_strip]
    exact isOperand
  rw [repeatOperand, takeOperand_of otherEqual itemOperand]
  refine ⟨_, rfl, plain_push ?_ ?_⟩
  · change { other.plain with level := { other.level.plain with items := rest.map Tree.plain } } =
      { state.plain with level := { state.level.plain with items := others.map Tree.plain } }
    rw [same, sameRest, level]
  · exact congrArg (Tree.repetition .nowhere count.least count.most greedy) sameItem

end ParserState

/-! ## Names and flags -/

theorem stripLead?_marks {lead : String} (plain : '(' ∉ lead.toList)
    (marks : Marks allowed input marked) :
    Option.Rel (Marks allowed) (stripLead? lead input) (stripLead? lead marked) := by
  unfold stripLead?
  split
  · next leads =>
      rcases List.isPrefixOf_iff_prefix.mp leads with ⟨rest, rfl⟩
      rcases marks.drop_of_not_mem plain with ⟨behind, rfl, restMarks⟩
      rw [if_pos (List.isPrefixOf_iff_prefix.mpr (List.prefix_append _ _)), String.length,
        List.drop_left, List.drop_left]
      exact .some restMarks
  · next leadsNot =>
      rw [if_neg]
      · exact .none
      · intro leads
        rcases List.isPrefixOf_iff_prefix.mp leads with ⟨behind, rfl⟩
        rcases marks.of_not_mem plain with ⟨rest, rfl, _⟩
        exact leadsNot (List.isPrefixOf_iff_prefix.mpr (List.prefix_append _ _))

theorem rel_or {Value Other : Type} {related : Value → Other → Prop} {first second : Option Value}
    {left right : Option Other} (firsts : Option.Rel related first left)
    (seconds : Option.Rel related second right) :
    Option.Rel related (first.or second) (left.or right) := by
  cases firsts with
  | some same => exact .some same
  | none => exact seconds

theorem lookAround?_marks (marks : Marks allowed input marked)
    (noLook : lookAround? input = none) : lookAround? marked = none := by
  have leads (lead : String) (plain : '(' ∉ lead.toList) := stripLead?_marks plain marks
  have rel : Option.Rel (Marks allowed) (lookAround? input) (lookAround? marked) := by
    unfold lookAround?
    simp only [HOrElse.hOrElse, OrElse.orElse, Option.orElse_eq_or]
    exact rel_or (leads _ (by decide)) (rel_or (leads _ (by decide)) (rel_or (leads _ (by decide))
      (leads _ (by decide))))
  rw [noLook] at rel
  generalize lookAround? marked = found at rel ⊢
  cases rel
  rfl

theorem nameLead_marks (marks : Marks allowed input marked) :
    Option.Rel (Marks allowed) ((stripLead? "?P<" input).or (stripLead? "?<" input))
      ((stripLead? "?P<" marked).or (stripLead? "?<" marked)) :=
  rel_or (stripLead?_marks (by decide) marks) (stripLead?_marks (by decide) marks)

theorem nameLead_none (marks : Marks allowed input marked)
    (noLead : (stripLead? "?P<" input).or (stripLead? "?<" input) = none) :
    (stripLead? "?P<" marked).or (stripLead? "?<" marked) = none := by
  have rel := nameLead_marks marks
  rw [noLead] at rel
  generalize (stripLead? "?P<" marked).or (stripLead? "?<" marked) = found at rel ⊢
  cases rel
  rfl

theorem find?_none_of_keys {Key Value : Type} [DecidableEq Key]
    {entries others : List (Key × Value)} (same : others.map Prod.fst = entries.map Prod.fst)
    {key : Key} (new : entries.find? (·.1 = key) = none) : others.find? (·.1 = key) = none := by
  rw [List.find?_eq_none] at new ⊢
  intro entry member
  rcases List.mem_map.mp (same ▸ List.mem_map_of_mem (f := Prod.fst) member) with
    ⟨other, otherMember, sameKey⟩
  rw [← sameKey]
  exact new other otherMember

def FlagList.bare (list : FlagList) : FlagList where
  flags := list.flags.map fun (flag, value, _) => (flag, value, .nowhere)
  negation := list.negation.map fun _ => .nowhere
  dangling := list.dangling

namespace FlagList

variable {list moved : FlagList}

theorem changes_of_bare (same : moved.bare = list.bare) : moved.changes = list.changes := by
  have pairs (any : FlagList) : any.changes = any.bare.changes := by
    simp only [changes, bare, ← List.map_reverse, List.map_map]
    rfl
  rw [pairs, same, ← pairs]

theorem isEmpty_of_bare (same : moved.bare = list.bare) : moved.isEmpty = list.isEmpty := by
  have empty (any : FlagList) : any.isEmpty = any.bare.isEmpty := by
    simp only [isEmpty, bare, List.isEmpty_map, Option.isNone_map]
  rw [empty, same, ← empty]

theorem negation_of_bare (same : moved.bare = list.bare) :
    moved.negation.isNone = list.negation.isNone := by
  have equal := congrArg (·.negation.isNone) same
  simpa only [bare, Option.isNone_map] using equal

theorem negation_none_of_bare (same : moved.bare = list.bare)
    (single : list.negation = none) : moved.negation = none := by
  have alike := negation_of_bare same
  rwa [single, Option.isNone_none, Option.isNone_iff_eq_none] at alike

theorem dangling_of_bare (same : moved.bare = list.bare) : moved.dangling = list.dangling := by
  have equal := congrArg (·.dangling) same
  exact equal

theorem flags_of_bare (same : moved.bare = list.bare) :
    moved.flags.map Prod.fst = list.flags.map Prod.fst := by
  have equal := congrArg (·.flags.map Prod.fst) same
  rwa [bare, bare, List.map_map, List.map_map] at equal

theorem bare_negate (same : moved.bare = list.bare) (span otherSpan : Span) :
    { moved with negation := some otherSpan, dangling := true }.bare =
      { list with negation := some span, dangling := true }.bare :=
  congrArg (fun left : FlagList => { left with negation := some .nowhere, dangling := true }) same

theorem bare_push (same : moved.bare = list.bare) (flag : Flag) (span otherSpan : Span) :
    { moved with
        flags := (flag, moved.negation.isNone, otherSpan) :: moved.flags
        dangling := false }.bare =
      { list with
        flags := (flag, list.negation.isNone, span) :: list.flags
        dangling := false }.bare := by
  rw [negation_of_bare same]
  exact congrArg (fun left : FlagList => { left with
    flags := (flag, list.negation.isNone, .nowhere) :: left.flags
    dangling := false }) same

end FlagList

theorem FlagRun.marks {list moved result : FlagList} {rest : List Char}
    (run : FlagRun list input result rest) (marks : Marks allowed input marked)
    (same : moved.bare = list.bare) :
    ∃ again behind, FlagRun moved marked again behind ∧ again.bare = result.bare ∧
      Marks allowed rest behind := by
  induction run generalizing marked moved with
  | @closing list mark tail ends complete =>
      have plain : mark ≠ '(' := by rcases ends with rfl | rfl <;> decide
      rcases marks.uncons plain with ⟨others, rfl, _⟩
      refine ⟨moved, mark :: others, .closing ends fun dangling => ?_, same, marks⟩
      exact FlagList.negation_none_of_bare same
        (complete ((FlagList.dangling_of_bare same).symm.trans dangling))
  | @negation _ _ tail _ single _ induction =>
      rcases marks.uncons (by decide) with ⟨others, rfl, tailMarks⟩
      rcases induction tailMarks
          (FlagList.bare_negate same (.head ('-' :: tail)) (.head ('-' :: others))) with
        ⟨again, behind, runMarked, alike⟩
      exact ⟨again, behind, .negation (FlagList.negation_none_of_bare same single) runMarked, alike⟩
  | @flag _ _ letter flag tail _ known new _ induction =>
      have plain : letter ≠ '(' := by
        rintro rfl
        cases known
      rcases marks.uncons plain with ⟨others, rfl, tailMarks⟩
      rcases induction tailMarks
          (FlagList.bare_push same flag (.head (letter :: tail)) (.head (letter :: others))) with
        ⟨again, behind, runMarked, alike⟩
      have newToo := find?_none_of_keys (FlagList.flags_of_bare same) new
      exact ⟨again, behind, .flag known newToo runMarked, alike⟩

section Bounded

variable {bound : Nat} (after : ∀ place, allowed place → place ≤ bound)

include after

theorem Spelling.marks {before letters rest : List Char}
    (read : Spelling before input letters rest) (marks : Marks allowed input marked)
    (fits : bound ≤ rest.length) :
    ∃ behind, Spelling before marked letters behind ∧ Marks allowed rest behind := by
  induction read generalizing marked with
  | closing =>
      rcases marks.uncons (by decide) with ⟨others, rfl, restMarks⟩
      exact ⟨others, .closing, restMarks⟩
  | more goesOn isAllowed read induction =>
      rcases marks.uncons_before after (fits.trans read.suffix.length_le) with
        ⟨others, rfl, tailMarks⟩
      rcases induction tailMarks fits with ⟨behind, readMarked, behindMarks⟩
      exact ⟨behind, .more goesOn isAllowed readMarked, behindMarks⟩

theorem GroupName.marks {names others : List (List Char × Span)} {name : List Char × Span}
    {rest : List Char} (isName : GroupName names input name rest)
    (marks : Marks allowed input marked) (fits : bound ≤ rest.length)
    (same : others.map Prod.fst = names.map Prod.fst) :
    ∃ moved behind, GroupName others marked moved behind ∧ moved.1 = name.1 ∧
      Marks allowed rest behind := by
  cases isName with
  | intro read nonempty new =>
      rcases read.marks after marks fits with ⟨behind, readMarked, behindMarks⟩
      exact ⟨_, behind, .intro readMarked nonempty (find?_none_of_keys same new), rfl, behindMarks⟩

end Bounded

/-! ## Groups -/

theorem GroupOpening.marks {bound : Nat} (after : ∀ place, allowed place → place ≤ bound)
    {state other next : ParserState} {opening : Span} {left : List Char}
    (opens : GroupOpening state opening input next left) (marks : Marks allowed input marked)
    (same : other.plain = state.plain) (fits : bound ≤ left.length) (start : Span) :
    ∃ last behind, GroupOpening other start marked last behind ∧ last.plain = next.plain ∧
      Marks allowed left behind := by
  have verbose := ParserState.verbose_of_plain same
  cases opens with
  | named noLook lead isName =>
      have leads := nameLead_marks marks
      rw [lead] at leads
      generalize found : (stripLead? "?P<" marked).or (stripLead? "?<" marked) = start at leads
      cases leads with
      | some nameMarks =>
          rcases isName.marks after nameMarks fits (ParserState.names_of_plain same) with
            ⟨moved, behind, nameMarked, sameName, behindMarks⟩
          refine ⟨_, behind, .named (lookAround?_marks marks noLook) found nameMarked, ?_,
            behindMarks⟩
          exact ParserState.plain_openGroup (ParserState.plain_named same sameName _ _) (by rfl)
            verbose _ _ _ _
  | flags noLook noLead run some =>
      rcases marks.uncons (by decide) with ⟨others, rfl, flagMarks⟩
      rcases run.marks flagMarks rfl with ⟨again, behind, runMarked, alike, behindMarks⟩
      rcases behindMarks.uncons (by decide) with ⟨last, rfl, lastMarks⟩
      have changes := FlagList.changes_of_bare alike
      refine ⟨_, last, .flags (lookAround?_marks marks noLook) (nameLead_none marks noLead)
        runMarked ((FlagList.isEmpty_of_bare alike).trans some), ?_, lastMarks⟩
      refine ParserState.plain_setVerbose (ParserState.plain_push same ?_) ?_
      · rw [changes]
        rfl
      · rw [changes, verbose]
  | plain noLook noLead run opens =>
      rcases marks.uncons (by decide) with ⟨others, rfl, flagMarks⟩
      rcases run.marks flagMarks rfl with ⟨again, behind, runMarked, alike, behindMarks⟩
      rcases behindMarks.uncons_before after fits with ⟨last, rfl, lastMarks⟩
      have changes := FlagList.changes_of_bare alike
      refine ⟨_, last, .plain (lookAround?_marks marks noLook) (nameLead_none marks noLead)
        runMarked opens, ?_, lastMarks⟩
      refine ParserState.plain_openGroup same (by exact changes) ?_ _ _ _ _
      rw [changes, verbose]
  | capture notMark =>
      refine ⟨_, marked, .capture (by rwa [marks.head?]), ?_, marks⟩
      exact ParserState.plain_openGroup (by exact same) (by rfl) verbose _ _ _ _

/-! ## Steps -/

theorem Repetition.marks {state other next : ParserState} {count : Count} {mark : Char}
    {tail rest : List Char} (repetition : Repetition state count (mark :: tail) next rest)
    (notParenthesis : mark ≠ '(') (marks : Marks allowed (mark :: tail) marked)
    (same : other.plain = state.plain) :
    ∃ others last behind, marked = mark :: others ∧
      Repetition other count (mark :: others) last behind ∧ last.plain = next.plain ∧
        Marks allowed rest behind := by
  rcases marks.uncons notParenthesis with ⟨others, rfl, tailMarks⟩
  cases repetition with
  | lazy repeated =>
      rcases tailMarks.uncons (by decide) with ⟨behind, rfl, restMarks⟩
      rcases ParserState.plain_repeatOperand same repeated (mark :: '?' :: behind) behind with
        ⟨last, repeatedToo, samePlain⟩
      exact ⟨_, last, behind, rfl, .lazy repeatedToo, samePlain, restMarks⟩
  | greedy notLazy repeated =>
      rcases ParserState.plain_repeatOperand same repeated (mark :: others) others with
        ⟨last, repeatedToo, samePlain⟩
      exact ⟨others, last, others, rfl, .greedy (by rwa [tailMarks.head?]) repeatedToo, samePlain,
        tailMarks⟩

theorem CountedRepetition.marks {state other next : ParserState} {tail rest : List Char}
    (counted : CountedRepetition state ('{' :: tail) next rest)
    (marks : Marks allowed ('{' :: tail) marked) (same : other.plain = state.plain) :
    ∃ others last behind, marked = '{' :: others ∧
      CountedRepetition other ('{' :: others) last behind ∧ last.plain = next.plain ∧
        Marks allowed rest behind := by
  rcases marks.uncons (by decide) with ⟨others, rfl, tailMarks⟩
  cases counted with
  | intro counts repeated =>
      rcases counts.marks tailMarks with ⟨behind, countsMarked, behindMarks⟩
      rcases ParserState.plain_repeatOperand same repeated ('{' :: others) behind with
        ⟨last, repeatedToo, samePlain⟩
      rw [← ParserState.verbose_of_plain same] at countsMarked
      exact ⟨others, last, behind, rfl, .intro countsMarked repeatedToo, samePlain, behindMarks⟩

theorem StepForm.marks {bound : Nat} (after : ∀ place, allowed place → place ≤ bound)
    {state other next : ParserState} {rest : List Char} (form : StepForm state input next rest)
    (fits : bound ≤ rest.length) (marks : Marks allowed input marked)
    (same : other.plain = state.plain) :
    ∃ last behind, StepForm other marked last behind ∧ last.plain = next.plain ∧
      Marks allowed rest behind := by
  have verbose := ParserState.verbose_of_plain same
  cases form with
  | opens shape opening =>
      have taken := opening.suffix.trans (suffix_of_skip shape)
      rcases marks.uncons_before after (fits.trans taken.length_le) with ⟨others, rfl, tailMarks⟩
      have insideMarks := tailMarks.skip state.verbose
      rw [shape, ← verbose] at insideMarks
      rcases opening.marks after insideMarks same fits (.head ('(' :: others)) with
        ⟨last, behind, opensMarked, alike⟩
      exact ⟨last, behind, .opens rfl opensMarked, alike⟩
  | closes closed =>
      rcases marks.uncons (by decide) with ⟨others, rfl, restMarks⟩
      rcases ParserState.plain_closeGroup same closed (')' :: others) others with
        ⟨last, closedToo, samePlain⟩
      exact ⟨last, others, .closes closedToo, samePlain, restMarks⟩
  | bar =>
      rcases marks.uncons (by decide) with ⟨others, rfl, restMarks⟩
      exact ⟨_, others, .bar, ParserState.plain_nextAlternative same _ _ _ _, restMarks⟩
  | bracketed form =>
      rcases form.marks after marks fits with
        ⟨others, moved, behind, rfl, formMarked, sameTree, behindMarks⟩
      rw [← verbose] at formMarked
      exact ⟨_, behind, .bracketed formMarked, ParserState.plain_push same sameTree, behindMarks⟩
  | @repeats mark _ _ _ _ isMark repetition =>
      have notParenthesis : mark ≠ '(' := by
        rintro rfl
        exact absurd (inert_of_repetitionMark isMark) (by decide)
      rcases repetition.marks notParenthesis marks same with
        ⟨others, last, behind, rfl, repetitionMarked, alike⟩
      exact ⟨last, behind, .repeats isMark repetitionMarked, alike⟩
  | counted counted =>
      rcases counted.marks marks same with ⟨others, last, behind, rfl, countedMarked, alike⟩
      exact ⟨last, behind, .counted countedMarked, alike⟩
  | single isOther single =>
      rcases single.marks after marks fits with ⟨value, behind, singleMarked, sameBare, behindMarks⟩
      rcases List.head?_eq_some_iff.mp marks.head? with ⟨others, rfl⟩
      rw [← verbose] at singleMarked
      refine ⟨_, behind, .single isOther singleMarked, ParserState.plain_push same ?_, behindMarks⟩
      simp only [Tree.plain, Primitive.strip_toTree, sameBare]

/-! ## Runs -/

/-- The places of the parentheses that open a capture without a name, as a run comes to them. -/
def openings (state : ParserState) (input : List Char) : List Place :=
  match equal : skip state.verbose input with
  | [] => []
  | head :: tail =>
      match step state (head :: tail) with
      | .error _ => []
      | .ok ⟨next, rest, shorter⟩ =>
          have : rest.length < input.length :=
            Nat.lt_of_lt_of_le shorter (equal ▸ length_skip_le state.verbose input)
          if next.captures = state.captures + 1 ∧ next.names.length = state.names.length then
            (tail.length + 1) :: openings next rest
          else openings next rest
termination_by input.length

theorem openings_of_step {state next : ParserState} {head : Char} {tail rest : List Char}
    {shorter : rest.length < (head :: tail).length} (start : skip state.verbose input = head :: tail)
    (stepped : step state (head :: tail) = .ok ⟨next, rest, shorter⟩) :
    openings state input =
      if next.captures = state.captures + 1 ∧ next.names.length = state.names.length then
        (tail.length + 1) :: openings next rest
      else openings next rest := by
  rw [openings]
  split
  · next equal => cases start.symm.trans equal
  · next equal =>
      cases start.symm.trans equal
      simp only [stepped]

theorem openings_le {state : ParserState} {place : Place} (opens : place ∈ openings state input) :
    place ≤ input.length := by
  fun_induction openings state input with
  | case1 => cases opens
  | case2 => cases opens
  | case3 state input head tail start next rest shorter _ _ _ induction =>
      have within := length_skip_le state.verbose input
      rw [start] at within
      rcases List.mem_cons.mp opens with rfl | later
      · exact within
      · exact (induction later).trans ((Nat.le_of_lt shorter).trans within)
  | case4 state input head tail start next rest shorter _ _ _ induction =>
      have within := length_skip_le state.verbose input
      rw [start] at within
      exact (induction opens).trans ((Nat.le_of_lt shorter).trans within)

theorem run_of_step {state next : ParserState} {head : Char} {tail rest : List Char}
    (start : skip state.verbose input = head :: tail)
    (reads : Reads (step state (head :: tail)) next rest) : run state input = run next rest := by
  rcases reads with ⟨⟨_, _, _⟩, stepped, rfl, rfl⟩
  rw [run]
  split
  · next equal => cases start.symm.trans equal
  · next equal =>
      cases start.symm.trans equal
      simp only [stepped]

theorem dropBlanks_dropBlanks (inComment : Bool) (input : List Char) :
    dropBlanks false (dropBlanks inComment input) = dropBlanks inComment input := by
  induction input generalizing inComment with
  | nil => rfl
  | cons head tail induction =>
      by_cases comment : inComment
      · rw [dropBlanks, if_pos comment, induction]
      · by_cases blank : Unicode.isBlank head
        · rw [dropBlanks, if_neg comment, if_pos blank, induction]
        · by_cases starts : head = '#'
          · rw [dropBlanks, if_neg comment, if_neg blank, if_pos starts, induction]
          · rw [dropBlanks, if_neg comment, if_neg blank, if_neg starts, dropBlanks,
              if_neg Bool.false_ne_true, if_neg blank, if_neg starts]

theorem skip_skip (verbose : Bool) (input : List Char) :
    skip verbose (skip verbose input) = skip verbose input := by
  cases verbose with
  | false => rfl
  | true => exact dropBlanks_dropBlanks false input

/-- The invariant is that both readers stand at the same place, blanks aside, in states that differ by
their captures only. -/
theorem run_marks {state : ParserState} (other : ParserState)
    (marks : Marks (· ∈ openings state input) (skip state.verbose input)
      (skip state.verbose marked))
    (same : other.plain = state.plain) {tree : Tree} (ran : run state input = .ok tree) :
    ∃ plainly, run other marked = .ok plainly ∧ plainly.plain = tree.plain := by
  fun_induction run state input generalizing marked other with
  | case1 state input blank noGroups =>
      cases ran
      rw [blank] at marks
      have markedBlank := marks.eq_nil
      rw [← ParserState.verbose_of_plain same] at markedBlank
      have groups : other.groups.map OpenGroup.plain = state.groups.map OpenGroup.plain :=
        congrArg ParserState.groups same
      rw [noGroups, List.map_nil, List.map_eq_nil_iff] at groups
      have level : other.level.plain = state.level.plain := congrArg ParserState.level same
      refine ⟨other.level.tree [], ?_, by rw [Level.plain_tree, Level.plain_tree, level]⟩
      rw [run]
      split
      · rw [groups]
      · next equal => cases markedBlank.symm.trans equal
  | case2 => cases ran
  | case3 => cases ran
  | case4 state input head tail start next rest shorter stepped _ induction =>
      have verbose := ParserState.verbose_of_plain same
      have opens := openings_of_step start stepped
      have later (place : Place) (before : place ≤ tail.length)
          (opened : place ∈ openings state input) : place ∈ openings next rest := by
        rw [opens] at opened
        split at opened
        · rcases List.mem_cons.mp opened with rfl | later
          · exact absurd before (Nat.not_succ_le_self _)
          · exact later
        · exact opened
      rw [start] at marks
      generalize startMarked : skip state.verbose marked = shape at marks
      rw [← verbose] at startMarked
      cases marks with
      | cons _ tailMarks =>
          rcases (form_of_step stepped).marks (fun _ => openings_le) (Nat.le_refl _)
              (.cons head (tailMarks.mono later)) same with
            ⟨nextMarked, behind, form, samePlain, behindMarks⟩
          rw [run_of_step startMarked (step_of_form form)]
          exact induction _ (behindMarks.skip next.verbose) samePlain ran
      | @mark _ others isAllowed tailMarks =>
          -- Nothing but this parenthesis is an opening that lies before what the step leaves.
          have opened : next.captures = state.captures + 1 ∧
              next.names.length = state.names.length := by
            by_contra other
            rw [opens, if_neg other] at isAllowed
            exact absurd ((openings_le isAllowed).trans_lt shorter) (Nat.lt_irrefl _)
          rcases (opening_of_readGroup stepped).eq_capture opened.1 opened.2 with ⟨rfl, rfl⟩
          have reads : Reads (step other ('(' :: '?' :: ':' :: others)) _ others :=
            readGroup_plain other others
          rw [run_of_step startMarked reads]
          refine induction _ ?_ (ParserState.plain_openGroup same (by rfl) verbose _ _ _ _) ran
          have behindMarks := (tailMarks.mono later).skip state.verbose
          change Marks _ (skip state.verbose (skip state.verbose tail)) (skip state.verbose others)
          rwa [skip_skip]

theorem meaning_of_run {source : List Char} {tree other : Tree}
    (ran : run (.initial source) source = .ok other) (same : other.plain = tree.plain)
    (shallow : tree.tooDeep? 0 = none) {expression : Expression} {after : Flags}
    (meant : tree.meaning {} = .ok (expression, after)) :
    parse source = .ok other ∧
      ∃ plainly, meaning source = .ok plainly ∧ expression.TakesSame plainly := by
  rcases Tree.meaning_of_plain same meant with ⟨plainly, found, takes⟩
  have shallowToo : other.tooDeep? 0 = none := by
    rw [← Option.isNone_iff_eq_none, ← Option.not_isSome, ← Tree.isSome_tooDeep?_strip false,
      ← Tree.plain, same, Tree.plain, Tree.isSome_tooDeep?_strip, shallow]
    rfl
  have parsed : parse source = .ok other := by
    rw [parse, ran]
    simp only [shallowToo]
  refine ⟨parsed, plainly, ?_, takes⟩
  rw [meaning, parsed]
  simp only [found]
  rfl

theorem tooDeep?_of_parse {source : List Char} {tree : Tree} (parsed : parse source = .ok tree) :
    tree.tooDeep? 0 = none := by
  unfold parse at parsed
  split at parsed
  · cases parsed
  · split at parsed
    · cases parsed
    · next shallow =>
        cases parsed
        exact shallow

/-- A source with marks at its openings is well formed if the source is, and takes the same. -/
theorem meaning_marks {source : List Char}
    (marks : Marks (· ∈ openings (.initial source) source) source marked) {expression : Expression}
    (meant : meaning source = .ok expression) :
    ∃ plainly, meaning marked = .ok plainly ∧ expression.TakesSame plainly := by
  unfold meaning at meant
  split at meant
  · cases meant
  · next tree parsed =>
      rcases ok_of_map meant with ⟨⟨expression, after⟩, found, rfl⟩
      rcases run_marks (.initial marked) marks rfl (run_of_parse parsed) with ⟨other, ran, same⟩
      exact (meaning_of_run ran same (tooDeep?_of_parse parsed) found).2

end UriDispatch.Regex
