import UriDispatch.Proofs.Pattern.FragmentTrees
import UriDispatch.Proofs.Regex.Moves

/-! Reading a fragment within the group that it is written for. The reader goes on as it does in the
fragment alone, step by step, and comes to the parenthesis that closes the group. -/

namespace UriDispatch.Regex

open Fragment (isPlainFrom demoteFrom demoteFrom_head Passes)

/-! ## Steps -/

theorem continues_demoted {depth : Nat} {input demoted after : List Char}
    (demotes : demoteFrom depth .outside input = some demoted) (ends : after.head? ≠ some '?') :
    Continues input (demoted ++ after) := by
  intro mark
  rw [List.head?_append, demoteFrom_head demotes] at mark
  cases start : input.head? with
  | none =>
      rw [start] at mark
      exact absurd mark ends
  | some head =>
      rw [start] at mark
      exact mark

/-- Two readers in step: one in a fragment alone, the other in the same fragment with its groups
kept from capturing, before a text that closes the group around it. -/
structure InStep (base : List OpenGroup) (captures : Nat) (after : List Char)
    (alone : ParserState) (input : List Char) (inside : ParserState) (other : List Char) :
    Prop where
  mirrors : alone.Mirrors base captures inside
  plain : isPlainFrom .outside input
  demotes : ∃ demoted, demoteFrom alone.groups.length .outside input = some demoted ∧
    other = demoted ++ after

theorem Primitive.letters_toTree (primitive : Primitive) :
    primitive.toTree.letters = primitive.letters := by
  cases primitive with
  | literal | dot | assertion | escape | property => rfl

theorem isAssertion_of_singleEscape? {span other : Span} {letter : Char} {kind : Assertion}
    (known : singleEscape? span letter = some (.assertion other kind)) :
    Fragment.isAssertion letter = true := by
  unfold singleEscape? at known
  split at known
  · cases known
  · cases control : controlEscape? letter with
    | some character =>
        rw [control] at known
        cases known
    | none =>
        rw [control] at known
        cases assertion : assertionEscape? letter with
        | some kind =>
            unfold assertionEscape? at assertion
            split at assertion
            · rfl
            · rfl
            · rfl
            · rfl
            · rfl
            · cases assertion
        | none =>
            rw [assertion] at known
            rcases Option.map_eq_some_iff.mp known with ⟨_, _, equal⟩
            cases equal

theorem Escape.not_assertion {verbose : Bool} {backslash letter : Char} {input rest : List Char}
    {primitive : Primitive} (escape : Escape verbose (backslash :: letter :: input) primitive rest)
    (notAssertion : Fragment.isAssertion letter = false) (span : Span) (kind : Assertion) :
    primitive ≠ .assertion span kind := by
  cases escape with
  | codePoint | property => exact fun equal => by cases equal
  | boundary => cases notAssertion
  | single known =>
      rintro rfl
      rw [isAssertion_of_singleEscape? known] at notAssertion
      cases notAssertion

theorem Primitive.strip_toTree (keep : Bool) (primitive : Primitive) :
    primitive.toTree.strip keep = primitive.bare.toTree := by
  cases primitive with
  | literal | dot | assertion | escape | property => rfl

theorem Primitive.mirrors_toTree {primitive other : Primitive}
    (same : other.bare = primitive.bare)
    (condition : ∀ span kind, primitive ≠ .assertion span kind) :
    primitive.toTree.Mirrors other.toTree where
  unconditional := by
    cases primitive with
    | assertion span kind => exact absurd rfl (condition span kind)
    | literal | dot | escape | property => rfl
  same := by
    rw [Tree.bare, Tree.plain, strip_toTree, strip_toTree, same]

namespace InStep

variable {base : List OpenGroup} {captures : Nat} {after : List Char}
  {alone inside : ParserState} {other : List Char}

theorem of_passes {part input rest : List Char}
    (inStep : InStep base captures after alone input inside other)
    (passes : Passes .outside .outside part) (equal : input = part ++ rest) :
    ∃ behind, other = part ++ behind ∧
      (after.head? ≠ some '?' → Continues rest behind) ∧
      ∀ {next nextInside : ParserState}, next.Mirrors base captures nextInside →
        next.groups.length = alone.groups.length →
          InStep base captures after next rest nextInside behind := by
  subst equal
  rcases inStep.demotes with ⟨demoted, demotes, rfl⟩
  rw [passes.demotes] at demotes
  rcases Option.map_eq_some_iff.mp demotes with ⟨demotedRest, demotesRest, rfl⟩
  refine ⟨demotedRest ++ after, List.append_assoc .., continues_demoted demotesRest,
    fun mirrors sameGroups => ⟨mirrors, passes.plain rest inStep.plain, demotedRest, ?_, rfl⟩⟩
  rw [sameGroups]
  exact demotesRest

theorem openGroup {tail rest : List Char} {next : ParserState}
    (inStep : InStep base captures after alone ('(' :: tail) inside other)
    (opening : GroupOpening alone (.head ('(' :: tail)) tail next rest) :
    ∃ nextInside behind, StepForm inside other nextInside behind ∧
      InStep base captures after next rest nextInside behind := by
  have plain := inStep.plain
  rw [isPlainFrom, Bool.and_eq_true, decide_eq_true_eq] at plain
  rcases inStep.demotes with ⟨demoted, demotes, rfl⟩
  simp only [demoteFrom, if_neg plain.1] at demotes
  rcases Option.map_eq_some_iff.mp demotes with ⟨demotedRest, demotesRest, rfl⟩
  rcases opening.unmarked plain.1 with ⟨rfl, rfl⟩
  refine ⟨_, _, .opens (skip_mark _ _) (.mark inside _ _), ?_⟩
  exact ⟨inStep.mirrors.openGroup _ _ _ _ _ _, plain.2, demotedRest, demotesRest, rfl⟩

theorem closeGroup {rest : List Char} {next : ParserState}
    (inStep : InStep base captures after alone (')' :: rest) inside other)
    (closed : Regex.closeGroup alone (')' :: rest) rest = .ok next) :
    ∃ nextInside behind, StepForm inside other nextInside behind ∧
      InStep base captures after next rest nextInside behind := by
  rcases inStep.demotes with ⟨demoted, demotes, rfl⟩
  rcases inStep.mirrors.closeGroup closed (demoted ++ after) (demoted.tail ++ after) with
    ⟨nextInside, closedInside, mirrors, count⟩
  rw [count] at demotes
  change (demoteFrom next.groups.length .outside rest).map (')' :: ·) = some demoted at demotes
  rcases Option.map_eq_some_iff.mp demotes with ⟨demotedRest, demotesRest, rfl⟩
  refine ⟨nextInside, demotedRest ++ after, .closes closedInside, mirrors, inStep.plain,
    demotedRest, demotesRest, rfl⟩

theorem bar {rest : List Char}
    (inStep : InStep base captures after alone ('|' :: rest) inside other) :
    ∃ nextInside behind, StepForm inside other nextInside behind ∧
      InStep base captures after
        { alone with level := alone.level.nextAlternative ('|' :: rest) rest } rest
        nextInside behind := by
  have passes : Passes .outside .outside ['|'] := .outside (inert_cons (by decide) (by simp))
  rcases inStep.of_passes passes rfl with ⟨behind, rfl, _, goOn⟩
  exact ⟨_, behind, .bar, goOn (inStep.mirrors.nextAlternative _ _ _ _) rfl⟩

theorem bracketed {tail rest : List Char} {tree : Tree}
    (inStep : InStep base captures after alone ('[' :: tail) inside other)
    (form : ClassForm false ('[' :: tail) tree rest)
    (letters : ∀ letter ∈ tree.letters, isInert letter) :
    ∃ nextInside behind, StepForm inside other nextInside behind ∧
      InStep base captures after (alone.push tree) rest nextInside behind := by
  rcases Fragment.exists_behindClass
    (show isPlainFrom .classStart tail from inStep.plain) with ⟨left, flat⟩
  rcases form.append with ⟨taken, rfl, flatly, again⟩
  rcases inStep.of_passes (flatly left flat letters).2 rfl with ⟨behind, rfl, _, goOn⟩
  rcases again behind with ⟨moved, same, movedForm⟩
  refine ⟨inside.push moved, behind, .bracketed ?_, goOn (inStep.mirrors.push ?_) rfl⟩
  · rw [inStep.mirrors.verbose.2]
    exact movedForm
  · rcases form.bracketed with ⟨span, negated, body, rfl⟩
    exact ⟨rfl, same⟩

theorem operates {input part rest : List Char} {next : ParserState} {count : Count}
    {greedy : Bool} (inStep : InStep base captures after alone input inside other)
    (operates : Operates alone input next rest part count greedy) (ends : after.head? ≠ some '?') :
    ∃ nextInside behind, StepForm inside other nextInside behind ∧
      InStep base captures after next rest nextInside behind := by
  rcases inStep.of_passes (.outside operates.inert) operates.equal with
    ⟨behind, rfl, continues, goOn⟩
  rcases inStep.mirrors.repeatOperand operates.repeated (part ++ behind) behind with
    ⟨nextInside, repeatedInside, mirrors, sameGroups⟩
  exact ⟨nextInside, behind,
    operates.again inStep.mirrors.verbose.2 (continues ends) repeatedInside,
    goOn mirrors (congrArg List.length sameGroups)⟩

theorem push_primitive {mark : Char} {input part rest : List Char} {primitive : Primitive}
    (inStep : InStep base captures after alone input inside other) (isOther : mark ∉ stepMarks)
    (passes : Passes .outside .outside (mark :: part)) (equal : input = mark :: part ++ rest)
    (condition : ∀ span kind, primitive ≠ .assertion span kind)
    (again : ∀ behind, ∃ moved, moved.bare = primitive.bare ∧
      Single false (mark :: (part ++ behind)) moved behind) :
    ∃ nextInside behind, StepForm inside other nextInside behind ∧
      InStep base captures after (alone.push primitive.toTree) rest nextInside behind := by
  rcases inStep.of_passes passes equal with ⟨behind, rfl, _, goOn⟩
  rcases again behind with ⟨moved, same, single⟩
  rw [← inStep.mirrors.verbose.2] at single
  exact ⟨inside.push moved.toTree, behind, .single isOther single,
    goOn (inStep.mirrors.push (Primitive.mirrors_toTree same condition)) rfl⟩

theorem escape {letter : Char} {tail rest : List Char} {primitive : Primitive}
    (inStep : InStep base captures after alone ('\\' :: letter :: tail) inside other)
    (escape : Escape false ('\\' :: letter :: tail) primitive rest)
    (letters : ∀ letter ∈ primitive.letters, isInert letter) :
    ∃ nextInside behind, StepForm inside other nextInside behind ∧
      InStep base captures after (alone.push primitive.toTree) rest nextInside behind := by
  have plain := inStep.plain
  rw [Fragment.isPlainFrom_escape, Bool.and_eq_true, Bool.not_eq_true'] at plain
  have notBoundary : letter ≠ 'b' := by
    rintro rfl
    cases plain.1
  rcases escape.append notBoundary with ⟨taken, equal, allInert, again⟩
  have passes : Passes .outside .outside ('\\' :: letter :: taken) :=
    (Passes.escape .outside letter).append (.outside (allInert letters))
  refine inStep.push_primitive (by decide) passes (congrArg ('\\' :: letter :: ·) equal)
    (escape.not_assertion plain.1) fun behind => ?_
  rcases again behind with ⟨moved, same, read⟩
  exact ⟨moved, same, .escape read⟩

theorem single {mark : Char} {tail rest : List Char} {primitive : Primitive}
    (inStep : InStep base captures after alone (mark :: tail) inside other)
    (isOther : mark ∉ stepMarks) (single : Single false (mark :: tail) primitive rest)
    (letters : ∀ letter ∈ primitive.letters, isInert letter) :
    ∃ nextInside behind, StepForm inside other nextInside behind ∧
      InStep base captures after (alone.push primitive.toTree) rest nextInside behind := by
  by_cases backslash : mark = '\\'
  · subst backslash
    cases single with
    | escape escape =>
        rcases escape.shape with ⟨letter, input, rfl⟩
        exact inStep.escape escape letters
    | literal isOther => exact absurd isOther (by decide)
  · have ordinary : Fragment.isOrdinary mark := by
      simp only [List.mem_cons, List.not_mem_nil, or_false, not_or] at isOther
      simp [Fragment.isOrdinary, backslash, isOther]
    have plain := inStep.plain
    simp only [Fragment.isPlainFrom_outside ordinary, Bool.and_eq_true, decide_eq_true_eq]
      at plain
    have condition (span : Span) (kind : Assertion) : primitive ≠ .assertion span kind := by
      rintro rfl
      cases single with
      | escape => exact backslash rfl
      | lineStart => exact absurd rfl plain.1.1
      | lineEnd => exact absurd rfl plain.1.2
    rcases single.append backslash with ⟨rfl, again⟩
    exact inStep.push_primitive isOther (.single ordinary) rfl condition again

theorem step {input rest : List Char} {next : ParserState}
    (inStep : InStep base captures after alone input inside other) (ends : after.head? ≠ some '?')
    (form : StepForm alone input next rest)
    (inert : ∀ letter, next.Mentions letter → isInert letter) :
    ∃ nextInside behind, StepForm inside other nextInside behind ∧
      InStep base captures after next rest nextInside behind := by
  have notVerbose := inStep.mirrors.verbose.1
  cases form with
  | opens shape opening =>
      rw [notVerbose, skip_false] at shape
      subst shape
      exact inStep.openGroup opening
  | closes closed => exact inStep.closeGroup closed
  | bar => exact inStep.bar
  | bracketed form =>
      rw [notVerbose] at form
      exact inStep.bracketed form fun letter member =>
        inert letter (.inl (Level.mentions_push member))
  | repeats isMark repetition =>
      rcases repetition.operates isMark with ⟨part, greedy, operates⟩
      exact inStep.operates operates ends
  | counted counted =>
      rcases counted.operates notVerbose with ⟨part, count, greedy, operates⟩
      exact inStep.operates operates ends
  | single isOther single =>
      rw [notVerbose] at single
      refine inStep.single isOther single fun letter member =>
        inert letter (.inl (Level.mentions_push ?_))
      rwa [Primitive.letters_toTree]

end InStep

/-! ## Runs -/

theorem exists_step_of_run {state : ParserState} {head : Char} {tail : List Char} {tree : Tree}
    (notVerbose : state.verbose = false) (ran : run state (head :: tail) = .ok tree) :
    ∃ reading, step state (head :: tail) = .ok reading ∧
      run reading.value reading.rest = .ok tree := by
  rw [run] at ran
  split at ran
  · next equal =>
      rw [notVerbose] at equal
      cases equal
  · next equal =>
      rw [notVerbose] at equal
      cases equal
      split at ran
      · cases ran
      · next found => exact ⟨_, found, ran⟩

inductive Steps : ParserState → List Char → ParserState → List Char → Prop where
  | here (state : ParserState) (input : List Char) : Steps state input state input
  | step {state next last : ParserState} {head : Char} {tail rest left : List Char}
      (notVerbose : state.verbose = false)
      (reads : Reads (Regex.step state (head :: tail)) next rest)
      (steps : Steps next rest last left) : Steps state (head :: tail) last left

theorem Steps.trans {first second third : ParserState} {start middle last : List Char}
    (before : Steps first start second middle) (after : Steps second middle third last) :
    Steps first start third last := by
  induction before with
  | here => exact after
  | step notVerbose reads _ induction => exact .step notVerbose reads (induction after)

theorem run_of_steps {state next : ParserState} {input rest : List Char}
    (steps : Steps state input next rest) : run state input = run next rest := by
  induction steps with
  | here => rfl
  | step notVerbose reads _ induction =>
      rcases reads with ⟨⟨_, _, shorter⟩, found, rfl, rfl⟩
      rw [← induction, run]
      split
      · next equal =>
          rw [notVerbose] at equal
          cases equal
      · next equal =>
          rw [notVerbose] at equal
          cases equal
          simp only [found]

/-- If a fragment alone can be read to its end, the same fragment is read inside of its group. -/
theorem InStep.run {base : List OpenGroup} {captures : Nat} {after : List Char}
    {alone inside : ParserState} {input other : List Char} {tree : Tree}
    (inStep : InStep base captures after alone input inside other) (ends : after.head? ≠ some '?')
    (ran : Regex.run alone input = .ok tree) (inert : ∀ letter ∈ tree.letters, isInert letter) :
    ∃ last, Steps inside other last after ∧ last.verbose = false ∧ last.captures = captures ∧
      last.groups = base ∧ ∀ rest, tree.Mirrors (last.level.tree rest) := by
  fun_induction Regex.run alone input generalizing inside other with
  | case1 state input blank noGroups =>
      cases ran
      rw [inStep.mirrors.verbose.1, skip_false] at blank
      subst blank
      rcases inStep.demotes with ⟨demoted, demotes, rfl⟩
      rw [noGroups, List.length_nil, demoteFrom, if_pos rfl] at demotes
      cases demotes
      rcases inStep.mirrors.groups with ⟨opened, equal, alike⟩
      rw [noGroups] at alike
      cases alike
      exact ⟨inside, .here _ _, inStep.mirrors.verbose.2, inStep.mirrors.captures, equal,
        fun rest => inStep.mirrors.level.tree [] rest⟩
  | case2 => cases ran
  | case3 => cases ran
  | case4 state input head tail start next rest shorter stepped _ induction =>
      rw [inStep.mirrors.verbose.1, skip_false] at start
      subst start
      have mentioned : ∀ letter, next.Mentions letter → isInert letter :=
        fun letter mentions => inert letter (letters_run ran mentions)
      rcases inStep.step ends (form_of_step stepped) mentioned with
        ⟨nextInside, behind, form, nextInStep⟩
      have reads := step_of_form form
      rcases induction nextInStep ran with ⟨last, steps, result⟩
      refine ⟨last, ?_, result⟩
      cases other with
      | nil =>
          rcases reads with ⟨reading, _⟩
          exact absurd reading.shorter (Nat.not_lt_zero _)
      | cons first others => exact .step inStep.mirrors.verbose.2 reads steps

end UriDispatch.Regex
