import UriDispatch.Proofs.Pattern.GroupLeads

/-! The part of a text that a step of the reader takes. It takes the same part wherever it comes to
it, before other texts and within other groups. -/

namespace UriDispatch.Regex

open Fragment (isOrdinary ordinary_of_inert IsRun IsLead leadsPlainly)

/-- The other text goes on like the rest, as far as a step looks beyond what it takes. -/
structure GoesOn (rest other : List Char) : Prop where
  mark : Continues rest other
  brace : ∀ tail, other = '{' :: tail → ∃ others, rest = '{' :: others ∧ others.head? = tail.head?

/-! ## Word boundaries -/

theorem takeBoundaryName_false (name input : List Char) :
    takeBoundaryName false name input =
      (name.reverse ++ input.takeWhile isBoundaryLetter, input.dropWhile isBoundaryLetter) := by
  induction input generalizing name with
  | nil => simp [takeBoundaryName]
  | cons head tail induction =>
      rw [takeBoundaryName]
      by_cases letter : isBoundaryLetter head
      · rw [if_pos letter, skip_false, induction, List.takeWhile_cons_of_pos letter,
          List.dropWhile_cons_of_pos letter]
        simp
      · rw [if_neg letter, List.takeWhile_cons_of_neg letter, List.dropWhile_cons_of_neg letter,
          List.append_nil]

theorem inert_of_isBoundaryLetter {character : Char} (letter : isBoundaryLetter character) :
    isInert character :=
  inert_of (by decide) letter

theorem Boundary.append {opening rest after : List Char} {primitive : Primitive}
    (boundary : Boundary false opening rest primitive after) :
    ∃ part, rest = part ++ after ∧ (∀ character ∈ part, isInert character) ∧
      ∀ start other, GoesOn after other → ∃ moved, moved.bare = primitive.bare ∧
        Boundary false start (part ++ other) moved other := by
  cases boundary with
  | @named afterBrace tail name _ first kind shape isLetter taken known =>
      rw [skip_false] at shape
      subst shape
      rw [takeBoundaryName_false, List.reverse_nil, List.nil_append, Prod.mk.injEq] at taken
      rcases taken with ⟨isName, left⟩
      have again := span_append left
      have whole := List.takeWhile_append_dropWhile (p := isBoundaryLetter) (l := first :: tail)
      have letters : ∀ letter ∈ name, isInert letter := by
        rw [← isName]
        exact fun letter member => inert_of_isBoundaryLetter (List.mem_takeWhile_imp member)
      rw [left] at whole
      rw [isName] at whole again
      obtain ⟨others, rfl⟩ : ∃ others, name = first :: others := by
        rw [List.takeWhile_cons_of_pos isLetter] at isName
        exact ⟨_, isName.symm⟩
      refine ⟨'{' :: (first :: others ++ ['}']), by simpa using whole.symm, inert_braced letters,
        fun start other _ => ⟨.assertion (.between start other) kind, rfl, ?_⟩⟩
      rw [List.cons_append, List.append_assoc, List.singleton_append]
      refine .named rfl isLetter ?_ known
      rw [takeBoundaryName_false]
      exact Prod.ext (again other).1 (again other).2
  | @count afterBrace tail first shape noName =>
      refine ⟨[], rfl, List.forall_mem_nil _, fun start other goesOn => ?_⟩
      by_cases brace : other.head? = some '{'
      · rcases List.head?_eq_some_iff.mp brace with ⟨others, rfl⟩
        rcases goesOn.brace others rfl with ⟨_, same, begins⟩
        cases same
        rw [skip_false] at shape
        rw [shape] at begins
        rcases List.head?_eq_some_iff.mp begins.symm with ⟨more, rfl⟩
        exact ⟨.assertion (.between start ('{' :: first :: more)) .wordBoundary, rfl,
          .count rfl noName⟩
      · exact ⟨.assertion (.between start other) .wordBoundary, rfl, .plain brace⟩
  | plain noBrace =>
      refine ⟨[], rfl, List.forall_mem_nil _, fun start other goesOn =>
        ⟨.assertion (.between start other) .wordBoundary, rfl, .plain ?_⟩⟩
      intro brace
      rcases List.head?_eq_some_iff.mp brace with ⟨tail, equal⟩
      rcases goesOn.brace tail equal with ⟨others, rfl, _⟩
      exact noBrace rfl

/-! ## Parts -/

/-- A step that takes the part does so before other texts and within other groups. -/
def Repeats (state next : ParserState) (part rest : List Char) : Prop :=
  ∀ (moved : ParserState) (names : List (List Char × Span)) (around : List OpenGroup)
    (other : List Char), (moved.within names around).plain = state.plain → GoesOn rest other →
      ∃ last, StepForm moved (part ++ other) last other ∧
        (last.within names around).plain = next.plain

structure TakesPart (state : ParserState) (input : List Char) (next : ParserState)
    (rest part : List Char) : Prop where
  equal : input = part ++ rest
  groups : next.groups = state.groups
  verbose : next.verbose = state.verbose
  repeats : Repeats state next part rest

theorem TakesPart.quiet {state next : ParserState} {input rest part : List Char}
    (taken : TakesPart state input next rest part) (quiet : state.Quiet) : next.Quiet where
  verbose := taken.verbose.trans quiet.verbose
  groups := taken.groups ▸ quiet.groups

theorem quiet_closeGroup {state next : ParserState} {input rest : List Char} (quiet : state.Quiet)
    (closed : closeGroup state input rest = .ok next) :
    next.Quiet ∧ ∃ group, state.groups = group :: next.groups := by
  unfold closeGroup at closed
  split at closed
  · cases closed
  · next group others equal =>
      cases closed
      have opened := quiet.groups
      rw [equal, List.forall_mem_cons] at opened
      exact ⟨⟨opened.1, opened.2⟩, group, equal⟩

theorem repeatOperand_within (state : ParserState) (names : List (List Char × Span))
    (around : List OpenGroup) (input rest : List Char) (count : Count) (greedy : Bool) :
    repeatOperand (state.within names around) input rest count greedy =
      (repeatOperand state input rest count greedy).map (·.within names around) := by
  have level : (state.within names around).level = state.level := rfl
  unfold repeatOperand takeOperand
  rw [level]
  split <;> rfl

section Operands

variable {state next moved : ParserState} {names : List (List Char × Span)}
  {around : List OpenGroup} {input rest : List Char} {count : Count} {greedy : Bool}

theorem plain_repeatOperand_within (same : (moved.within names around).plain = state.plain)
    (repeated : repeatOperand state input rest count greedy = .ok next)
    (otherInput otherRest : List Char) :
    ∃ last, repeatOperand moved otherInput otherRest count greedy = .ok last ∧
      (last.within names around).plain = next.plain := by
  rcases ParserState.plain_repeatOperand same repeated otherInput otherRest with
    ⟨last, repeatedToo, samePlain⟩
  rw [repeatOperand_within] at repeatedToo
  rcases ok_of_map repeatedToo with ⟨inner, found, rfl⟩
  exact ⟨inner, found, samePlain⟩

theorem groups_repeatOperand (repeated : repeatOperand state input rest count greedy = .ok next) :
    next.groups = state.groups ∧ next.verbose = state.verbose := by
  rcases ok_of_map repeated with ⟨⟨operand, left⟩, taken, rfl⟩
  rcases takeOperand_cases taken with ⟨others, _, _, rfl⟩
  exact ⟨rfl, rfl⟩

end Operands

section Steps

variable {state : ParserState}

theorem Operates.takesPart {next : ParserState} {input rest part : List Char} {count : Count}
    {greedy : Bool} (operates : Operates state input next rest part count greedy)
    (notVerbose : state.verbose = false) : IsRun part ∧ TakesPart state input next rest part := by
  have unchanged := groups_repeatOperand operates.repeated
  refine ⟨.plain fun character member => ordinary_of_inert (operates.inert character member),
    operates.equal, unchanged.1, unchanged.2, fun moved names around other same goesOn => ?_⟩
  rcases plain_repeatOperand_within same operates.repeated (part ++ other) other with
    ⟨last, repeatedToo, samePlain⟩
  have verbose := (ParserState.verbose_of_plain same).trans notVerbose
  exact ⟨last, operates.again verbose goesOn.mark repeatedToo, samePlain⟩

theorem takesPart_bar (rest : List Char) :
    TakesPart state ('|' :: rest)
      { state with level := state.level.nextAlternative ('|' :: rest) rest } rest ['|'] :=
  ⟨rfl, rfl, rfl, fun _ _ _ _ same _ =>
    ⟨_, .bar, ParserState.plain_nextAlternative same _ _ _ _⟩⟩

theorem takesPart_push {mark : Char} {tail part rest : List Char} {primitive : Primitive}
    (notVerbose : state.verbose = false) (isOther : mark ∉ stepMarks)
    (equal : mark :: tail = mark :: part ++ rest)
    (again : ∀ other, GoesOn rest other → ∃ moved, moved.bare = primitive.bare ∧
      Single false (mark :: (part ++ other)) moved other) :
    TakesPart state (mark :: tail) (state.push primitive.toTree) rest (mark :: part) := by
  refine ⟨equal, rfl, rfl, fun moved names around other same goesOn => ?_⟩
  rcases again other goesOn with ⟨movedPrimitive, sameBare, single⟩
  have verbose : moved.verbose = false := (ParserState.verbose_of_plain same).trans notVerbose
  rw [← verbose] at single
  refine ⟨moved.push movedPrimitive.toTree, .single isOther single, ParserState.plain_push same ?_⟩
  simp only [Tree.plain, Primitive.strip_toTree, sameBare]

theorem Escape.takesPart {letter : Char} {input rest : List Char} {primitive : Primitive}
    (escape : Escape false ('\\' :: letter :: input) primitive rest)
    (notVerbose : state.verbose = false) (inert : ∀ letter ∈ primitive.letters, isInert letter) :
    ∃ part, IsRun part ∧
      TakesPart state ('\\' :: letter :: input) (state.push primitive.toTree) rest part := by
  by_cases boundary : letter = 'b'
  · subst boundary
    rcases escape.toBoundary.append with ⟨taken, equal, allInert, again⟩
    refine ⟨'\\' :: 'b' :: taken, .escape 'b' fun character member =>
      ordinary_of_inert (allInert character member), ?_⟩
    refine takesPart_push notVerbose (by decide) (congrArg ('\\' :: 'b' :: ·) equal)
      fun other goesOn => ?_
    rcases again ('\\' :: 'b' :: (taken ++ other)) other goesOn with ⟨moved, same, read⟩
    exact ⟨moved, same, .escape (.boundary read)⟩
  · rcases escape.append boundary with ⟨taken, equal, allInert, again⟩
    refine ⟨'\\' :: letter :: taken, .escape letter fun character member =>
      ordinary_of_inert (allInert inert character member), ?_⟩
    refine takesPart_push notVerbose (by decide) (congrArg ('\\' :: letter :: ·) equal)
      fun other _ => ?_
    rcases again other with ⟨moved, same, read⟩
    exact ⟨moved, same, .escape read⟩

theorem Single.takesPart {mark : Char} {tail rest : List Char} {primitive : Primitive}
    (single : Single false (mark :: tail) primitive rest) (isOther : mark ∉ stepMarks)
    (notVerbose : state.verbose = false) (inert : ∀ letter ∈ primitive.letters, isInert letter) :
    ∃ part, IsRun part ∧
      TakesPart state (mark :: tail) (state.push primitive.toTree) rest part := by
  by_cases backslash : mark = '\\'
  · subst backslash
    cases single with
    | escape escape =>
        rcases escape.shape with ⟨letter, input, rfl⟩
        exact escape.takesPart notVerbose inert
    | literal isOther => exact absurd isOther (by decide)
  · have ordinary : isOrdinary mark := by
      simp only [List.mem_cons, List.not_mem_nil, or_false, not_or] at isOther
      simp [isOrdinary, backslash, isOther]
    rcases single.append backslash with ⟨rfl, again⟩
    exact ⟨[mark], .plain (List.forall_mem_singleton.mpr ordinary),
      takesPart_push notVerbose isOther rfl fun other _ => again other⟩

theorem ClassForm.takesPart {tail rest : List Char} {tree : Tree}
    (form : ClassForm false ('[' :: tail) tree rest) (notVerbose : state.verbose = false) :
    ∃ part, TakesPart state ('[' :: tail) (state.push tree) rest ('[' :: part) := by
  rcases form.append with ⟨taken, equal, _, again⟩
  refine ⟨taken, congrArg ('[' :: ·) equal, rfl, rfl, fun moved names around other same _ => ?_⟩
  rcases again other with ⟨tree, sameBare, formToo⟩
  have verbose : moved.verbose = false := (ParserState.verbose_of_plain same).trans notVerbose
  refine ⟨moved.push tree, .bracketed (verbose ▸ formToo), ParserState.plain_push same ?_⟩
  rcases form.bracketed with ⟨span, negated, body, rfl⟩
  rcases formToo.bracketed with ⟨otherSpan, otherNegated, otherBody, rfl⟩
  exact sameBare

theorem GroupOpening.takesLead {next : ParserState} {opening : Span} {tail left : List Char}
    (opens : GroupOpening state opening tail next left) (quiet : state.Quiet)
    (marked : tail.head? = some '?') (plain : leadsPlainly tail) :
    ∃ part opened, tail = part ++ left ∧ IsLead part opened ∧
      (∃ pushed, next.groups = pushed ++ state.groups ∧ pushed.length = opened) ∧
      next.Quiet ∧ Repeats state next ('(' :: part) left := by
  rcases List.head?_eq_some_iff.mp marked with ⟨start, rfl⟩
  rcases opens.append plain quiet with ⟨part, opened, equal, lead, count, quietNext, again⟩
  refine ⟨part, opened, equal, lead, count, quietNext, fun moved names around other same _ => ?_⟩
  have verbose : moved.verbose = false := (ParserState.verbose_of_plain same).trans quiet.verbose
  rcases again moved names around (.head ('(' :: (part ++ other))) other same with
    ⟨last, opensToo, samePlain⟩
  have shape : skip moved.verbose (part ++ other) = part ++ other := by rw [verbose, skip_false]
  exact ⟨last, .opens shape opensToo, samePlain⟩

/-- What a step takes where blanks are not skipped: what opens or closes a group, a class, or a run
of characters. -/
inductive StepPart (state : ParserState) : List Char → ParserState → List Char → Prop where
  | opens {tail rest : List Char} {next : ParserState}
      (opening : GroupOpening state (.head ('(' :: tail)) tail next rest) :
      StepPart state ('(' :: tail) next rest
  | closes {rest : List Char} {next : ParserState}
      (closed : closeGroup state (')' :: rest) rest = .ok next) :
      StepPart state (')' :: rest) next rest
  | bracketed {tail rest : List Char} {tree : Tree}
      (form : ClassForm false ('[' :: tail) tree rest)
      (inert : ∀ letter ∈ tree.letters, isInert letter) :
      StepPart state ('[' :: tail) (state.push tree) rest
  | run {input rest part : List Char} {next : ParserState} (isRun : IsRun part)
      (taken : TakesPart state input next rest part) : StepPart state input next rest

theorem StepForm.part {input rest : List Char} {next : ParserState}
    (form : StepForm state input next rest) (notVerbose : state.verbose = false)
    (inert : ∀ letter, next.Mentions letter → isInert letter) : StepPart state input next rest := by
  cases form with
  | opens shape opening =>
      rw [notVerbose, skip_false] at shape
      subst shape
      exact .opens opening
  | closes closed => exact .closes closed
  | bar => exact .run (.plain (List.forall_mem_singleton.mpr rfl)) (takesPart_bar rest)
  | bracketed form =>
      rw [notVerbose] at form
      exact .bracketed form fun letter member => inert letter (.inl (Level.mentions_push member))
  | repeats isMark repetition =>
      rcases repetition.operates isMark with ⟨part, greedy, operates⟩
      have taken := operates.takesPart notVerbose
      exact .run taken.1 taken.2
  | counted counted =>
      rcases counted.operates notVerbose with ⟨part, count, greedy, operates⟩
      have taken := operates.takesPart notVerbose
      exact .run taken.1 taken.2
  | @single _ _ _ primitive isOther single =>
      rw [notVerbose] at single
      have letters : ∀ letter ∈ primitive.letters, isInert letter := by
        intro letter member
        refine inert letter (.inl (Level.mentions_push ?_))
        rwa [Primitive.letters_toTree]
      rcases single.takesPart isOther notVerbose letters with ⟨part, isRun, taken⟩
      exact .run isRun taken

end Steps

end UriDispatch.Regex
