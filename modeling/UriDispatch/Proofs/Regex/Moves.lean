import UriDispatch.Proofs.Regex.Groups

/-! What a step of the reader can do. It reads one item, begins an alternative, repeats the last
item, or opens or closes a group. -/

namespace UriDispatch.Regex

/-! ## Single characters -/

inductive Single (verbose : Bool) : List Char → Primitive → List Char → Prop where
  | escape {tail rest : List Char} {primitive : Primitive}
      (read : Escape verbose ('\\' :: tail) primitive rest) :
      Single verbose ('\\' :: tail) primitive rest
  | dot {rest : List Char} : Single verbose ('.' :: rest) (.dot (.head ('.' :: rest))) rest
  | lineStart {rest : List Char} :
      Single verbose ('^' :: rest) (.assertion (.head ('^' :: rest)) .startOfLine) rest
  | lineEnd {rest : List Char} :
      Single verbose ('$' :: rest) (.assertion (.head ('$' :: rest)) .endOfLine) rest
  | literal {character : Char} {rest : List Char} (isOther : character ∉ ['\\', '.', '^', '$']) :
      Single verbose (character :: rest) (.literal ⟨.head (character :: rest), character, false⟩)
        rest

theorem readPrimitive_literal (verbose : Bool) {mark : Char} {rest : List Char}
    (literal : mark ∉ ['\\', '.', '^', '$']) : readPrimitive verbose (mark :: rest) =
      .ok (.ofHead mark rest (.literal ⟨.head (mark :: rest), mark, false⟩)) := by
  simp only [List.mem_cons, List.not_mem_nil, or_false, not_or] at literal
  rw [readPrimitive] <;> simp [literal]

theorem single_of_readPrimitive {verbose : Bool} {input : List Char}
    {reading : Reading input Primitive} (found : readPrimitive verbose input = .ok reading) :
    Single verbose input reading.value reading.rest := by
  unfold readPrimitive at found
  split at found
  · exact .escape (escape_of_readEscape found)
  · cases found
    exact .dot
  · cases found
    exact .lineStart
  · cases found
    exact .lineEnd
  · next notBackslash notDot notStart notEnd =>
      cases found
      refine .literal ?_
      simp only [List.mem_cons, List.not_mem_nil, or_false, not_or]
      exact ⟨notBackslash, notDot, notStart, notEnd⟩
  · cases found

theorem readPrimitive_of_single {verbose : Bool} {input rest : List Char} {primitive : Primitive}
    (single : Single verbose input primitive rest) :
    Reads (readPrimitive verbose input) primitive rest := by
  cases single with
  | escape read => exact readEscape_of_escape read
  | dot | lineStart | lineEnd => exact ⟨_, rfl, rfl, rfl⟩
  | literal isOther =>
      rw [readPrimitive_literal verbose isOther]
      exact ⟨_, rfl, rfl, rfl⟩

/-! ## Repetitions -/

inductive Repetition (state : ParserState) (count : Count) :
    List Char → ParserState → List Char → Prop where
  | lazy {mark : Char} {rest : List Char} {next : ParserState}
      (repeated : repeatOperand state (mark :: '?' :: rest) rest count false = .ok next) :
      Repetition state count (mark :: '?' :: rest) next rest
  | greedy {mark : Char} {rest : List Char} {next : ParserState} (notLazy : rest.head? ≠ some '?')
      (repeated : repeatOperand state (mark :: rest) rest count true = .ok next) :
      Repetition state count (mark :: rest) next rest

theorem repetition_of_readRepetition {state : ParserState} {input : List Char} {count : Count}
    {reading : Reading input ParserState} (found : readRepetition state input count = .ok reading) :
    Repetition state count input reading.value reading.rest := by
  unfold readRepetition at found
  split at found
  · rcases ok_of_map found with ⟨next, repeated, rfl⟩
    exact .lazy repeated
  · next notLazy =>
      rcases ofHead_of_map found with ⟨next, repeated, rfl⟩
      refine .greedy (fun mark => ?_) repeated
      rcases List.head?_eq_some_iff.mp mark with ⟨tail, equal⟩
      exact notLazy tail equal
  · cases found

theorem readRepetition_of_repetition {state next : ParserState} {count : Count}
    {input rest : List Char} (repetition : Repetition state count input next rest) :
    Reads (readRepetition state input count) next rest := by
  cases repetition with
  | lazy repeated =>
      rw [readRepetition, repeated]
      exact ⟨_, rfl, rfl, rfl⟩
  | greedy notLazy repeated =>
      rw [readRepetition, repeated]
      · exact ⟨_, rfl, rfl, rfl⟩
      · rintro tail rfl
        exact notLazy rfl

inductive CountedRepetition (state : ParserState) : List Char → ParserState → List Char → Prop where
  | intro {brace : Char} {tail rest : List Char} {count : Count} {greedy : Bool}
      {next : ParserState} (counts : Counts state.verbose tail (count, greedy) rest)
      (repeated : repeatOperand state (brace :: tail) rest count greedy = .ok next) :
      CountedRepetition state (brace :: tail) next rest

theorem counted_of_readCountedRepetition {state : ParserState} {input : List Char}
    {reading : Reading input ParserState}
    (found : readCountedRepetition state input = .ok reading) :
    CountedRepetition state input reading.value reading.rest := by
  unfold readCountedRepetition at found
  split at found
  · split at found
    · cases found
    · split at found
      · cases found
      · next read =>
          rcases ok_of_map found with ⟨next, repeated, rfl⟩
          exact .intro (counts_of_readCount read) repeated
  · cases found

theorem readCountedRepetition_of_counted {state next : ParserState} {input rest : List Char}
    (counted : CountedRepetition state input next rest) :
    Reads (readCountedRepetition state input) next rest := by
  cases counted with
  | @intro brace tail _ _ _ _ counts repeated =>
      rcases readCount_of_counts counts (brace :: tail) with ⟨⟨_, _, _⟩, read, rfl, rfl⟩
      rcases ok_of_map repeated with ⟨operand, taken, _⟩
      unfold readCountedRepetition
      simp only [taken, read, repeated]
      exact ⟨_, rfl, rfl, rfl⟩

/-! ## Steps -/

def repetitionMarks : List (Char × Count) :=
  [('?', ⟨0, some 1⟩), ('*', ⟨0, none⟩), ('+', ⟨1, none⟩)]

/-- The characters with which a step reads something else than a single character. -/
abbrev stepMarks : List Char := ['(', ')', '|', '[', '?', '*', '+', '{']

theorem step_primitive {state : ParserState} {mark : Char} {rest : List Char}
    (notMark : mark ∉ stepMarks) :
    step state (mark :: rest) =
      (readPrimitive state.verbose (mark :: rest)).map
        (·.map fun found => state.push found.toTree) := by
  simp only [List.mem_cons, List.not_mem_nil, or_false, not_or] at notMark
  rw [step] <;> simp [notMark]

inductive StepForm (state : ParserState) : List Char → ParserState → List Char → Prop where
  | opens {tail inside rest : List Char} {next : ParserState}
      (shape : skip state.verbose tail = inside)
      (opening : GroupOpening state (.head ('(' :: tail)) inside next rest) :
      StepForm state ('(' :: tail) next rest
  | closes {rest : List Char} {next : ParserState}
      (closed : closeGroup state (')' :: rest) rest = .ok next) :
      StepForm state (')' :: rest) next rest
  | bar {rest : List Char} : StepForm state ('|' :: rest)
      { state with level := state.level.nextAlternative ('|' :: rest) rest } rest
  | bracketed {tail rest : List Char} {tree : Tree}
      (form : ClassForm state.verbose ('[' :: tail) tree rest) :
      StepForm state ('[' :: tail) (state.push tree) rest
  | repeats {mark : Char} {count : Count} {tail rest : List Char} {next : ParserState}
      (isMark : (mark, count) ∈ repetitionMarks)
      (repetition : Repetition state count (mark :: tail) next rest) :
      StepForm state (mark :: tail) next rest
  | counted {tail rest : List Char} {next : ParserState}
      (counted : CountedRepetition state ('{' :: tail) next rest) :
      StepForm state ('{' :: tail) next rest
  | single {head : Char} {tail rest : List Char} {primitive : Primitive}
      (isOther : head ∉ stepMarks)
      (single : Single state.verbose (head :: tail) primitive rest) :
      StepForm state (head :: tail) (state.push primitive.toTree) rest

theorem form_of_step {state : ParserState} {input : List Char}
    {reading : Reading input ParserState} (found : step state input = .ok reading) :
    StepForm state input reading.value reading.rest := by
  unfold step at found
  split at found
  · exact .opens rfl (opening_of_readGroup found)
  · rcases ofHead_of_map found with ⟨next, closed, rfl⟩
    exact .closes closed
  · cases found
    exact .bar
  · rcases rest_of_map found with ⟨inner, read, rfl⟩
    exact .bracketed (class_of_readClass read)
  · exact .repeats (by decide) (repetition_of_readRepetition found)
  · exact .repeats (by decide) (repetition_of_readRepetition found)
  · exact .repeats (by decide) (repetition_of_readRepetition found)
  · exact .counted (counted_of_readCountedRepetition found)
  · next notOpen notClose notBar notBracket notMark notStar notPlus notBrace =>
      rcases rest_of_map found with ⟨inner, read, rfl⟩
      cases input with
      | nil => cases read
      | cons head tail =>
          refine .single ?_ (single_of_readPrimitive read)
          simp only [List.mem_cons, List.not_mem_nil, or_false]
          rintro (rfl | rfl | rfl | rfl | rfl | rfl | rfl | rfl)
          · exact notOpen tail rfl
          · exact notClose tail rfl
          · exact notBar tail rfl
          · exact notBracket tail rfl
          · exact notMark tail rfl
          · exact notStar tail rfl
          · exact notPlus tail rfl
          · exact notBrace tail rfl

theorem step_of_form {state next : ParserState} {input rest : List Char}
    (form : StepForm state input next rest) : Reads (step state input) next rest := by
  cases form with
  | opens shape opening =>
      subst shape
      exact readGroup_of_opening opening
  | closes closed =>
      rw [step, closed]
      exact ⟨_, rfl, rfl, rfl⟩
  | bar => exact ⟨_, rfl, rfl, rfl⟩
  | bracketed form => exact (readClass_of_class form).map state.push
  | repeats isMark repetition =>
      simp only [repetitionMarks, List.mem_cons, Prod.mk.injEq, List.not_mem_nil, or_false]
        at isMark
      rcases isMark with ⟨rfl, rfl⟩ | ⟨rfl, rfl⟩ | ⟨rfl, rfl⟩
      · exact readRepetition_of_repetition repetition
      · exact readRepetition_of_repetition repetition
      · exact readRepetition_of_repetition repetition
  | counted counted => exact readCountedRepetition_of_counted counted
  | single isOther single =>
      rw [step_primitive isOther]
      exact (readPrimitive_of_single single).map _

/-! ## Moves -/

inductive Moves (state : ParserState) : List Char → ParserState → Prop where
  | primitive {input : List Char} (single : Primitive) :
      Moves state input (state.push single.toTree)
  | bracketed {rest : List Char} (span : Span) (negated : Bool) (body : ClassSet) :
      Moves state ('[' :: rest) (state.push (.bracketed span negated body))
  | bar {rest : List Char} : Moves state ('|' :: rest)
      { state with level := state.level.nextAlternative ('|' :: rest) rest }
  | repeats {input start left : List Char} {count : Count} {greedy : Bool} {next : ParserState}
      (repeated : repeatOperand state start left count greedy = .ok next) : Moves state input next
  | opens {rest inner left : List Char} {next : ParserState}
      (start : skip state.verbose rest = inner)
      (opening : GroupOpening state (.head ('(' :: rest)) inner next left) :
      Moves state ('(' :: rest) next
  | closes {rest : List Char} {next : ParserState}
      (closed : closeGroup state (')' :: rest) rest = .ok next) : Moves state (')' :: rest) next

theorem StepForm.moves {state next : ParserState} {input rest : List Char}
    (form : StepForm state input next rest) : Moves state input next := by
  cases form with
  | opens shape opening => exact .opens shape opening
  | closes closed => exact .closes closed
  | bar => exact .bar
  | bracketed form =>
      rcases form.bracketed with ⟨span, negated, body, rfl⟩
      exact .bracketed span negated body
  | repeats _ repetition =>
      cases repetition with
      | lazy repeated | greedy _ repeated => exact .repeats repeated
  | counted counted =>
      cases counted with
      | intro _ repeated => exact .repeats repeated
  | single _ single => exact .primitive _

theorem moves_of_step {state : ParserState} {input : List Char}
    {reading : Reading input ParserState} (found : step state input = .ok reading) :
    Moves state input reading.value :=
  (form_of_step found).moves

end UriDispatch.Regex
