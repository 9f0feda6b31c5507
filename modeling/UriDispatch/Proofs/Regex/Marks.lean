import UriDispatch.Proofs.Regex.Continuations

/-! Texts that differ by marks after opening parentheses. A mark is a question mark and a colon, which
keep a group from capturing. A reader that takes no marked parenthesis takes the same of both texts,
also in verbose mode, where it looks for its parts behind blanks and comments. -/

namespace UriDispatch.Regex

/-- The second text is the first one with marks after opening parentheses in allowed places. -/
inductive Marks (allowed : Place → Prop) : List Char → List Char → Prop where
  | nil : Marks allowed [] []
  | cons (head : Char) {tail marked : List Char} (rest : Marks allowed tail marked) :
      Marks allowed (head :: tail) (head :: marked)
  | mark {tail marked : List Char} (isAllowed : allowed (tail.length + 1))
      (rest : Marks allowed tail marked) :
      Marks allowed ('(' :: tail) ('(' :: '?' :: ':' :: marked)

namespace Marks

variable {allowed : Place → Prop} {input marked : List Char}

theorem head? (marks : Marks allowed input marked) : marked.head? = input.head? := by
  cases marks <;> rfl

theorem eq_nil (marks : Marks allowed [] marked) : marked = [] := by
  cases marks
  rfl

theorem ne_nil (marks : Marks allowed input marked) (some : input ≠ []) : marked ≠ [] := by
  cases marks with
  | nil => exact absurd rfl some
  | cons | mark => exact List.cons_ne_nil _ _

theorem mono {others : Place → Prop}
    (includes : ∀ place, place ≤ input.length → allowed place → others place)
    (marks : Marks allowed input marked) : Marks others input marked := by
  induction marks with
  | nil => exact .nil
  | cons head _ induction =>
      exact .cons head (induction fun place within => includes place (Nat.le_succ_of_le within))
  | mark isAllowed _ induction =>
      exact .mark (includes _ (Nat.le_refl _) isAllowed)
        (induction fun place within => includes place (Nat.le_succ_of_le within))

theorem uncons {head : Char} (notParenthesis : head ≠ '(') {tail : List Char}
    (marks : Marks allowed (head :: tail) marked) :
    ∃ rest, marked = head :: rest ∧ Marks allowed tail rest := by
  cases marks with
  | cons _ rest => exact ⟨_, rfl, rest⟩
  | mark => exact absurd rfl notParenthesis

theorem uncons_before {bound : Nat} (after : ∀ place, allowed place → place ≤ bound) {head : Char}
    {tail : List Char} (marks : Marks allowed (head :: tail) marked) (fits : bound ≤ tail.length) :
    ∃ rest, marked = head :: rest ∧ Marks allowed tail rest := by
  cases marks with
  | cons _ rest => exact ⟨_, rfl, rest⟩
  | mark isAllowed => exact absurd ((after _ isAllowed).trans fits) (Nat.not_succ_le_self _)

theorem drop_of_not_mem {front rest : List Char} (plain : '(' ∉ front)
    (marks : Marks allowed (front ++ rest) marked) :
    ∃ behind, marked = front ++ behind ∧ Marks allowed rest behind := by
  induction front generalizing marked with
  | nil => exact ⟨marked, rfl, marks⟩
  | cons head tail induction =>
      rw [List.mem_cons, not_or] at plain
      rcases marks.uncons (Ne.symm plain.1) with ⟨others, rfl, restMarks⟩
      rcases induction plain.2 restMarks with ⟨behind, rfl, behindMarks⟩
      exact ⟨behind, rfl, behindMarks⟩

theorem of_not_mem {front behind : List Char} (plain : '(' ∉ front)
    (marks : Marks allowed input (front ++ behind)) :
    ∃ rest, input = front ++ rest ∧ Marks allowed rest behind := by
  induction front generalizing input with
  | nil => exact ⟨input, rfl, marks⟩
  | cons head tail induction =>
      rw [List.mem_cons, not_or] at plain
      rcases List.head?_eq_some_iff.mp marks.head?.symm with ⟨others, rfl⟩
      rcases marks.uncons (Ne.symm plain.1) with ⟨_, equal, restMarks⟩
      cases equal
      rcases induction plain.2 restMarks with ⟨rest, rfl, behindMarks⟩
      exact ⟨rest, rfl, behindMarks⟩

theorem dropBlanks (marks : Marks allowed input marked) (inComment : Bool) :
    Marks allowed (Regex.dropBlanks inComment input) (Regex.dropBlanks inComment marked) := by
  induction marks generalizing inComment with
  | nil => exact .nil
  | cons head rest induction =>
      simp only [Regex.dropBlanks]
      split
      · exact induction _
      · split
        · exact induction _
        · split
          · exact induction _
          · exact .cons head rest
  | mark isAllowed rest induction =>
      cases inComment with
      | true => exact induction true
      | false => exact .mark isAllowed rest

theorem skip (marks : Marks allowed input marked) (verbose : Bool) :
    Marks allowed (Regex.skip verbose input) (Regex.skip verbose marked) := by
  cases verbose with
  | false => exact marks
  | true => exact marks.dropBlanks false

theorem dropWhile {condition : Char → Bool} (stops : condition '(' = false)
    (marks : Marks allowed input marked) :
    Marks allowed (input.dropWhile condition) (marked.dropWhile condition) := by
  induction marks with
  | nil => exact .nil
  | cons head rest induction =>
      rw [List.dropWhile_cons, List.dropWhile_cons]
      split
      · exact induction
      · exact .cons head rest
  | mark isAllowed rest =>
      rw [List.dropWhile_cons, List.dropWhile_cons, stops]
      exact .mark isAllowed rest

end Marks

variable {allowed : Place → Prop} {input marked : List Char}

/-! ## Numbers -/

theorem ne_parenthesis_of {condition : Char → Bool} (excludes : condition '(' = false)
    {character : Char} (holds : condition character) : character ≠ '(' := by
  rintro rfl
  rw [excludes] at holds
  cases holds

theorem takeDigits_marks (marks : Marks allowed input marked) (verbose : Bool)
    (digits : List Char) :
    (takeDigits verbose digits marked).1 = (takeDigits verbose digits input).1 ∧
      Marks allowed (takeDigits verbose digits input).2 (takeDigits verbose digits marked).2 := by
  fun_induction takeDigits verbose digits input generalizing marked with
  | case1 =>
      rw [marks.eq_nil, takeDigits]
      exact ⟨rfl, .nil⟩
  | case2 digits digit rest isDigit _ induction =>
      rcases marks.uncons (ne_parenthesis_of (by decide) isDigit) with ⟨others, rfl, behind⟩
      rw [takeDigits, if_pos isDigit]
      exact induction (behind.skip verbose)
  | case3 digits other rest notDigit =>
      rcases List.head?_eq_some_iff.mp marks.head? with ⟨others, rfl⟩
      rw [takeDigits, if_neg notDigit]
      exact ⟨rfl, marks⟩

theorem readDecimal_marks (marks : Marks allowed input marked) {verbose : Bool} {value : Nat}
    {rest : List Char} (found : readDecimal verbose input = (.ok value, rest)) :
    ∃ behind, readDecimal verbose marked = (.ok value, behind) ∧ Marks allowed rest behind := by
  have start : Unicode.isBlank '(' = false := by decide
  have numbers := takeDigits_marks (marks.dropWhile start) verbose []
  have behind := (numbers.2.dropWhile start).skip verbose
  simp only [readDecimal] at found ⊢
  rw [numbers.1]
  split at found
  · cases found
  · next some =>
      rw [if_neg some]
      split at found
      · next fits =>
          cases found
          rw [if_pos fits]
          exact ⟨_, rfl, behind⟩
      · cases found

theorem CountEnd.marks {verbose : Bool} {count : Count} {value : Count × Bool} {rest : List Char}
    (ends : CountEnd verbose count input value rest) (marks : Marks allowed input marked) :
    ∃ behind, CountEnd verbose count marked value behind ∧ Marks allowed rest behind := by
  cases ends with
  | greedy shape notLazy ordered =>
      subst shape
      rcases marks.uncons (by decide) with ⟨others, rfl, behind⟩
      have skipped := behind.skip verbose
      exact ⟨_, .greedy rfl (skipped.head? ▸ notLazy) ordered, skipped⟩
  | lazy shape ordered =>
      rcases marks.uncons (by decide) with ⟨others, rfl, behind⟩
      have skipped := behind.skip verbose
      rw [shape] at skipped
      rcases skipped.uncons (by decide) with ⟨after, shapeMarked, afterMarks⟩
      exact ⟨after, .lazy shapeMarked ordered, afterMarks⟩

theorem Counts.marks {verbose : Bool} {rest : List Char} {value : Count × Bool}
    (counts : Counts verbose input value rest) (marks : Marks allowed input marked) :
    ∃ behind, Counts verbose marked value behind ∧ Marks allowed rest behind := by
  cases counts with
  | exactly first closes =>
      rcases readDecimal_marks (marks.skip verbose) first with ⟨behind, number, ends⟩
      rcases ends.uncons (by decide) with ⟨others, rfl, _⟩
      rcases closes.marks ends with ⟨last, closed, restMarks⟩
      exact ⟨last, .exactly number closed, restMarks⟩
  | atLeast first ends closes =>
      rcases readDecimal_marks (marks.skip verbose) first with ⟨behind, number, commaMarks⟩
      rcases commaMarks.uncons (by decide) with ⟨others, rfl, afterMarks⟩
      have endMarks := afterMarks.skip verbose
      rw [ends] at endMarks
      rcases closes.marks endMarks with ⟨last, closed, restMarks⟩
      rcases endMarks.uncons (by decide) with ⟨after, equal, _⟩
      rw [equal] at closed
      exact ⟨last, .atLeast number equal closed, restMarks⟩
  | between first second closes =>
      rcases readDecimal_marks (marks.skip verbose) first with ⟨behind, number, commaMarks⟩
      rcases commaMarks.uncons (by decide) with ⟨others, rfl, afterMarks⟩
      rcases readDecimal_marks (afterMarks.skip verbose) second with ⟨ends, numberToo, endMarks⟩
      rcases endMarks.uncons (by decide) with ⟨after, rfl, _⟩
      rcases closes.marks endMarks with ⟨last, closed, restMarks⟩
      exact ⟨last, .between number numberToo closed, restMarks⟩

/-! ## Hexadecimal escapes -/

theorem Digits.marks {verbose : Bool} {count : Nat} {digits rest : List Char}
    (read : Digits verbose count input digits rest) (marks : Marks allowed input marked) :
    ∃ behind, Digits verbose count marked digits behind ∧ Marks allowed rest behind := by
  induction read generalizing marked with
  | last few isDigit =>
      rcases marks.uncons (ne_parenthesis_of (by decide) isDigit) with ⟨others, rfl, restMarks⟩
      exact ⟨_, .last few isDigit, restMarks.skip verbose⟩
  | more isDigit _ induction =>
      rcases marks.uncons (ne_parenthesis_of (by decide) isDigit) with ⟨others, rfl, restMarks⟩
      rcases induction (restMarks.skip verbose) with ⟨behind, readMarked, behindMarks⟩
      exact ⟨behind, .more isDigit readMarked, behindMarks⟩

theorem Braced.marks {verbose : Bool} {isInside : Char → Bool} {inside rest : List Char}
    (braced : Braced verbose isInside input inside rest) (marks : Marks allowed input marked)
    (unmarked : isInside '(' = false ∨ ∀ place, allowed place → place ≤ rest.length) :
    ∃ behind, Braced verbose isInside marked inside behind ∧ Marks allowed rest behind := by
  induction braced generalizing marked with
  | closing shape =>
      have skipped := marks.skip verbose
      rw [shape] at skipped
      rcases skipped.uncons (by decide) with ⟨behind, shapeMarked, restMarks⟩
      exact ⟨behind, .closing shapeMarked, restMarks⟩
  | @more _ tail inside rest character shape goesOn holds braced induction =>
      have skipped := marks.skip verbose
      rw [shape] at skipped
      obtain ⟨others, shapeMarked, tailMarks⟩ :
          ∃ others, Regex.skip verbose marked = character :: others ∧ Marks allowed tail others := by
        rcases unmarked with excludes | after
        · exact skipped.uncons (ne_parenthesis_of excludes holds)
        · have inside := braced.suffix.length_le
          exact skipped.uncons_before after (Nat.le_of_succ_le inside)
      rcases induction tailMarks unmarked with ⟨behind, bracedMarked, restMarks⟩
      exact ⟨behind, .more shapeMarked goesOn holds bracedMarked, restMarks⟩

theorem CodePoint.marks {verbose : Bool} {opening : List Char} {letter : Char} {literal : Literal}
    {rest : List Char} (codePoint : CodePoint verbose opening letter input literal rest)
    (marks : Marks allowed input marked) (start : List Char) :
    ∃ moved behind, CodePoint verbose start letter marked moved behind ∧
      moved.bare = literal.bare ∧ Marks allowed rest behind := by
  have skipped := marks.skip verbose
  cases codePoint with
  | @braced _ _ _ character shape read nonempty valid =>
      rw [shape] at skipped
      rcases skipped.uncons (by decide) with ⟨others, shapeMarked, insideMarks⟩
      rcases read.marks insideMarks (.inl (by decide)) with ⟨behind, readMarked, restMarks⟩
      exact ⟨_, _, .braced shapeMarked readMarked nonempty valid, rfl, restMarks.skip verbose⟩
  | @fixed _ _ _ character shape read valid =>
      subst shape
      rcases read.marks skipped with ⟨behind, readMarked, restMarks⟩
      exact ⟨_, behind, .fixed rfl readMarked valid, rfl, restMarks⟩

/-! ## Boundaries -/

theorem takeBoundaryName_marks (marks : Marks allowed input marked) (verbose : Bool)
    (name : List Char) :
    (takeBoundaryName verbose name marked).1 = (takeBoundaryName verbose name input).1 ∧
      Marks allowed (takeBoundaryName verbose name input).2
        (takeBoundaryName verbose name marked).2 := by
  fun_induction takeBoundaryName verbose name input generalizing marked with
  | case1 =>
      rw [marks.eq_nil, takeBoundaryName]
      exact ⟨rfl, .nil⟩
  | case2 name letter rest isLetter _ induction =>
      rcases marks.uncons (ne_parenthesis_of (by decide) isLetter) with ⟨others, rfl, behind⟩
      rw [takeBoundaryName, if_pos isLetter]
      exact induction (behind.skip verbose)
  | case3 name other rest notLetter =>
      rcases List.head?_eq_some_iff.mp marks.head? with ⟨others, rfl⟩
      rw [takeBoundaryName, if_neg notLetter]
      exact ⟨rfl, marks⟩

theorem Boundary.marks {verbose : Bool} {opening : List Char} {primitive : Primitive}
    {rest : List Char} (boundary : Boundary verbose opening input primitive rest)
    (marks : Marks allowed input marked) (start : List Char) :
    ∃ moved behind, Boundary verbose start marked moved behind ∧ moved.bare = primitive.bare ∧
      Marks allowed rest behind := by
  cases boundary with
  | @named afterBrace tail name rest first kind shape isLetter taken known =>
      rcases marks.uncons (by decide) with ⟨others, rfl, braceMarks⟩
      have skipped := braceMarks.skip verbose
      rw [shape] at skipped
      rcases List.head?_eq_some_iff.mp skipped.head? with ⟨tailMarked, shapeMarked⟩
      have names := takeBoundaryName_marks skipped verbose []
      rw [taken] at names
      rcases names.2.uncons (by decide) with ⟨last, takenMarked, lastMarks⟩
      rw [shapeMarked] at names takenMarked
      exact ⟨_, last, .named shapeMarked isLetter (Prod.ext names.1 takenMarked) known, rfl,
        lastMarks⟩
  | count shape noName =>
      rcases marks.uncons (by decide) with ⟨others, rfl, braceMarks⟩
      have skipped := braceMarks.skip verbose
      rw [shape] at skipped
      rcases List.head?_eq_some_iff.mp skipped.head? with ⟨tailMarked, shapeMarked⟩
      exact ⟨_, _, .count shapeMarked noName, rfl, marks⟩
  | plain noBrace => exact ⟨_, _, .plain (marks.head? ▸ noBrace), rfl, marks⟩

/-! ## Properties

From here on a reader may take a parenthesis for a character like others. There must be no mark in
what it takes: all allowed places lie behind it. -/

section Bounded

variable {bound : Nat} (after : ∀ place, allowed place → place ≤ bound)

include after

theorem PropertyName.marks {verbose : Bool} {query : PropertyQuery} {rest : List Char}
    (name : PropertyName verbose input query rest) (marks : Marks allowed input marked)
    (fits : bound ≤ rest.length) :
    ∃ behind, PropertyName verbose marked query behind ∧ Marks allowed rest behind := by
  have skipped := marks.skip verbose
  cases name with
  | braced shape read =>
      rw [shape] at skipped
      rcases skipped.uncons (by decide) with ⟨others, shapeMarked, insideMarks⟩
      obtain ⟨behind, readMarked, restMarks⟩ :=
        read.marks insideMarks (.inr fun place isAllowed => (after place isAllowed).trans fits)
      exact ⟨behind, .braced shapeMarked readMarked, restMarks⟩
  | @letter tail _ shape notBrace notBackslash =>
      rw [shape] at skipped
      rcases skipped.uncons_before after (fits.trans (length_skip_le verbose tail)) with
        ⟨others, shapeMarked, restMarks⟩
      exact ⟨_, .letter shapeMarked notBrace notBackslash, restMarks.skip verbose⟩

/-! ## Escapes -/

theorem Escape.marks {tail rest : List Char} {verbose : Bool} {primitive : Primitive}
    (escape : Escape verbose ('\\' :: tail) primitive rest)
    (marks : Marks allowed ('\\' :: tail) marked) (fits : bound ≤ rest.length) :
    ∃ others moved behind, marked = '\\' :: others ∧ Escape verbose ('\\' :: others) moved behind ∧
      moved.bare = primitive.bare ∧ Marks allowed rest behind := by
  rcases escape.shape with ⟨letter, inside, rfl⟩
  rcases marks.uncons (by decide) with ⟨_, rfl, tailMarks⟩
  rcases tailMarks.uncons_before after (fits.trans escape.inside.length_le) with
    ⟨others, rfl, insideMarks⟩
  cases escape with
  | codePoint isCodePoint read =>
      rcases read.marks insideMarks ('\\' :: letter :: others) with
        ⟨moved, behind, readMarked, same, behindMarks⟩
      exact ⟨_, _, behind, rfl, .codePoint isCodePoint readMarked, congrArg Primitive.literal same,
        behindMarks⟩
  | property isProperty read =>
      rcases read.marks after insideMarks fits with ⟨behind, readMarked, behindMarks⟩
      exact ⟨_, _, behind, rfl, .property isProperty readMarked, rfl, behindMarks⟩
  | boundary read =>
      rcases read.marks insideMarks ('\\' :: 'b' :: others) with
        ⟨moved, behind, readMarked, same, behindMarks⟩
      exact ⟨_, moved, behind, rfl, .boundary readMarked, same, behindMarks⟩
  | single known =>
      rcases singleEscape?_bare known (.between ('\\' :: letter :: others) others) with
        ⟨moved, knownMarked, same⟩
      exact ⟨_, moved, others, rfl, .single knownMarked, same, insideMarks⟩

theorem Single.marks {verbose : Bool} {primitive : Primitive}
    (single : Single verbose input primitive rest) (marks : Marks allowed input marked)
    (fits : bound ≤ rest.length) :
    ∃ value behind, Single verbose marked value behind ∧ value.bare = primitive.bare ∧
      Marks allowed rest behind := by
  cases single with
  | escape escape =>
      rcases escape.marks after marks fits with ⟨others, moved, behind, rfl, escapeMarked, same⟩
      exact ⟨moved, behind, .escape escapeMarked, same⟩
  | dot =>
      rcases marks.uncons (by decide) with ⟨others, rfl, restMarks⟩
      exact ⟨_, others, .dot, rfl, restMarks⟩
  | lineStart =>
      rcases marks.uncons (by decide) with ⟨others, rfl, restMarks⟩
      exact ⟨_, others, .lineStart, rfl, restMarks⟩
  | lineEnd =>
      rcases marks.uncons (by decide) with ⟨others, rfl, restMarks⟩
      exact ⟨_, others, .lineEnd, rfl, restMarks⟩
  | literal isOther =>
      rcases marks.uncons_before after fits with ⟨others, rfl, restMarks⟩
      exact ⟨_, others, .literal isOther, rfl, restMarks⟩

end Bounded

end UriDispatch.Regex
