import UriDispatch.Pattern.Source

/-! The pieces of a rewritten pattern are the rewritten pieces of the pattern. What rewriting adds
are backslashes and the marks of optional groups; none of them can begin, end or be part of a name,
so no name is made, broken or changed by it. -/

namespace UriDispatch.Pattern

/-! ## Single characters -/

def rewriteCharacter (character : Char) : List Char := markSections (escapeOperators [character])

theorem markSections_escapeOperators (pattern : List Char) :
    markSections (escapeOperators pattern) = pattern.flatMap rewriteCharacter := by
  induction pattern with
  | nil => rfl
  | cons head tail induction =>
      rw [List.flatMap_cons, ← induction]
      simp only [rewriteCharacter, markSections, escapeOperators, List.flatMap_cons,
        List.flatMap_append, List.flatMap_nil, List.append_nil]

theorem rewriteCharacter_operator {character : Char} (operator : character ∈ plainOperators) :
    rewriteCharacter character = ['\\', character] := by
  simp only [plainOperators, List.mem_cons, List.not_mem_nil, or_false] at operator
  rcases operator with rfl | rfl | rfl | rfl | rfl | rfl <;> rfl

theorem rewriteCharacter_self {character : Char} (plain : character ∉ plainOperators)
    (notOpen : character ≠ '(') (notClose : character ≠ ')') :
    rewriteCharacter character = [character] := by
  simp only [rewriteCharacter, escapeOperators, List.flatMap_cons, List.flatMap_nil,
    List.append_nil, if_neg plain, markSections]

def isRewritten (character : Char) : Bool :=
  character ∈ plainOperators || character = '(' || character = ')'

theorem rewriteCharacter_of_not_isRewritten {character : Char}
    (untouched : isRewritten character = false) : rewriteCharacter character = [character] := by
  simp only [isRewritten, Bool.or_eq_false_iff, decide_eq_false_iff_not] at untouched
  exact rewriteCharacter_self untouched.1.1 untouched.1.2 untouched.2

theorem rewriteCharacter_cases (character : Char) :
    rewriteCharacter character = [character] ∨
      ∃ first rest, rewriteCharacter character = first :: rest ∧
        isNameCharacter first = false ∧ first ≠ '>' ∧
        isNameCharacter character = false ∧ character ≠ '>' ∧ '<' ∉ first :: rest := by
  by_cases rewritten : isRewritten character
  · right
    simp only [isRewritten, plainOperators, List.mem_cons, List.not_mem_nil, or_false,
      Bool.or_eq_true, decide_eq_true_eq, or_assoc] at rewritten
    rcases rewritten with rfl | rfl | rfl | rfl | rfl | rfl | rfl | rfl <;>
      exact ⟨_, _, rfl, by decide⟩
  · exact .inl (rewriteCharacter_of_not_isRewritten (Bool.eq_false_iff.mpr rewritten))

theorem open_not_mem_rewriteCharacter {character : Char} (notOpen : character ≠ '(') :
    '(' ∉ rewriteCharacter character := by
  by_cases operator : character ∈ plainOperators
  · rw [rewriteCharacter_operator operator]
    simpa using fun equal => notOpen equal.symm
  · by_cases isClose : character = ')'
    · subst isClose
      decide
    · rw [rewriteCharacter_self operator notOpen isClose]
      simpa using fun equal => notOpen equal.symm

/-! ## Names -/

theorem takeWhile_rewritten (text : List Char) :
    (text.flatMap rewriteCharacter).takeWhile isNameCharacter =
      text.takeWhile isNameCharacter := by
  induction text with
  | nil => rfl
  | cons head tail induction =>
      rw [List.flatMap_cons]
      rcases rewriteCharacter_cases head with same | ⟨first, rest, added, outside, _, headOutside, _⟩
      · rw [same, List.singleton_append, List.takeWhile_cons, List.takeWhile_cons, induction]
      · rw [added, List.cons_append, List.takeWhile_cons_of_neg (by simp [outside]),
          List.takeWhile_cons_of_neg (by simp [headOutside])]

theorem dropWhile_rewritten (text : List Char) :
    (text.flatMap rewriteCharacter).dropWhile isNameCharacter =
      (text.dropWhile isNameCharacter).flatMap rewriteCharacter := by
  induction text with
  | nil => rfl
  | cons head tail induction =>
      rcases rewriteCharacter_cases head with same | ⟨first, rest, added, outside, _, headOutside, _⟩
      · by_cases inside : isNameCharacter head
        · rw [List.flatMap_cons, same, List.singleton_append,
            List.dropWhile_cons_of_pos inside, List.dropWhile_cons_of_pos inside, induction]
        · rw [List.dropWhile_cons_of_neg inside, List.flatMap_cons, same, List.singleton_append,
            List.dropWhile_cons_of_neg inside]
      · rw [List.dropWhile_cons_of_neg (by simp [headOutside]), List.flatMap_cons, added,
          List.cons_append, List.dropWhile_cons_of_neg (by simp [outside])]

theorem readName?_rewritten (text : List Char) :
    readName? (text.flatMap rewriteCharacter) =
      (readName? text).map fun (name, rest) => (name, rest.flatMap rewriteCharacter) := by
  simp only [readName?, takeWhile_rewritten, dropWhile_rewritten]
  cases text.dropWhile isNameCharacter with
  | nil => rfl
  | cons head tail =>
      rw [List.flatMap_cons]
      rcases rewriteCharacter_cases head with same | ⟨first, rest, added, _, notClosing, _, other, _⟩
      · rw [same, List.singleton_append]
        split
        · next equal =>
            cases equal
            split <;> rfl
        · next different =>
            split
            · next equal =>
                cases equal
                exact absurd rfl (different _)
            · rfl
      · rw [added, List.cons_append]
        split
        · next equal =>
            cases equal
            contradiction
        · split
          · next equal =>
              cases equal
              contradiction
          · rfl

/-! ## Pieces -/

theorem pieces_of_readName? {rest name after : List Char}
    (found : readName? rest = some (name, after)) :
    pieces ('<' :: rest) = .name name :: pieces after := by
  rw [pieces, if_pos rfl]
  split
  · next equal =>
      rw [found] at equal
      cases equal
      rfl
  · next equal =>
      rw [found] at equal
      cases equal

theorem pieces_of_readName?_none {rest : List Char} (missing : readName? rest = none) :
    pieces ('<' :: rest) = .character '<' :: pieces rest := by
  rw [pieces, if_pos rfl]
  split
  · next equal =>
      rw [missing] at equal
      cases equal
  · rfl

theorem pieces_cons {character : Char} (notBracket : character ≠ '<') (rest : List Char) :
    pieces (character :: rest) = .character character :: pieces rest := by
  rw [pieces, if_neg notBracket]

theorem pieces_append_of_not_mem {text : List Char} (noBracket : '<' ∉ text)
    (rest : List Char) : pieces (text ++ rest) = text.map Piece.character ++ pieces rest := by
  induction text with
  | nil => rfl
  | cons head tail induction =>
      have different : head ≠ '<' := fun equal => noBracket (equal ▸ List.mem_cons_self)
      rw [List.cons_append, pieces_cons different,
        induction fun member => noBracket (List.mem_cons_of_mem head member)]
      rfl

def Piece.rewrite : Piece → List Piece
  | .character single => (rewriteCharacter single).map Piece.character
  | .name letters => [.name letters]

theorem rewriteCharacter_bracket : rewriteCharacter '<' = ['<'] := rfl

/-- The pieces of the rewritten text are the rewritten pieces of the text. -/
theorem pieces_rewritten (pattern : List Char) :
    pieces (markSections (escapeOperators pattern)) = (pieces pattern).flatMap Piece.rewrite := by
  rw [markSections_escapeOperators]
  fun_induction pieces pattern with
  | case1 => rw [List.flatMap_nil, pieces, List.flatMap_nil]
  | case2 rest name after found induction =>
      have same := readName?_rewritten rest
      rw [found, Option.map_some] at same
      rw [List.flatMap_cons, rewriteCharacter_bracket, List.singleton_append,
        pieces_of_readName? same, induction, List.flatMap_cons]
      rfl
  | case3 rest missing induction =>
      have same := readName?_rewritten rest
      rw [missing, Option.map_none] at same
      rw [List.flatMap_cons, rewriteCharacter_bracket, List.singleton_append,
        pieces_of_readName?_none same, induction, List.flatMap_cons]
      rfl
  | case4 head rest different induction =>
      have noBracket : '<' ∉ rewriteCharacter head := by
        rcases rewriteCharacter_cases head with same | ⟨first, tail, added, _, _, _, _, absent⟩
        · rw [same]
          simpa using fun equal => different equal.symm
        · rwa [added]
      rw [List.flatMap_cons, pieces_append_of_not_mem noBracket, induction,
        List.flatMap_cons]
      rfl

end UriDispatch.Pattern
