import UriDispatch.Proofs.Pattern.Parentheses

/-! Patterns can be recovered. What compiling adds to a pattern can be told apart from all that its
author may have written, whatever backslashes and parentheses stand next to it, so that the source
and the names are enough to get the pattern back. -/

namespace UriDispatch.Pattern

/-! ## Reading back -/

/-- What the author wrote for a text between the anchors, behind some characters that are skipped. A
backslash before a plain operator and the marks of sections have been added to it, and each group that
captures stands for the next name. -/
def recoverFrom : Nat → List String → List Char → List Char
  | _, _, [] => []
  | skipped + 1, names, _ :: rest => recoverFrom skipped names rest
  | 0, names, '(' :: '?' :: ':' :: rest => '(' :: recoverFrom 0 names rest
  | 0, name :: names, '(' :: rest =>
      '<' :: name.toList ++ '>' :: recoverFrom (Fragment.default.length + 1) names rest
  | 0, names, ')' :: '?' :: rest => ')' :: recoverFrom 0 names rest
  | 0, names, '\\' :: single :: rest =>
      if single ∈ plainOperators then single :: recoverFrom 0 names rest
      else '\\' :: recoverFrom 0 names (single :: rest)
  | 0, names, single :: rest => single :: recoverFrom 0 names rest

section Reading

variable (names : List String) (rest : List Char)

theorem recoverFrom_open :
    recoverFrom 0 names ('(' :: '?' :: ':' :: rest) = '(' :: recoverFrom 0 names rest := rfl

theorem recoverFrom_close :
    recoverFrom 0 names (')' :: '?' :: rest) = ')' :: recoverFrom 0 names rest := rfl

theorem recoverFrom_escape (single : Char) :
    recoverFrom 0 names ('\\' :: single :: rest) =
      if single ∈ plainOperators then single :: recoverFrom 0 names rest
      else '\\' :: recoverFrom 0 names (single :: rest) := rfl

theorem recoverFrom_self {single : Char} (notOpen : single ≠ '(') (notClose : single ≠ ')')
    (notBackslash : single ≠ '\\') :
    recoverFrom 0 names (single :: rest) = single :: recoverFrom 0 names rest := by
  rw [recoverFrom] <;> simp [notOpen, notClose, notBackslash]

theorem recoverFrom_skip (part : List Char) :
    recoverFrom part.length names (part ++ rest) = recoverFrom 0 names rest := by
  induction part with
  | nil => rfl
  | cons first part induction => exact induction

end Reading

def recover (source : String) (names : List String) : String :=
  String.ofList (recoverFrom 0 names source.toList.tail.dropLast)

/-! ## Translated characters -/

/-- A text that begins with none of the plain operators. What stands behind a backslash of the author
is always such a text, since each plain operator has a backslash of its own by then. -/
def NoOperator (text : List Char) : Prop :=
  ∀ first ∈ text.head?, first ∉ plainOperators

theorem noOperator_translate (fragments : Fragments) (parts : List Piece) :
    NoOperator (translate fragments parts) := by
  cases parts with
  | nil => exact fun first member => by cases member
  | cons part rest =>
      rw [translate_cons]
      cases part with
      | character single =>
          rw [Piece.translate, translateCharacter]
          split
          · simp [NoOperator, plainOperators]
          · next notOperator =>
              split
              · simp [NoOperator, plainOperators]
              · split
                · simp [NoOperator, plainOperators]
                · simpa [NoOperator] using notOperator
      | name letters => simp [NoOperator, Piece.translate, plainOperators]

theorem recoverFrom_backslash (names : List String) {rest : List Char} (behind : NoOperator rest) :
    recoverFrom 0 names ('\\' :: rest) = '\\' :: recoverFrom 0 names rest := by
  cases rest with
  | nil => rfl
  | cons first rest => rw [recoverFrom_escape, if_neg (behind first rfl)]

theorem recoverFrom_translateCharacter (names : List String) (single : Char) {rest : List Char}
    (behind : NoOperator rest) :
    recoverFrom 0 names (translateCharacter single ++ rest) =
      single :: recoverFrom 0 names rest := by
  unfold translateCharacter
  split
  · next operator =>
      change recoverFrom 0 names ('\\' :: single :: rest) = _
      rw [recoverFrom_escape, if_pos operator]
  · split
    · next isOpen =>
        subst isOpen
        exact recoverFrom_open names rest
    · next notOpen =>
        split
        · next isClose =>
            subst isClose
            exact recoverFrom_close names rest
        · next notClose =>
            by_cases backslash : single = '\\'
            · subst backslash
              exact recoverFrom_backslash names behind
            · exact recoverFrom_self names rest notOpen notClose backslash

/-! ## Translated patterns -/

theorem groupText_empty (name : String) : groupText .empty name = Fragment.default := rfl

theorem recoverFrom_group (name : String) (names : List String) (rest : List Char) :
    recoverFrom 0 (name :: names) ('(' :: Fragment.default ++ [')'] ++ rest) =
      '<' :: name.toList ++ '>' :: recoverFrom 0 names rest := by
  have behind := recoverFrom_skip names rest (Fragment.default ++ [')'])
  rw [List.length_append, List.length_singleton] at behind
  rw [List.cons_append, List.cons_append, recoverFrom, behind]
  exact fun _ opens => by cases opens

theorem recoverFrom_translate (parts : List Piece) :
    recoverFrom 0 (parts.filterMap Piece.name?) (translate .empty parts) =
      parts.flatMap Piece.text := by
  induction parts with
  | nil => rfl
  | cons part rest induction =>
      rw [translate_cons, List.flatMap_cons, ← induction]
      cases part with
      | character single =>
          rw [List.filterMap_cons_none rfl]
          exact recoverFrom_translateCharacter _ single (noOperator_translate .empty rest)
      | name letters =>
          have named : Piece.name? (.name letters) = some (String.ofList letters) := rfl
          rw [List.filterMap_cons_some named, Piece.translate, groupText_empty, recoverFrom_group,
            String.toList_ofList, Piece.text, List.append_assoc, List.singleton_append]

theorem recover_sourceText (pattern : String) :
    recover (sourceText .empty (pieces pattern.toList)) (tokens pattern) = pattern := by
  have cut := (cut_iff pattern.toList _).mpr rfl
  rw [recover, sourceText, String.toList_ofList, List.cons_append, List.tail_cons,
    List.dropLast_concat, tokens, recoverFrom_translate, cut.flatMap_text, String.ofList_toList]

example : recover "^\\\\.(?:([^/.,;?\\n]+))?$" ["id"] = "\\.(<id>)" := by decide +kernel

theorem recover_of_compile {pattern : String} {compiled : CompiledPattern}
    (succeeds : (compile pattern .empty).value = .ok compiled) :
    recover compiled.regex.source compiled.names = pattern := by
  rcases compilesBy_of_compile succeeds with ⟨_, compilation⟩
  rw [text_of_source compilation.built, (source_trace compilation.built).2.1]
  exact recover_sourceText pattern

/-- The source and the names that a pattern is compiled to without fragments tell the pattern, and
no other pattern is compiled to the same ones. -/
theorem recover_compile {pattern : String} {compiled : CompiledPattern}
    (succeeds : (compile pattern .empty).value = .ok compiled) :
    recover compiled.regex.source compiled.names = pattern ∧
    ∀ other found, (compile other .empty).value = .ok found →
      found.regex.source = compiled.regex.source → found.names = compiled.names →
        other = pattern := by
  have recovered := recover_of_compile succeeds
  refine ⟨recovered, ?_⟩
  intro other found succeedsToo sources names
  rw [← recover_of_compile succeedsToo, sources, names, recovered]

theorem recover_compile_of_backslashes : ∃ compiled,
    (compile "\\.\\(<a>\\)<b>\\" .empty).value = .ok compiled ∧
    recover compiled.regex.source compiled.names = "\\.\\(<a>\\)<b>\\" ∧
    ∀ other found, (compile other .empty).value = .ok found →
      found.regex.source = compiled.regex.source → found.names = compiled.names →
        other = "\\.\\(<a>\\)<b>\\" := by
  have accepted : (compile "\\.\\(<a>\\)<b>\\" .empty).value.isOk := by decide +kernel
  cases succeeds : (compile "\\.\\(<a>\\)<b>\\" .empty).value with
  | error error =>
      rw [succeeds] at accepted
      cases accepted
  | ok compiled => exact ⟨compiled, rfl, recover_compile succeeds⟩

end UriDispatch.Pattern
