import UriDispatch.Text.Reading

/-! The lines of a TOML document: blanks, comments and newlines. A reader that finds something
malformed finds nothing. -/

namespace UriDispatch.Toml

/-! ## Blanks and lines -/

def isBlank (character : Char) : Bool := character = ' ' || character = '\t'

def skipBlanks (input : List Char) : List Char := input.dropWhile isBlank

theorem length_skipBlanks_le (input : List Char) : (skipBlanks input).length ≤ input.length :=
  length_dropWhile_le isBlank input

def isPlain (character : Char) : Bool :=
  character = '\t' || (' ' ≤ character && character ≠ '\x7f')

def skipComment (input : List Char) : List Char :=
  match input with
  | '#' :: rest => rest.dropWhile isPlain
  | other => other

theorem length_skipComment_le (input : List Char) :
    (skipComment input).length ≤ input.length := by
  unfold skipComment
  split
  · exact Nat.le_succ_of_le (length_dropWhile_le isPlain _)
  · exact Nat.le_refl _

def readNewline (input : List Char) : Option (Reading input Unit) :=
  match input with
  | '\n' :: rest => some (.ofHead '\n' rest ())
  | '\r' :: '\n' :: rest => some ⟨(), rest, by simp only [List.length_cons]; omega⟩
  | _ => none

def finishLine (input : List Char) :
    Option { rest : List Char // rest.length ≤ input.length - 1 } :=
  have first := length_skipBlanks_le input
  have second := length_skipComment_le (skipBlanks input)
  match equal : skipComment (skipBlanks input) with
  | [] => some ⟨[], Nat.zero_le _⟩
  | head :: tail =>
      (readNewline (head :: tail)).map fun reading => ⟨reading.rest, by
        have := reading.shorter
        rw [equal] at second
        omega⟩

def skipLines (input : List Char) : List Char :=
  match readNewline (skipComment (skipBlanks input)) with
  | some ⟨(), rest, shorter⟩ =>
      have : rest.length < input.length :=
        Nat.lt_of_lt_of_le shorter
          (Nat.le_trans (length_skipComment_le _) (length_skipBlanks_le input))
      skipLines rest
  | none => skipBlanks input
termination_by input.length

theorem length_skipLines_le (input : List Char) : (skipLines input).length ≤ input.length := by
  fun_induction skipLines input with
  | case1 input rest shorter found smaller induction => omega
  | case2 input missing => exact length_skipBlanks_le input

def skipEmptyLines : List Char → List Char
  | [] => []
  | '\r' :: '\n' :: rest => skipEmptyLines rest
  | character :: rest =>
      if isBlank character ∨ character = '\n' then skipEmptyLines rest else character :: rest

theorem length_skipEmptyLines_le (input : List Char) :
    (skipEmptyLines input).length ≤ input.length := by
  fun_induction skipEmptyLines input with
  | case1 => simp
  | case2 rest induction => simp only [List.length_cons]; omega
  | case3 character rest _ _ induction => simp only [List.length_cons]; omega
  | case4 => simp

end UriDispatch.Toml
