import UriDispatch.Text.Digit
import UriDispatch.Toml.Line

/-! The strings of a TOML document: between quotation marks with escapes, or between apostrophes
without; on one line between single marks, or on several between triple ones. -/

namespace UriDispatch.Toml

open Text (character? digitValue?)

private def hexadecimal? (digits : List Char) : Option Nat :=
  digits.foldl (fun value digit => do return 16 * (← value) + (← digitValue? 16 digit)) (some 0)

private def readCodePoint (count : Nat) (input : List Char) : Option (Char × List Char) := do
  let digits := input.take count
  if digits.length < count then none
  let character ← character? (← hexadecimal? digits)
  return (character, input.drop count)

private def readEscape (input : List Char) : Option (Char × List Char) :=
  match input with
  | 'b' :: rest => some ('\x08', rest)
  | 't' :: rest => some ('\t', rest)
  | 'n' :: rest => some ('\n', rest)
  | 'f' :: rest => some ('\x0c', rest)
  | 'r' :: rest => some ('\r', rest)
  | '"' :: rest => some ('"', rest)
  | '\\' :: rest => some ('\\', rest)
  | 'u' :: rest => readCodePoint 4 rest
  | 'U' :: rest => readCodePoint 8 rest
  | _ => none

private theorem length_readEscape_le {input rest : List Char} {character : Char}
    (found : readEscape input = some (character, rest)) : rest.length ≤ input.length := by
  have codePoint {count : Nat} {tail : List Char}
      (found : readCodePoint count tail = some (character, rest)) :
      rest.length ≤ tail.length := by
    simp only [readCodePoint, Option.bind_eq_bind, Option.pure_def] at found
    split at found
    · simp at found
    · simp only [Option.bind_eq_some_iff] at found
      rcases found with ⟨_, _, _, _, equal⟩
      cases equal
      simp
  unfold readEscape at found
  split at found
  case h_8 => exact Nat.le_succ_of_le (codePoint found)
  case h_9 => exact Nat.le_succ_of_le (codePoint found)
  all_goals first | (cases found; simp) | cases found

private def readBasic (read : List Char) (input : List Char) : Option (Reading input String) :=
  match input with
  | [] => none
  | '"' :: rest => some (.ofHead '"' rest (String.ofList read.reverse))
  | '\\' :: rest =>
      match found : readEscape rest with
      | none => none
      | some (character, after) =>
          have fits := length_readEscape_le found
          (readBasic (character :: read) after).map (·.widen (by
            simp only [List.length_cons]; omega))
  | character :: rest =>
      if isPlain character then (readBasic (character :: read) rest).map (·.after character)
      else none
termination_by input.length

private def readLiteral (read : List Char) (input : List Char) : Option (Reading input String) :=
  match input with
  | [] => none
  | '\'' :: rest => some (.ofHead '\'' rest (String.ofList read.reverse))
  | character :: rest =>
      if isPlain character then (readLiteral (character :: read) rest).map (·.after character)
      else none

/-- After three closing marks, up to two more of them belong to the string: the rest, and the
marks that do. -/
private def extraMarks (mark : Char) (read : List Char) : (rest : List Char) →
    List Char × { after : List Char // after.length ≤ rest.length }
  | [] => (read, ⟨[], Nat.le_refl _⟩)
  | [first] => if first = mark then (first :: read, ⟨[], by simp⟩) else (read, ⟨[first], by simp⟩)
  | first :: second :: rest =>
      if first = mark then
        if second = mark then
          (second :: first :: read, ⟨rest, by simp only [List.length_cons]; omega⟩)
        else (first :: read, ⟨second :: rest, by simp⟩)
      else (read, ⟨first :: second :: rest, Nat.le_refl _⟩)

/-- A string of several lines up to three closing marks. Between quotation marks there are
escapes, of which one stands for the end of its line and all blanks after it. -/
private def readLines (mark : Char) (read : List Char) (input : List Char) :
    Option (Reading input String) :=
  match input with
  | [] => none
  | character :: rest =>
      if character = mark ∧ rest.take 2 = [mark, mark] then
        let (read, ⟨after, fits⟩) := extraMarks mark read (rest.drop 2)
        some ⟨String.ofList read.reverse, after, by
          simp only [List.length_cons, List.length_drop] at *; omega⟩
      else
        match readNewline (character :: rest) with
        | some ⟨(), after, shorter⟩ =>
            (readLines mark ('\n' :: read) after).map (·.widen (Nat.le_of_lt shorter))
        | none =>
            if mark = '"' ∧ character = '\\' then
              match readNewline (skipBlanks rest) with
              | some ⟨(), after, shorter⟩ =>
                  have first := length_skipBlanks_le rest
                  have second := length_skipEmptyLines_le after
                  (readLines mark read (skipEmptyLines after)).map (·.widen (by
                    simp only [List.length_cons]; omega))
              | none =>
                  match found : readEscape rest with
                  | none => none
                  | some (escaped, after) =>
                      have fits := length_readEscape_le found
                      (readLines mark (escaped :: read) after).map (·.widen (by
                        simp only [List.length_cons]; omega))
            else if isPlain character then
              (readLines mark (character :: read) rest).map (·.after character)
            else none
termination_by input.length
decreasing_by
  all_goals
    simp only [List.length_cons] at *
    omega

private def skipFirstNewline (input : List Char) : List Char :=
  (readNewline input).elim input (·.rest)

private theorem length_skipFirstNewline_le (input : List Char) :
    (skipFirstNewline input).length ≤ input.length := by
  unfold skipFirstNewline
  cases readNewline input with
  | none => exact Nat.le_refl _
  | some reading => exact Nat.le_of_lt reading.shorter

def readShortString (mark : Char) (input : List Char) : Option (Reading input String) :=
  if mark = '"' then readBasic [] input else readLiteral [] input

def readString (input : List Char) : Option (Reading input String) :=
  match input with
  | [] => none
  | mark :: rest =>
      if mark = '"' ∨ mark = '\'' then
        if rest.take 2 = [mark, mark] then
          (readLines mark [] (skipFirstNewline (rest.drop 2))).map (·.widen (by
            have := length_skipFirstNewline_le (rest.drop 2)
            simp only [List.length_cons, List.length_drop] at *; omega))
        else (readShortString mark rest).map (·.after mark)
      else none

end UriDispatch.Toml
