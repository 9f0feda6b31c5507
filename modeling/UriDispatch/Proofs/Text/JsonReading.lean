import UriDispatch.Text.Digit
import UriDispatch.Text.Json
import UriDispatch.Text.Reading

/-! Reading JSON texts. Blanks may stand between all parts, and every escape is known, so that the
reader is one for texts of any origin; only numbers and truth values, which are never written here,
are left out. -/

namespace UriDispatch.Text.Json

/-! ## Strings -/

def isBlank (character : Char) : Bool :=
  character = ' ' || character = '\t' || character = '\n' || character = '\r'

def readUnit (input : List Char) : Option (Reading input Nat) :=
  match input with
  | first :: second :: third :: fourth :: rest => do
      let first ← digitValue? 16 first
      let second ← digitValue? 16 second
      let third ← digitValue? 16 third
      let fourth ← digitValue? 16 fourth
      some ⟨((first * 16 + second) * 16 + third) * 16 + fourth, rest, by
        simp only [List.length_cons]; omega⟩
  | _ => none

/-- The character that an escape stands for, which begins after its backslash. A character that does
not fit into four digits is written as a pair of numbers. -/
def readEscape (input : List Char) : Option (Reading input Char) :=
  match input with
  | 'u' :: digits =>
      match readUnit digits with
      | none => none
      | some ⟨unit, rest, shorter⟩ =>
          if 0xD800 ≤ unit ∧ unit < 0xDC00 then
            match equal : rest with
            | '\\' :: 'u' :: lowDigits =>
                match readUnit lowDigits with
                | none => none
                | some ⟨low, after, shorter'⟩ =>
                    if 0xDC00 ≤ low ∧ low < 0xE000 then
                      (character? (0x10000 + (unit - 0xD800) * 0x400 + (low - 0xDC00))).map
                        (⟨·, after, by simp only [List.length_cons] at *; omega⟩)
                    else none
            | _ => none
          else (character? unit).map (⟨·, rest, by simp only [List.length_cons]; omega⟩)
  | letter :: rest =>
      (match letter with
        | '"' => some '"'
        | '\\' => some '\\'
        | '/' => some '/'
        | 'b' => some '\x08'
        | 'f' => some '\x0c'
        | 'n' => some '\n'
        | 'r' => some '\r'
        | 't' => some '\t'
        | _ => none).map (.ofHead letter rest)
  | [] => none

def readText (letters : List Char) (input : List Char) : Option (Reading input String) :=
  match input with
  | [] => none
  | '"' :: rest => some (.ofHead '"' rest (String.ofList letters.reverse))
  | '\\' :: escape =>
      match readEscape escape with
      | none => none
      | some ⟨character, rest, shorter⟩ =>
          (readText (character :: letters) rest).map
            (·.widen (length_le_cons_of_le '\\' (Nat.le_of_lt shorter)))
  | character :: rest =>
      if character.toNat < 0x20 then none
      else (readText (character :: letters) rest).map (·.after character)
termination_by input.length

/-! ## Values -/

def readMark (mark : Char) (input : List Char) : Option (Reading input Unit) :=
  match input with
  | [] => none
  | head :: rest =>
      if isBlank head then (readMark mark rest).map (·.after head)
      else if head = mark then some (.ofHead head rest ())
      else none

mutual
def readValue (input : List Char) : Option (Reading input Json) :=
  match input with
  | 'n' :: 'u' :: 'l' :: 'l' :: rest =>
      some ⟨.null, rest, by simp only [List.length_cons]; omega⟩
  | '"' :: letters => (readText [] letters).map fun text => (text.map .string).after '"'
  | '[' :: inside =>
      match readMark ']' inside with
      | some ⟨_, rest, shorter⟩ => some ⟨.list [], rest, by simp only [List.length_cons]; omega⟩
      | none =>
          match readValue inside with
          | none => none
          | some ⟨first, more, shorter⟩ =>
              match readItems more with
              | none => none
              | some ⟨items, rest, shorter'⟩ =>
                  some ⟨.list (first :: items), rest, by simp only [List.length_cons]; omega⟩
  | '{' :: inside =>
      match readMark '}' inside with
      | some ⟨_, rest, shorter⟩ => some ⟨.object [], rest, by simp only [List.length_cons]; omega⟩
      | none =>
          match readMember inside with
          | none => none
          | some ⟨first, more, shorter⟩ =>
              match readMembers more with
              | none => none
              | some ⟨members, rest, shorter'⟩ =>
                  some ⟨.object (first :: members), rest, by simp only [List.length_cons]; omega⟩
  | head :: rest => if isBlank head then (readValue rest).map (·.after head) else none
  | [] => none
termination_by (input.length, 0)
decreasing_by
  all_goals
    simp only [List.length_cons, Prod.lex_def]
    omega

def readItems (input : List Char) : Option (Reading input (List Json)) :=
  match readMark ']' input with
  | some ⟨_, rest, shorter⟩ => some ⟨[], rest, shorter⟩
  | none =>
      match readMark ',' input with
      | none => none
      | some ⟨_, next, shorter⟩ =>
          match readValue next with
          | none => none
          | some ⟨item, more, shorter'⟩ =>
              match readItems more with
              | none => none
              | some ⟨items, rest, shorter''⟩ => some ⟨item :: items, rest, by omega⟩
termination_by (input.length, 1)
decreasing_by
  all_goals
    simp only [Prod.lex_def]
    omega

def readMember (input : List Char) : Option (Reading input (String × Json)) :=
  match readMark '"' input with
  | none => none
  | some ⟨_, letters, shorter⟩ =>
      match readText [] letters with
      | none => none
      | some ⟨key, afterKey, shorter'⟩ =>
          match readMark ':' afterKey with
          | none => none
          | some ⟨_, afterColon, shorter''⟩ =>
              (readValue afterColon).map fun value =>
                ⟨(key, value.value), value.rest, by have := value.shorter; omega⟩
termination_by (input.length, 1)
decreasing_by
  simp only [Prod.lex_def]
  omega

def readMembers (input : List Char) : Option (Reading input (List (String × Json))) :=
  match readMark '}' input with
  | some ⟨_, rest, shorter⟩ => some ⟨[], rest, shorter⟩
  | none =>
      match readMark ',' input with
      | none => none
      | some ⟨_, next, shorter⟩ =>
          match readMember next with
          | none => none
          | some ⟨member, more, shorter'⟩ =>
              match readMembers more with
              | none => none
              | some ⟨members, rest, shorter''⟩ => some ⟨member :: members, rest, by omega⟩
termination_by (input.length, 2)
decreasing_by
  all_goals
    simp only [Prod.lex_def]
    omega
end

example : (readValue ['{', '"', '"', ':', '[', '[', ']', ',', '[', ']', ']', '}']).map (·.value) =
    some (.object [("", .list [.list [], .list []])]) := by cbv

def read? (text : String) : Option Json :=
  match readValue text.toList with
  | some ⟨value, rest, _⟩ => if rest.all isBlank then some value else none
  | none => none

end UriDispatch.Text.Json
