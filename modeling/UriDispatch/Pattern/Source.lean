import UriDispatch.Pattern.Fragment
import UriDispatch.SortedMap

/-! From the text of a pattern to the source of a regular expression. In a pattern a few
operators of regular expressions are plain text, parentheses mark a section that may be left
out, and a name between angle brackets is a group that captures. -/

namespace UriDispatch

abbrev Fragments := SortedMap String

namespace Pattern

/-! ## Plain text and sections -/

def plainOperators : List Char := ['.', '*', '+', '?', '^', '$']

def escapeOperators (pattern : List Char) : List Char :=
  pattern.flatMap fun character =>
    if character ∈ plainOperators then ['\\', character] else [character]

def markSections (pattern : List Char) : List Char :=
  pattern.flatMap fun
    | '(' => ['(', '?', ':']
    | ')' => [')', '?']
    | character => [character]

/-! ## Names -/

/-- What can be told apart in a rewritten pattern: single characters, and names between angle
brackets. -/
inductive Piece where
  | character (character : Char)
  | name (name : List Char)
deriving DecidableEq, Repr

def isNameCharacter (character : Char) : Bool :=
  character.isAlphanum || character = '-' || character = '_' || character = ' '

def readName? (text : List Char) : Option (List Char × List Char) :=
  let name := text.takeWhile isNameCharacter
  match text.dropWhile isNameCharacter with
  | '>' :: rest => if name.isEmpty then none else some (name, rest)
  | _ => none

theorem length_readName? {text name rest : List Char}
    (found : readName? text = some (name, rest)) : rest.length < text.length := by
  have suffix := (List.dropWhile_suffix isNameCharacter (l := text)).length_le
  simp only [readName?] at found
  split at found
  · next equal =>
      rw [equal] at suffix
      split at found
      · cases found
      · cases found
        exact suffix
  · cases found

def pieces (text : List Char) : List Piece :=
  match text with
  | [] => []
  | character :: rest =>
      if character = '<' then
        match _found : readName? rest with
        | some (name, after) => .name name :: pieces after
        | none => .character character :: pieces rest
      else .character character :: pieces rest
termination_by text.length
decreasing_by
  · exact Nat.lt_succ_of_lt (length_readName? ‹_›)
  all_goals simp

/-! ## Groups -/

inductive SourceError where
  | duplicateName (name : String)
  | unbalancedFragment (name fragment : String)
deriving DecidableEq, Repr

def groupBody (fragments : Fragments) (name : String) : Except SourceError (List Char) :=
  match fragments.get? name with
  | none => .ok Fragment.default
  | some fragment =>
      match Fragment.demote fragment.toList with
      | none => .error (.unbalancedFragment name fragment)
      | some demoted => .ok demoted

def splice (fragments : Fragments) (seen : List String) :
    List Piece → Except SourceError (List Char × List String)
  | [] => .ok ([], seen)
  | .character character :: rest =>
      (splice fragments seen rest).map fun (text, names) => (character :: text, names)
  | .name name :: rest =>
      let name := String.ofList name
      if name ∈ seen then .error (.duplicateName name)
      else
        match groupBody fragments name with
        | .error error => .error error
        | .ok body =>
            (splice fragments (seen ++ [name]) rest).map fun (text, names) =>
              ('(' :: body ++ ')' :: text, names)

def source (pattern : String) (fragments : Fragments) :
    Except SourceError (String × List String) :=
  (splice fragments [] (pieces (markSections (escapeOperators pattern.toList)))).map
    fun (body, names) => (String.ofList ('^' :: body ++ ['$']), names)

example : (source "/a.b(/<id>)" (.ofList [("id", "(x|y)")])).toOption =
    some ("^/a\\.b(?:/((?:x|y)))?$", ["id"]) := by decide +kernel

end Pattern

end UriDispatch
