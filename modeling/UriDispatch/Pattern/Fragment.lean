/-! Fragments: regular expressions that an author gives for single groups of a pattern. A
fragment is put between the parentheses of its group, so its own groups are kept from capturing,
and its parentheses have to be balanced. -/

namespace UriDispatch.Fragment

def default : List Char := "[^/.,;?\\n]+".toList

/-- Inside a class parentheses are members. At its start a bracket is one too. -/
inductive Context where
  | outside
  | classStart
  | afterNegation
  | inClass
deriving DecidableEq, Repr

/-- The fragment with each of its plain groups turned into one that does not capture, unless its
parentheses outside of classes are not balanced. A backslash takes away the meaning of the
character after it. -/
def demoteFrom (depth : Nat) : Context → List Char → Option (List Char)
  | _, [] => if depth = 0 then some [] else none
  | _, ['\\'] => if depth = 0 then some ['\\'] else none
  | context, '\\' :: escaped :: rest =>
      let next := if context = .outside then .outside else Context.inClass
      (demoteFrom depth next rest).map ('\\' :: escaped :: ·)
  | .outside, '[' :: rest => (demoteFrom depth .classStart rest).map ('[' :: ·)
  | .outside, '(' :: rest =>
      let mark := if rest.head? = some '?' then ['('] else ['(', '?', ':']
      (demoteFrom (depth + 1) .outside rest).map (mark ++ ·)
  | .outside, ')' :: rest =>
      match depth with
      | 0 => none
      | depth + 1 => (demoteFrom depth .outside rest).map (')' :: ·)
  | .outside, character :: rest => (demoteFrom depth .outside rest).map (character :: ·)
  | .classStart, '^' :: rest => (demoteFrom depth .afterNegation rest).map ('^' :: ·)
  | .inClass, ']' :: rest => (demoteFrom depth .outside rest).map (']' :: ·)
  | _, character :: rest => (demoteFrom depth .inClass rest).map (character :: ·)

def demote (fragment : List Char) : Option (List Char) := demoteFrom 0 .outside fragment

example : demote "(a|[)(]\\))".toList = some "(?:a|[)(]\\))".toList := by cbv
example : demote "(?i)[]()]".toList = some "(?i)[]()]".toList := by cbv
example : demote ")(".toList = none := by cbv

end UriDispatch.Fragment
