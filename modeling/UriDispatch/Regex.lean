import UriDispatch.Regex.Matching
import UriDispatch.Regex.Meaning
import UriDispatch.Regex.Parser
import UriDispatch.Regex.Size

/-! Regular expressions: a source that has been found to be well formed, with its meaning. -/

namespace UriDispatch

structure Regex where
  source : String
  expression : Regex.Expression
deriving DecidableEq, Repr

namespace Regex

inductive Error where
  | malformed (source : String) (fault : Fault)
  | tooLarge
deriving DecidableEq, Repr

def Error.message : Error → String
  | .malformed source fault => fault.message source.toList
  | .tooLarge => "Compiled regex exceeds size limit of " ++ toString sizeLimit ++ " bytes."

/-- The meaning of a source, whatever its size. -/
def meaning (source : List Char) : Except Fault Expression :=
  match parse source with
  | .error fault => .error fault
  | .ok tree => (tree.meaning {}).map (·.1)

def compile (source : String) : Except Error Regex :=
  match meaning source.toList with
  | .error fault => .error (.malformed source fault)
  | .ok expression =>
      if sizeLimit < expression.size then .error .tooLarge else .ok ⟨source, expression⟩

/-- The greatest number of a capture. Captures are numbered where they are written, so those of a
part that is never taken leave gaps. -/
def captureCount (regex : Regex) : Nat := regex.expression.captures.foldl max 0

def find? (regex : Regex) (text : List Char) : Option Match := regex.expression.find? text

def isMatch (regex : Regex) (text : List Char) : Bool := (regex.find? text).isSome

end Regex

end UriDispatch
