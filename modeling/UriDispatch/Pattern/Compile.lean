import UriDispatch.Event
import UriDispatch.Pattern.Source
import UriDispatch.Regex

/-! Patterns in the form in which they are matched. -/

namespace UriDispatch

structure CompiledPattern where
  pattern : String
  regex : Regex
  names : List String
deriving DecidableEq, Repr

inductive CaptureError where
  | duplicateGroup (name : String)
  | unbalancedFragment (name fragment : String)
  | groupCount (expected found : Nat)
  | regex (error : Regex.Error)
deriving DecidableEq, Repr

namespace CaptureError

def message : CaptureError → String
  | .duplicateGroup name => "Named capture group: duplicate group name `" ++ name ++ "`"
  | .unbalancedFragment name fragment =>
      "Unbalanced parentheses in fragment for group `" ++ name ++ "`: " ++ fragment
  | .groupCount expected found =>
      "Capture group count mismatch: expected " ++ toString expected ++ ", regex has " ++
        toString found
  | .regex error => error.message

end CaptureError

namespace Pattern

def SourceError.toCaptureError : SourceError → CaptureError
  | .duplicateName name => .duplicateGroup name
  | .unbalancedFragment name fragment => .unbalancedFragment name fragment

/-- The pattern with the regular expression from its source. There has to be one capture for
each name, since captures are told apart by their order alone. -/
def build (pattern : String) (source : String) (names : List String) :
    Except CaptureError CompiledPattern :=
  match Regex.compile source with
  | .error error => .error (.regex error)
  | .ok regex =>
      if regex.captureCount = names.length then .ok ⟨pattern, regex, names⟩
      else .error (.groupCount names.length regex.captureCount)

def undeclared (fragments : Fragments) (names : List String) : List String :=
  fragments.keys.filter (· ∉ names)

def compile (pattern : String) (fragments : Fragments) :
    Logged (Except CaptureError CompiledPattern) :=
  match source pattern fragments with
  | .error error => pure (.error (SourceError.toCaptureError error))
  | .ok (source, names) => do
      .reportAll ((undeclared fragments names).map (.undeclaredGroup pattern))
      match build pattern source names with
      | .error error => return .error error
      | .ok compiled =>
          .report (.patternCompiled pattern source names)
          return .ok compiled

end Pattern

end UriDispatch
