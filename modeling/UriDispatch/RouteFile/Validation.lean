import UriDispatch.Table

/-! Checking the routes of a file before they are used. Every route is looked at, and all that
is wrong is reported. -/

namespace UriDispatch

inductive ValidationError where
  | emptyName (index : Nat)
  | emptyPattern (route : String)
  | duplicateRoute (route : String)
  | invalidPattern (route reason : String)
deriving DecidableEq, Repr

def ValidationError.message : ValidationError → String
  | .emptyName index => "route #" ++ toString index ++ " has an empty name"
  | .emptyPattern route => "route `" ++ route ++ "` has an empty pattern"
  | .duplicateRoute route => "route `" ++ route ++ "` is defined more than once"
  | .invalidPattern route reason =>
      "route `" ++ route ++ "` has an invalid pattern: " ++ reason

namespace RouteFile

def isBlankName (name : String) : Bool := name.toList.all Unicode.isBlank

/-- What is wrong with the name of a route, where `seen` are the names of the routes before it
that are not blank. -/
def nameErrors (seen : List String) (index : Nat) (name : String) :
    List ValidationError :=
  if isBlankName name then [.emptyName index]
  else if name ∈ seen then [.duplicateRoute name]
  else []

def patternErrors (definition : RouteDefinition) : Logged (List ValidationError) :=
  if definition.pattern.isEmpty then pure [.emptyPattern definition.name]
  else do
    match ← Pattern.compile definition.pattern definition.groups with
    | .ok _ => return []
    | .error error => return [.invalidPattern definition.name error.message]

def errorsFrom (seen : List String) (index : Nat) :
    List RouteDefinition → Logged (List ValidationError)
  | [] => pure []
  | definition :: rest => do
      let name := definition.name
      let seen' := if isBlankName name then seen else name :: seen
      let ofPattern ← patternErrors definition
      let ofRest ← errorsFrom seen' (index + 1) rest
      return nameErrors seen index name ++ ofPattern ++ ofRest

def validate (definitions : List RouteDefinition) : Logged (List ValidationError) :=
  errorsFrom [] 0 definitions

end RouteFile

end UriDispatch
