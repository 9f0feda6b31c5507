import UriDispatch.SortedMap

/-! The result of matching a URI: text for each group that took part, and an entry without text
for each declared group that did not. -/

namespace UriDispatch

abbrev Params := SortedMap (Option String)

/-- Values that a route supplies for groups without text, and for names of its own. -/
abbrev Defaults := SortedMap String

namespace Params

def text? (params : Params) (name : String) : Option String := (params.get? name).join

def absent (names : List String) : Params := .ofList (names.map (·, none))

def overlay (params : Params) (defaults : Defaults) : Params :=
  params.insertMany (defaults.entries.map fun entry => (entry.1, some entry.2))

private def example₁ : Params := .ofList [("page", none), ("id", some "7"), ("page", some "")]

example : example₁.text? "page" = some "" := by decide
example : example₁.keys = ["id", "page"] := by decide

end Params

end UriDispatch
