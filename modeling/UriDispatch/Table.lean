import UriDispatch.Route

/-! Tables of named routes. Routes are tried in the order in which they were added, and the
first that matches a URI wins. -/

namespace UriDispatch

structure NamedRoute where
  name : String
  capture : Capture
deriving DecidableEq

structure RouteDefinition where
  name : String
  pattern : String
  groups : Fragments
  defaults : Defaults
deriving DecidableEq

inductive RouteError where
  | emptyPattern (route : String)
  | duplicateRoute (route : String)
  | compile (route : String) (cause : CaptureError)
deriving DecidableEq, Repr

def RouteError.message : RouteError → String
  | .emptyPattern route => "uri-route: empty pattern for route `" ++ route ++ "`"
  | .duplicateRoute route => "uri-route: route name `" ++ route ++ "` already exists"
  | .compile route cause => "uri-route: route `" ++ route ++ "`: " ++ cause.message

structure Resolution where
  route : String
  params : Params
deriving DecidableEq

structure Table where
  routes : List NamedRoute
deriving DecidableEq

namespace Table

def empty : Table := ⟨[]⟩

instance : EmptyCollection Table := ⟨empty⟩

def names (table : Table) : List String := table.routes.map (·.name)

def size (table : Table) : Nat := table.routes.length

def isEmpty (table : Table) : Bool := table.routes.isEmpty

def get? (table : Table) (name : String) : Option Capture :=
  (table.routes.find? (·.name = name)).map (·.capture)

/-! ## Adding routes -/

/-- The table with one more route at its end. The pattern may not be empty and the name may not
be taken, which is looked at before the pattern is compiled. -/
def add (table : Table) (name pattern : String) (fragments : Fragments) :
    Logged (Except RouteError Table) :=
  if pattern.isEmpty then pure (.error (.emptyPattern name))
  else if (table.get? name).isSome then pure (.error (.duplicateRoute name))
  else do
    match ← Capture.compile pattern fragments with
    | .error cause => return .error (.compile name cause)
    | .ok capture =>
        .report (.routeRegistered name pattern capture.source)
        return .ok ⟨table.routes ++ [⟨name, capture⟩]⟩

def setDefaults (table : Table) (defaults : Defaults) : Logged Table :=
  match table.routes.getLast? with
  | none => do
      .report .defaultsIgnored
      return table
  | some last =>
      pure ⟨table.routes.dropLast ++
        [{ last with capture := last.capture.setDefaults defaults }]⟩

def addAll (table : Table) : List RouteDefinition → Logged (Except RouteError Table)
  | [] => pure (.ok table)
  | definition :: rest => do
      match ← table.add definition.name definition.pattern definition.groups with
      | .error error => return .error error
      | .ok table => (← table.setDefaults definition.defaults).addAll rest

def ofDefinitions (definitions : List RouteDefinition) : Logged (Except RouteError Table) :=
  empty.addAll definitions

/-! ## Dispatch -/

def resolveAmong (uri : String) : List NamedRoute → Logged (Option Resolution)
  | [] => pure none
  | route :: rest => do
      match ← route.capture.exec uri with
      | some params => return some ⟨route.name, params⟩
      | none => resolveAmong uri rest

def resolve (table : Table) (uri : String) : Logged (Option Resolution) :=
  resolveAmong uri table.routes

def submit (table : Table) (uri : String) : Logged (Option Call) := do
  match ← table.resolve uri with
  | some found =>
      .report (.routeMatched found.route uri)
      return some ⟨found.params, uri⟩
  | none =>
      .report (.noRouteMatched uri)
      return none

end Table

end UriDispatch
