import UriDispatch.Table
import UriDispatch.Text.Quoted

/-! One-line descriptions of captures, routes and tables, with everything they are made of. The
function behind a route or table has no description and is left out. -/

namespace UriDispatch

open Text

private def quotedMap (map : SortedMap String) : String :=
  "\x7b" ++ ", ".intercalate
    (map.entries.map fun (key, value) => quoted key ++ ": " ++ quoted value) ++ "\x7d"

def CompiledPattern.describe (compiled : CompiledPattern) : String :=
  "CompiledPattern \x7b pattern: " ++ quoted compiled.pattern ++
    ", regex: Regex(" ++ quoted compiled.regex.source ++
    "), names: " ++ quotedList compiled.names ++ " \x7d"

def Capture.describe (capture : Capture) : String :=
  "RouteCapture \x7b compiled: " ++ capture.compiled.describe ++
    ", defaults: " ++ quotedMap capture.defaults ++ " \x7d"

def Route.describe (route : Route) : String :=
  "Route \x7b capture: " ++ route.capture.describe ++ ", .. \x7d"

def NamedRoute.describe (route : NamedRoute) : String :=
  "NamedRoute \x7b name: " ++ quoted route.name ++
    ", capture: " ++ route.capture.describe ++ " \x7d"

def Table.describe (table : Table) : String :=
  "RouteTable \x7b routes: [" ++ ", ".intercalate (table.routes.map (·.describe)) ++
    "], .. \x7d"

end UriDispatch
