import UriDispatch.Table
import UriDispatch.Text.Quoted
import UriDispatch.Toml.Document

/-! The shape of a route file. Its values are read in the order in which they stand in the
document, and the first that has the wrong type ends the reading. Keys without a meaning are left
alone. -/

namespace UriDispatch

structure RouteFile where
  logLevel : String
  routes : List RouteDefinition
deriving DecidableEq

namespace RouteFile

/-! ## Types of values -/

inductive Found where
  | integer (value : Int)
  | float (value : Binary64)
  | boolean (value : Bool)
  | string (text : String)
  | sequence
  | map
deriving DecidableEq, Repr

inductive Expected where
  | string
  | sequence
  | map
  | route
  | observability
deriving DecidableEq, Repr

inductive SchemaError where
  | wrongType (found : Found) (expected : Expected)
  | missingField (name : String)
  | tooShort (length : Nat)
deriving DecidableEq, Repr

/-- A date or a time counts as a map. -/
def Found.of : Toml.Value → Found
  | .string text => .string text
  | .integer value => .integer value
  | .float value => .float value
  | .boolean value => .boolean value
  | .moment _ => .map
  | .array _ _ => .sequence
  | .table _ _ => .map

def Found.message : Found → String
  | .integer value => "integer `" ++ toString value ++ "`"
  | .float value => "floating point `" ++ value.text ++ "`"
  | .boolean value => "boolean `" ++ (if value then "true" else "false") ++ "`"
  | .string text => "string " ++ Text.quoted text
  | .sequence => "sequence"
  | .map => "map"

def Expected.message : Expected → String
  | .string => "a string"
  | .sequence => "a sequence"
  | .map => "a map"
  | .route => "struct RouteConfig"
  | .observability => "struct ObservabilityConfig"

def SchemaError.message : SchemaError → String
  | .wrongType found expected =>
      "invalid type: " ++ found.message ++ ", expected " ++ expected.message
  | .missingField name => "missing field `" ++ name ++ "`"
  | .tooShort length =>
      "invalid length " ++ toString length ++ ", expected struct RouteConfig with 4 elements"

abbrev Checked := Except SchemaError

private def wrongType {Value : Type} (found : Toml.Value) (expected : Expected) : Checked Value :=
  .error (.wrongType (.of found) expected)

/-! ## Texts and maps of texts -/

private def textOf : Toml.Value → Checked String
  | .string text => .ok text
  | other => wrongType other .string

/-- The key under which a moment appears where a map of texts is wanted. -/
private def momentKey : String := "$__toml_private_datetime"

private def textsOf : Toml.Value → Checked (SortedMap String)
  | .table _ entries => do
      return .ofList (← entries.mapM fun (key, value) => return (key, ← textOf value))
  | .moment value => .ok (.ofList [(momentKey, value.text)])
  | other => wrongType other .map

/-! ## Records

A record is a table of its fields, or an array that holds them in a fixed order. -/

private def fieldsOf (names : List String) (expected : Expected) :
    Toml.Value → Checked (List (String × Toml.Value))
  | .table _ entries => .ok entries
  | .array _ items => .ok (names.zip items)
  | .moment _ => .ok []
  | other => wrongType other expected

private structure RouteFields where
  name : Option String
  pattern : Option String
  groups : Fragments
  defaults : Defaults

namespace RouteFields

def add (fields : RouteFields) (key : String) (value : Toml.Value) : Checked RouteFields := do
  match key with
  | "name" => return { fields with name := some (← textOf value) }
  | "pattern" => return { fields with pattern := some (← textOf value) }
  | "groups" => return { fields with groups := ← textsOf value }
  | "defaults" => return { fields with defaults := ← textsOf value }
  | _ => return fields

def missing (source : Toml.Value) (name : String) : SchemaError :=
  match source with
  | .array _ items => .tooShort items.length
  | _ => .missingField name

end RouteFields

private def routeOf (value : Toml.Value) : Checked RouteDefinition := do
  let entries ← fieldsOf ["name", "pattern", "groups", "defaults"] .route value
  let fields ← entries.foldlM (fun fields (key, value) => RouteFields.add fields key value)
    ⟨none, none, .empty, .empty⟩
  match fields.name, fields.pattern with
  | some name, some pattern => return ⟨name, pattern, fields.groups, fields.defaults⟩
  | none, _ => throw (RouteFields.missing value "name")
  | some _, none => throw (RouteFields.missing value "pattern")

def routesOf : Toml.Value → Checked (List RouteDefinition)
  | .array _ items => items.mapM routeOf
  | other => wrongType other .sequence

def defaultLogLevel : String := "info"

def logLevelOf (value : Toml.Value) : Checked String := do
  let entries ← fieldsOf ["log_level"] .observability value
  entries.foldlM (fun level (key, value) => if key = "log_level" then textOf value else .ok level)
    defaultLogLevel

def addSection (file : RouteFile) (key : String) (value : Toml.Value) :
    Checked RouteFile := do
  match key with
  | "observability" => return { file with logLevel := ← logLevelOf value }
  | "routes" => return { file with routes := ← routesOf value }
  | _ => return file

def ofEntries (entries : Toml.Entries) : Checked RouteFile :=
  entries.foldlM (fun file (key, value) => addSection file key value) ⟨defaultLogLevel, []⟩

end RouteFile

end UriDispatch
