import UriDispatch.RouteFile.Schema
import UriDispatch.RouteFile.Validation

/-! Route files from their text, and from what is stored under their name. -/

namespace UriDispatch

inductive RouteFileError where
  | absent
  | notText
  | malformed
  | schema (error : RouteFile.SchemaError)
  | invalid (errors : List ValidationError)
deriving DecidableEq, Repr

def RouteFileError.message : RouteFileError → String
  | .absent => "IO error: No such file or directory (os error 2)"
  | .notText => "IO error: stream did not contain valid UTF-8"
  | .malformed => "Parse error: not a TOML document"
  | .schema error => error.message
  | .invalid errors => "Validation failed: " ++ ", ".intercalate (errors.map (·.message))

namespace RouteFile

def parse (text : String) : Logged (Except RouteFileError RouteFile) :=
  match Toml.parse text with
  | none => pure (.error .malformed)
  | some entries =>
      match ofEntries entries with
      | .error error => pure (.error (.schema error))
      | .ok file => do
          let errors ← validate file.routes
          return if errors.isEmpty then .ok file else .error (.invalid errors)

abbrev Stored := Option ByteArray

def load (stored : Stored) : Logged (Except RouteFileError RouteFile) :=
  match stored with
  | none => pure (.error .absent)
  | some bytes =>
      match String.fromUTF8? bytes with
      | none => pure (.error .notText)
      | some text => do
          match ← parse text with
          | .error error => return .error error
          | .ok file =>
              .report (.routeFileLoaded file.routes.length)
              return .ok file

end RouteFile

end UriDispatch
