import UriDispatch.Params
import UriDispatch.Pattern.Compile

/-! Matching URIs against one pattern. -/

namespace UriDispatch

structure Capture where
  compiled : CompiledPattern
  defaults : Defaults
deriving DecidableEq

namespace Capture

def compile (pattern : String) (fragments : Fragments) :
    Logged (Except CaptureError Capture) := do
  return (← Pattern.compile pattern fragments).map (⟨·, .empty⟩)

def setDefaults (capture : Capture) (defaults : Defaults) : Capture := { capture with defaults }

def pattern (capture : Capture) : String := capture.compiled.pattern

def source (capture : Capture) : String := capture.compiled.regex.source

def names (capture : Capture) : List String := capture.compiled.names

def isMatch (capture : Capture) (uri : String) : Bool :=
  capture.compiled.regex.isMatch uri.toList

def captured (capture : Capture) (uri : List Char) (found : Regex.Match) :
    List (String × Option String) :=
  capture.names.zipIdx.filterMap fun (name, index) =>
    (found.capture? (index + 1)).map fun (start, stop) =>
      (name, some (String.ofList ((uri.drop start).take (stop - start))))

/-- The parameters of a match: nothing for each name, then the defaults over that, then the text
of the groups over both. -/
def params (capture : Capture) (uri : List Char) (found : Regex.Match) : Params :=
  ((Params.absent capture.names).overlay capture.defaults).insertMany
    (capture.captured uri found)

def exec (capture : Capture) (uri : String) : Logged (Option Params) :=
  match capture.compiled.regex.find? uri.toList with
  | none => do
      .report (.uriMissed capture.pattern uri)
      return none
  | some found => do
      .report (.uriMatched capture.pattern uri)
      return some (capture.params uri.toList found)

end Capture

end UriDispatch
