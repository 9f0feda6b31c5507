import UriDispatch.CommandLine.Arguments
import UriDispatch.RouteFile.Load
import UriDispatch.Text.Json

/-! What the commands write, and how they end. -/

namespace UriDispatch.CommandLine

open Text (Json)

inductive Outcome where
  | success (output : String)
  | failure (message : String)
  | misuse
deriving DecidableEq, Repr

namespace Outcome

def code : Outcome → Nat
  | .success _ => 0
  | .failure _ => 1
  | .misuse => 2

def output : Outcome → String
  | .success output => output
  | .failure _ | .misuse => ""

end Outcome

private def textList (texts : List String) : Json := .list (texts.map .string)

def compiledJson (compiled : CompiledPattern) : Json :=
  .object [("names", textList compiled.names), ("pattern", .string compiled.pattern),
    ("regex", .string compiled.regex.source)]

def paramsJson (params : Params) : Json :=
  .object (params.entries.map fun (name, text) => (name, text.elim .null .string))

def resolutionJson (uri : String) (resolution : Option Resolution) : Json :=
  .object [("params", resolution.elim .null (paramsJson ·.params)),
    ("route", resolution.elim .null (.string ·.route)), ("uri", .string uri)]

def line (text : String) : String := text ++ "\n"

def runCompile (pattern : String) (groups : List (String × String)) : Outcome :=
  match (Pattern.compile pattern (.ofList groups)).value with
  | .error error => .failure error.message
  | .ok compiled => .success (line (compiledJson compiled).indented)

def runResolve (stored : RouteFile.Stored) (uris : List String) : Outcome :=
  match (RouteFile.load stored).value with
  | .error error => .failure error.message
  | .ok file =>
      match (Table.ofDefinitions file.routes).value with
      | .error error => .failure error.message
      | .ok table =>
          .success (String.join (uris.map fun uri =>
            line (resolutionJson uri (table.resolve uri).value).compact))

def Command.run (storage : String → RouteFile.Stored) : Command → Outcome
  | .compile pattern groups => runCompile pattern groups
  | .resolve file uris => runResolve (storage file) uris

def run (storage : String → RouteFile.Stored) (arguments : List String) : Outcome :=
  match Command.read? arguments with
  | none => .misuse
  | some command => command.run storage

end UriDispatch.CommandLine
