/-! What can be wrong with the source of a regular expression, and how that is shown to its
author: the source, with a caret under each character at fault, and the cause in words. -/

namespace UriDispatch.Regex

/-! ## Places

A place in a source is the number of characters after it. A reader that holds the rest of its
input thus always knows where it is. -/

abbrev Place := Nat

structure Span where
  start : Place
  stop : Place
deriving DecidableEq, Repr

namespace Span

def between (start stop : List Char) : Span := ⟨start.length, stop.length⟩

def emptyAt (rest : List Char) : Span := between rest rest

def head (rest : List Char) : Span := between rest (rest.drop 1)

end Span

/-! ## Causes -/

inductive Cause where
  | classEscape
  | classRangeOrder
  | classRangeBoundary
  | classUnclosed
  | decimalTooLarge
  | hexadecimalEmpty
  | hexadecimalNoCharacter
  | hexadecimalDigit
  | escapeCutOff
  | escapeUnknown
  | negationDangling
  | flagRepeated
  | negationRepeated
  | flagCutOff
  | flagUnknown
  | nameRepeated
  | nameEmpty
  | nameCharacter
  | nameCutOff
  | groupUnclosed
  | groupUnopened
  | nestedTooDeep
  | countOrder
  | countWithoutDecimal
  | countUnclosed
  | repetitionWithoutOperand
  | boundaryUnclosed
  | boundaryUnknown
  | boundaryCutOff
  | propertyName
  | backreference
  | lookAround
  | unicodeNotAllowed
  | invalidEncoding
  | propertyUnknown
  | propertyValueUnknown
deriving DecidableEq, Repr

def nestingLimit : Nat := 250

def Cause.message : Cause → String
  | .classEscape => "invalid escape sequence found in character class"
  | .classRangeOrder => "invalid character class range, the start must be <= the end"
  | .classRangeBoundary => "invalid range boundary, must be a literal"
  | .classUnclosed => "unclosed character class"
  | .decimalTooLarge => "decimal literal invalid"
  | .hexadecimalEmpty => "hexadecimal literal empty"
  | .hexadecimalNoCharacter => "hexadecimal literal is not a Unicode scalar value"
  | .hexadecimalDigit => "invalid hexadecimal digit"
  | .escapeCutOff => "incomplete escape sequence, reached end of pattern prematurely"
  | .escapeUnknown => "unrecognized escape sequence"
  | .negationDangling => "dangling flag negation operator"
  | .flagRepeated => "duplicate flag"
  | .negationRepeated => "flag negation operator repeated"
  | .flagCutOff => "expected flag but got end of regex"
  | .flagUnknown => "unrecognized flag"
  | .nameRepeated => "duplicate capture group name"
  | .nameEmpty => "empty capture group name"
  | .nameCharacter => "invalid capture group character"
  | .nameCutOff => "unclosed capture group name"
  | .groupUnclosed => "unclosed group"
  | .groupUnopened => "unopened group"
  | .nestedTooDeep =>
      "exceed the maximum number of nested parentheses/brackets (" ++
        toString nestingLimit ++ ")"
  | .countOrder => "invalid repetition count range, the start must be <= the end"
  | .countWithoutDecimal => "repetition quantifier expects a valid decimal"
  | .countUnclosed => "unclosed counted repetition"
  | .repetitionWithoutOperand => "repetition operator missing expression"
  | .boundaryUnclosed =>
      "special word boundary assertion is either unclosed or contains an invalid character"
  | .boundaryUnknown =>
      "unrecognized special word boundary assertion, valid choices are: start, end, " ++
        "start-half or end-half"
  | .boundaryCutOff =>
      "found either the beginning of a special word boundary or a bounded repetition on a \\b " ++
        "with an opening brace, but no closing brace"
  | .propertyName => "invalid Unicode character class"
  | .backreference => "backreferences are not supported"
  | .lookAround => "look-around, including look-ahead and look-behind, is not supported"
  | .unicodeNotAllowed => "Unicode not allowed here"
  | .invalidEncoding => "pattern can match invalid UTF-8"
  | .propertyUnknown => "Unicode property not found"
  | .propertyValueUnknown => "Unicode property value not found"

/-- A cause and where it lies. Where something is given twice, `earlier` is the first of both. -/
structure Fault where
  cause : Cause
  span : Span
  earlier : Option Span := none
deriving DecidableEq, Repr

def fail {Value : Type} (cause : Cause) (span : Span) : Except Fault Value :=
  .error { cause, span }

/-! ## Showing a fault -/

private structure Position where
  line : Nat
  column : Nat

private def Position.advance (position : Position) (character : Char) : Position :=
  if character = '\n' then ⟨position.line + 1, 1⟩ else ⟨position.line, position.column + 1⟩

private def positionAt (source : List Char) (place : Place) : Position :=
  (source.take (source.length - place)).foldl Position.advance ⟨1, 1⟩

private def splitLines (source : List Char) : List (List Char) :=
  let lines := source.splitOn '\n'
  (if lines.getLast? = some [] then lines.dropLast else lines).map fun line =>
    if line.getLast? = some '\r' then line.dropLast else line

private def carets (column : Nat) : List (Position × Position) → List Char
  | [] => []
  | (start, stop) :: rest =>
      let width := max 1 (stop.column - start.column)
      List.replicate (start.column - column) ' ' ++ List.replicate width '^' ++
        carets (max column start.column + width) rest

private def padLeft (width : Nat) (text : String) : String :=
  String.ofList (List.replicate (width - text.length) ' ') ++ text

private def renderLines (lines : List (List Char)) (numberWidth : Nat)
    (spans : List (Position × Position)) : String :=
  let margin := if numberWidth = 0 then 4 else numberWidth + 2
  String.join <| lines.zipIdx.map fun (line, index) =>
    let number :=
      if numberWidth = 0 then "    "
      else padLeft numberWidth (toString (index + 1)) ++ ": "
    let marked := spans.filter fun (start, _) => start.line = index + 1
    number ++ String.ofList line ++ "\n" ++
      if marked.isEmpty then ""
      else String.ofList (List.replicate margin ' ' ++ carets 1 marked) ++ "\n"

private def describeSpan (span : Position × Position) : String :=
  "on line " ++ toString span.1.line ++ " (column " ++ toString span.1.column ++
    ") through line " ++ toString span.2.line ++ " (column " ++
    toString (span.2.column - 1) ++ ")\n"

/-- The source with its faults marked. A source of several lines has numbered lines between two
rulers, and a span that crosses lines is told in words below. -/
def Fault.message (fault : Fault) (source : List Char) : String :=
  let positions := (fault.earlier.toList ++ [fault.span]).map fun span =>
    (positionAt source span.start, positionAt source span.stop)
  let withinLine := positions.filter fun (start, stop) => start.line = stop.line
  let across := positions.filter fun (start, stop) => start.line ≠ stop.line
  let lines := splitLines source
  let text :=
    if source.contains '\n' then
      let ruler := String.ofList (List.replicate 79 '~') ++ "\n"
      let count := lines.length + if source.getLast? = some '\n' then 1 else 0
      ruler ++ renderLines lines (toString count).length withinLine ++ ruler ++
        String.join (across.map describeSpan)
    else renderLines lines 0 withinLine
  "regex parse error:\n" ++ text ++ "error: " ++ fault.cause.message

end UriDispatch.Regex
