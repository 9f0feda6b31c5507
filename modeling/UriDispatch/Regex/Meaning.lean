import UriDispatch.Regex.Expression
import UriDispatch.Regex.Tree
import UriDispatch.Unicode.CaseFolding
import UriDispatch.Unicode.Lookup

/-! From the syntax tree of a regular expression to its meaning. Flags hold from where they are
set to the end of the group around them. -/

namespace UriDispatch.Regex

/-! ## Flags -/

structure Flags where
  ignoreCase : Bool := false
  multiLine : Bool := false
  dotMatchesAll : Bool := false
  swapGreed : Bool := false
  unicode : Bool := true
  carriageReturns : Bool := false
deriving DecidableEq, Repr

namespace Flags

def set (flags : Flags) (flag : Flag) (value : Bool) : Flags :=
  match flag with
  | .ignoreCase => { flags with ignoreCase := value }
  | .multiLine => { flags with multiLine := value }
  | .dotMatchesAll => { flags with dotMatchesAll := value }
  | .swapGreed => { flags with swapGreed := value }
  | .unicode => { flags with unicode := value }
  | .carriageReturns => { flags with carriageReturns := value }
  | .verbose => flags

def change (flags : Flags) (changes : FlagChanges) : Flags :=
  changes.foldl (fun flags (flag, value) => flags.set flag value) flags

def fold (flags : Flags) (set : CharacterSet) : CharacterSet :=
  if flags.ignoreCase then
    if flags.unicode then set.closeUnderCase else set.closeUnderAsciiCase
  else set

end Flags

/-! ## Classes -/

def namedSet : NamedClass → CharacterSet
  | .alnum => .ofTable "30-39 41-5a 61-7a"
  | .alpha => .ofTable "41-5a 61-7a"
  | .ascii => .ofTable "0-7f"
  | .blank => .ofTable "9 20"
  | .cntrl => .ofTable "0-1f 7f"
  | .digit => .ofTable "30-39"
  | .graph => .ofTable "21-7e"
  | .lower => .ofTable "61-7a"
  | .print => .ofTable "20-7e"
  | .punct => .ofTable "21-2f 3a-40 5b-60 7b-7e"
  | .space => .ofTable "9-d 20"
  | .upper => .ofTable "41-5a"
  | .word => .ofTable "30-39 41-5a 5f 61-7a"
  | .xdigit => .ofTable "30-39 41-46 61-66"

/-- The set, or its complement. Without Unicode only sets of ASCII characters are well formed. -/
def checkedSet (flags : Flags) (span : Span) (negated : Bool) (set : CharacterSet) :
    Except Fault CharacterSet :=
  let set := if negated then set.complement else set
  if flags.unicode ∨ set.isAscii then .ok set else fail .invalidEncoding span

def escapeSet (flags : Flags) (span : Span) (name : EscapeClass) (negated : Bool) :
    Except Fault CharacterSet :=
  checkedSet flags span negated <|
    match name with
    | .digit => if flags.unicode then Unicode.digit else namedSet .digit
    | .space => if flags.unicode then Unicode.whiteSpace else namedSet .space
    | .word => if flags.unicode then Unicode.word else namedSet .word

def querySet : PropertyQuery → Except Unicode.LookupError CharacterSet
  | .byName name => Unicode.byName name
  | .byValue property value _ => Unicode.byValue property value

def propertySet (flags : Flags) (span : Span) (query : PropertyQuery) (negated : Bool) :
    Except Fault CharacterSet :=
  if flags.unicode then
    match querySet query with
    | .ok set => checkedSet flags span (query.isNegated negated) (flags.fold set)
    | .error .unknownProperty => fail .propertyUnknown span
    | .error .unknownValue => fail .propertyValueUnknown span
  else fail .unicodeNotAllowed span

def checkByte (flags : Flags) (literal : Literal) : Except Fault Unit :=
  if ¬flags.unicode ∧ literal.isByte ∧ 0x7F < literal.character.toNat then
    fail .invalidEncoding literal.span
  else .ok ()

def checkMember (flags : Flags) (literal : Literal) : Except Fault Unit :=
  match checkByte flags literal with
  | .error fault => .error fault
  | .ok () =>
      if flags.unicode ∨ literal.character.toNat ≤ 0x7F then .ok ()
      else fail .unicodeNotAllowed literal.span

def SetOperator.apply : SetOperator → CharacterSet → CharacterSet → CharacterSet
  | .intersection => .intersection
  | .difference => .difference
  | .symmetricDifference => .symmetricDifference

def ClassSet.meaning (flags : Flags) : ClassSet → Except Fault CharacterSet
  | .empty _ => .ok .empty
  | .literal single => (checkMember flags single).map fun _ => .singleton single.character
  | .range first last => do
      checkMember flags first
      checkMember flags last
      return .ofRange first.character last.character
  | .named span name negated => checkedSet flags span negated (flags.fold (namedSet name))
  | .escape span name negated => escapeSet flags span name negated
  | .property span query negated => propertySet flags span query negated
  | .bracketed span negated body => do
      checkedSet flags span negated (flags.fold (← body.meaning flags))
  | .join first rest => do
      let first ← first.meaning flags
      let rest ← rest.meaning flags
      return first.union rest
  | .union _ items => items.meaning flags
  | .combine _ operator left right => do
      let left ← left.meaning flags
      let right ← right.meaning flags
      return operator.apply (flags.fold left) (flags.fold right)

/-! ## Trees -/

def literalMeaning (flags : Flags) (literal : Literal) : Except Fault Expression :=
  match checkByte flags literal with
  | .error fault => .error fault
  | .ok () => .ok (.ofSet (flags.fold (.singleton literal.character)))

def dotMeaning (flags : Flags) (span : Span) : Except Fault Expression :=
  if flags.unicode then
    .ok <| .ofSet <|
      if flags.dotMatchesAll then .full
      else if flags.carriageReturns then
        CharacterSet.complement ((CharacterSet.singleton '\n').union (.singleton '\r'))
      else (CharacterSet.singleton '\n').complement
  else fail .invalidEncoding span

def assertionMeaning (flags : Flags) : Assertion → Condition
  | .startOfLine => if flags.multiLine then .startOfLine flags.carriageReturns else .startOfText
  | .endOfLine => if flags.multiLine then .endOfLine flags.carriageReturns else .endOfText
  | .startOfText => .startOfText
  | .endOfText => .endOfText
  | .wordBoundary => .wordEdge .boundary flags.unicode
  | .noWordBoundary => .wordEdge .noBoundary flags.unicode
  | .wordStart => .wordEdge .start flags.unicode
  | .wordEnd => .wordEdge .finish flags.unicode
  | .wordStartHalf => .wordEdge .startHalf flags.unicode
  | .wordEndHalf => .wordEdge .finishHalf flags.unicode

def Tree.meaning (flags : Flags) : Tree → Except Fault (Expression × Flags)
  | .empty _ => .ok (.empty, flags)
  | .setFlags _ changes => .ok (.empty, flags.change changes)
  | .literal single => (literalMeaning flags single).map (·, flags)
  | .dot span => (dotMeaning flags span).map (·, flags)
  | .assertion _ kind => .ok (.test (assertionMeaning flags kind), flags)
  | .escape span name negated =>
      (escapeSet flags span name negated).map fun set => (.ofSet set, flags)
  | .property span query negated =>
      (propertySet flags span query negated).map fun set => (.ofSet set, flags)
  | .bracketed span negated body => do
      let set ← checkedSet flags span negated (flags.fold (← body.meaning flags))
      return (.ofSet set, flags)
  | .repetition _ least most greedy body => do
      let (body, flags) ← body.meaning flags
      return (.repeated least most (greedy ^^ flags.swapGreed) body, flags)
  | .capture _ index body => do
      let (body, _) ← body.meaning flags
      return (.capture index body, flags)
  | .group _ changes body => do
      let (body, _) ← body.meaning (flags.change changes)
      return (body, flags)
  | .follow first rest => do
      let (first, flags) ← first.meaning flags
      let (rest, flags) ← rest.meaning flags
      return (first.append rest, flags)
  | .orElse first rest => do
      let (first, flags) ← first.meaning flags
      let (rest, flags) ← rest.meaning flags
      return (.orElse first rest, flags)
  | .sequence _ items => items.meaning flags
  | .alternation _ branches => do
      let (choice, flags) ← branches.meaning flags
      return (choice.alternation, flags)

end UriDispatch.Regex
