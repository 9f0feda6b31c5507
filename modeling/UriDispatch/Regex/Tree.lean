import UriDispatch.Regex.Fault

/-! The syntax tree of a regular expression. Every node keeps the part of the source it was
read from, since later checks may find a fault in it. -/

namespace UriDispatch.Regex

inductive Flag where
  | ignoreCase
  | multiLine
  | dotMatchesAll
  | swapGreed
  | unicode
  | verbose
  | carriageReturns
deriving DecidableEq, Repr

def Flag.ofLetter? : Char → Option Flag
  | 'i' => some .ignoreCase
  | 'm' => some .multiLine
  | 's' => some .dotMatchesAll
  | 'U' => some .swapGreed
  | 'u' => some .unicode
  | 'x' => some .verbose
  | 'R' => some .carriageReturns
  | _ => none

abbrev FlagChanges := List (Flag × Bool)

inductive Assertion where
  | startOfLine
  | endOfLine
  | startOfText
  | endOfText
  | wordBoundary
  | noWordBoundary
  | wordStart
  | wordEnd
  | wordStartHalf
  | wordEndHalf
deriving DecidableEq, Repr

inductive EscapeClass where
  | digit
  | space
  | word
deriving DecidableEq, Repr

inductive NamedClass where
  | alnum
  | alpha
  | ascii
  | blank
  | cntrl
  | digit
  | graph
  | lower
  | print
  | punct
  | space
  | upper
  | word
  | xdigit
deriving DecidableEq, Repr

def NamedClass.ofName? : String → Option NamedClass
  | "alnum" => some .alnum
  | "alpha" => some .alpha
  | "ascii" => some .ascii
  | "blank" => some .blank
  | "cntrl" => some .cntrl
  | "digit" => some .digit
  | "graph" => some .graph
  | "lower" => some .lower
  | "print" => some .print
  | "punct" => some .punct
  | "space" => some .space
  | "upper" => some .upper
  | "word" => some .word
  | "xdigit" => some .xdigit
  | _ => none

inductive PropertyQuery where
  | byName (name : List Char)
  | byValue (property value : List Char) (differs : Bool)
deriving DecidableEq, Repr

/-- Whether the complement of the set is asked for: `\P{a!=b}` asks for the same as `\p{a=b}`. -/
def PropertyQuery.isNegated (negated : Bool) : PropertyQuery → Bool
  | .byName _ => negated
  | .byValue _ _ differs => negated ^^ differs

/-- One character. If it was written with two hexadecimal digits it may stand for a byte. -/
structure Literal where
  span : Span
  character : Char
  isByte : Bool
deriving DecidableEq, Repr

inductive SetOperator where
  | intersection
  | difference
  | symmetricDifference
deriving DecidableEq, Repr

/-- What stands between square brackets. The items of a `union` are chained by `join`. -/
inductive ClassSet where
  | empty (span : Span)
  | literal (single : Literal)
  | range (first last : Literal)
  | named (span : Span) (name : NamedClass) (negated : Bool)
  | escape (span : Span) (name : EscapeClass) (negated : Bool)
  | property (span : Span) (query : PropertyQuery) (negated : Bool)
  | bracketed (span : Span) (negated : Bool) (body : ClassSet)
  | join (first rest : ClassSet)
  | union (span : Span) (items : ClassSet)
  | combine (span : Span) (operator : SetOperator) (left right : ClassSet)
deriving Repr

namespace ClassSet

def span : ClassSet → Span
  | .empty span | .named span _ _ | .escape span _ _ | .property span _ _
  | .bracketed span _ _ | .union span _ | .combine span _ _ _ => span
  | .literal single => single.span
  | .range first last => ⟨first.span.start, last.span.stop⟩
  | .join first rest => ⟨first.span.start, rest.span.stop⟩

def ofItems (span : Span) : List ClassSet → ClassSet
  | [] => .empty span
  | [item] => item
  | last :: earlier => .union span (earlier.foldl (fun rest item => .join item rest) last)

end ClassSet

/-- The items of a `sequence` are chained by `follow`, those of an `alternation` by `orElse`. -/
inductive Tree where
  | empty (span : Span)
  | setFlags (span : Span) (changes : FlagChanges)
  | literal (single : Literal)
  | dot (span : Span)
  | assertion (span : Span) (kind : Assertion)
  | escape (span : Span) (name : EscapeClass) (negated : Bool)
  | property (span : Span) (query : PropertyQuery) (negated : Bool)
  | bracketed (span : Span) (negated : Bool) (body : ClassSet)
  | repetition (span : Span) (least : Nat) (most : Option Nat) (greedy : Bool) (body : Tree)
  | capture (span : Span) (index : Nat) (body : Tree)
  | group (span : Span) (changes : FlagChanges) (body : Tree)
  | follow (first rest : Tree)
  | sequence (span : Span) (items : Tree)
  | orElse (first rest : Tree)
  | alternation (span : Span) (branches : Tree)
deriving Repr

namespace Tree

def span : Tree → Span
  | .empty span | .setFlags span _ | .dot span | .assertion span _ | .escape span _ _
  | .property span _ _ | .bracketed span _ _ | .repetition span _ _ _ _ | .capture span _ _
  | .group span _ _ | .sequence span _ | .alternation span _ => span
  | .literal single => single.span
  | .follow first rest | .orElse first rest => ⟨first.span.start, rest.span.stop⟩

def ofSequence (span : Span) : List Tree → Tree
  | [] => .empty span
  | [item] => item
  | last :: earlier => .sequence span (earlier.foldl (fun rest item => .follow item rest) last)

def ofAlternatives (span : Span) (last : Tree) : List Tree → Tree
  | [] => last
  | earlier => .alternation span (earlier.foldl (fun rest item => .orElse item rest) last)

end Tree

/-! ## Nesting

Groups, repetitions, bracketed classes and whatever holds several items each add a level. -/

/-- The first node, from the outside in and from left to right, that lies too deep. -/
def ClassSet.tooDeep? (depth : Nat) : ClassSet → Option Span
  | .bracketed span _ body =>
      if depth < nestingLimit then ClassSet.tooDeep? (depth + 1) body else some span
  | .union span items =>
      if depth < nestingLimit then ClassSet.tooDeep? (depth + 1) items else some span
  | .combine span _ left right =>
      if depth < nestingLimit then
        ClassSet.tooDeep? (depth + 1) left <|> ClassSet.tooDeep? (depth + 1) right
      else some span
  | .join first rest => ClassSet.tooDeep? depth first <|> ClassSet.tooDeep? depth rest
  | _ => none

def Tree.tooDeep? (depth : Nat) : Tree → Option Span
  | .bracketed span _ body =>
      if depth < nestingLimit then ClassSet.tooDeep? (depth + 1) body else some span
  | .repetition span _ _ _ body | .capture span _ body | .group span _ body
  | .sequence span body | .alternation span body =>
      if depth < nestingLimit then Tree.tooDeep? (depth + 1) body else some span
  | .follow first rest | .orElse first rest =>
      Tree.tooDeep? depth first <|> Tree.tooDeep? depth rest
  | _ => none

end UriDispatch.Regex
