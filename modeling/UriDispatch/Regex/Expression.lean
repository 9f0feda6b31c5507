import UriDispatch.CharacterSet

/-! What a regular expression means once its flags are resolved: steps over one character,
conditions at a place between characters, and the ways to combine them. -/

namespace UriDispatch.Regex

inductive WordEdge where
  | boundary
  | noBoundary
  | start
  | finish
  | startHalf
  | finishHalf
deriving DecidableEq, Repr

inductive Condition where
  | startOfText
  | endOfText
  /-- With carriage returns, they end lines too, and a newline after one belongs to it. -/
  | startOfLine (carriageReturns : Bool)
  | endOfLine (carriageReturns : Bool)
  | wordEdge (edge : WordEdge) (unicode : Bool)
deriving DecidableEq, Repr

/-- A repetition without a greatest count has none. -/
inductive Expression where
  | empty
  | step (set : CharacterSet)
  | test (condition : Condition)
  | capture (index : Nat) (body : Expression)
  | follow (first second : Expression)
  | orElse (first second : Expression)
  | repetition (least : Nat) (most : Option Nat) (greedy : Bool) (body : Expression)
deriving DecidableEq, Repr

namespace Expression

def captures : Expression → List Nat
  | .empty | .step _ | .test _ => []
  | .capture index body => index :: body.captures
  | .follow first second | .orElse first second => first.captures ++ second.captures
  | .repetition _ _ _ body => body.captures

def takesNothing : Expression → Bool
  | .empty | .test _ => true
  | .step _ => false
  | .capture _ body => body.takesNothing
  | .follow first second | .orElse first second => first.takesNothing && second.takesNothing
  | .repetition _ most _ body => most.isSome && body.takesNothing

def startsAtText : Expression → Bool
  | .test condition => condition = .startOfText
  | .empty | .step _ => false
  | .capture _ body => body.startsAtText
  | .follow first second =>
      first.startsAtText || (first.takesNothing && second.startsAtText)
  | .orElse first second => first.startsAtText && second.startsAtText
  | .repetition least _ _ body => 0 < least && body.startsAtText

/-- The least number of characters that a way through takes. It is left open where a set without
members is part of the expression. -/
def leastLength : Expression → Option Nat
  | .empty | .test _ => some 0
  | .step set => if set.ranges.isEmpty then none else some 1
  | .capture _ body => body.leastLength
  | .follow first second => do return (← first.leastLength) + (← second.leastLength)
  | .orElse first second => do return min (← first.leastLength) (← second.leastLength)
  | .repetition least _ _ body => body.leastLength.map (least * ·)

def takesSomething (expression : Expression) : Bool := expression.leastLength.any (0 < ·)

/-! ## Simple forms

Expressions are put together by the functions below, which keep them in a simple form: what
follows each other is a chain without empty parts, and sets are in normal form. -/

def ofSet (set : CharacterSet) : Expression := .step set.normal

/-- A repetition. Repeating what takes no character more than once adds nothing; no repetition
at all is empty, and exactly one is the body. -/
def repeated (least : Nat) (most : Option Nat) (greedy : Bool) (body : Expression) : Expression :=
  let (least, most) :=
    if body.takesNothing then (min least 1, some (min (most.getD 1) 1)) else (least, most)
  match least, most with
  | 0, some 0 => .empty
  | 1, some 1 => body
  | least, most => .repetition least most greedy body

def append : Expression → Expression → Expression
  | .empty, second => second
  | .follow first rest, second => .follow first (rest.append second)
  | first, .empty => first
  | first, second => .follow first second

def parts : Expression → List Expression
  | .empty => []
  | .follow first second => first.parts ++ second.parts
  | single => [single]

def ofParts (parts : List Expression) : Expression := parts.foldr append .empty

def branches : Expression → List Expression
  | .orElse first second => first.branches ++ second.branches
  | single => [single]

def ofBranches : List Expression → Expression
  | [] => .step .empty
  | [only] => only
  | first :: rest => .orElse first (ofBranches rest)

def set? : Expression → Option CharacterSet
  | .step set => some set
  | _ => none

def isCharacter (expression : Expression) : Bool := expression.set?.any (·.single?.isSome)

def isSet (expression : Expression) : Bool := expression.set?.any (·.single?.isNone)

/-- One step that does the same as a choice between steps, which have to be all over given
characters or all over sets. -/
def merged? (choice : List Expression) : Option Expression :=
  if choice.all isCharacter || choice.all isSet then
    some (.ofSet (CharacterSet.unions (choice.filterMap set?)))
  else none

def choose (choice : List Expression) : Expression :=
  (merged? choice).getD (ofBranches choice)

def units (expression : Expression) : List (List Expression) :=
  expression.parts.splitBy fun left right => left.isCharacter && right.isCharacter

def commonStart : List (List Expression) → List (List Expression) → List (List Expression)
  | left :: leftRest, right :: rightRest =>
      if left = right then left :: commonStart leftRest rightRest else []
  | _, _ => []

def sharedStart (alternatives : List (List (List Expression))) : List (List Expression) :=
  match alternatives with
  | [] => []
  | first :: rest =>
      if alternatives.all fun units => 2 ≤ units.length then rest.foldl commonStart first else []

/-- A choice between the alternatives of an expression. What they all begin with is taken out, so
that it is gone through once. -/
def alternation (choice : Expression) : Expression :=
  match merged? choice.branches with
  | some single => single
  | none =>
      let alternatives := choice.branches.map units
      match sharedStart alternatives with
      | [] => ofBranches choice.branches
      | shared =>
          (ofParts shared.flatten).append <| choose <|
            alternatives.flatMap fun units =>
              (ofParts (units.drop shared.length).flatten).branches

end Expression

end UriDispatch.Regex
