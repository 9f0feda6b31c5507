import UriDispatch.Regex.Reader

/-! Reading a class in square brackets. Classes nest, and inside one of them set operators
stand between groups of items; all operators bind alike and group to the left. -/

namespace UriDispatch.Regex

/-! ## Open classes -/

structure Items where
  span : Span
  reversed : List ClassSet

def Items.startingAt (rest : List Char) : Items := ⟨.emptyAt rest, []⟩

def Items.push (items : Items) (item : ClassSet) : Items :=
  let start := if items.reversed.isEmpty then item.span.start else items.span.start
  ⟨⟨start, item.span.stop⟩, item :: items.reversed⟩

/-- A class whose closing bracket has not been read. Its opening is the bracket and whatever
belongs to it: a negation, hyphens, a bracket that is a member. -/
structure OpenClass where
  opening : Span
  negated : Bool
  pending : Option (SetOperator × ClassSet)
  items : Items

namespace OpenClass

def body (class' : OpenClass) : ClassSet :=
  let right := ClassSet.ofItems class'.items.span class'.items.reversed
  match class'.pending with
  | none => right
  | some (operator, left) => .combine ⟨left.span.start, right.span.stop⟩ operator left right

def push (class' : OpenClass) (item : ClassSet) : OpenClass :=
  { class' with items := class'.items.push item }

def applyOperator (class' : OpenClass) (operator : SetOperator) (rest : List Char) :
    OpenClass :=
  { class' with pending := some (operator, class'.body), items := .startingAt rest }

def close (class' : OpenClass) (rest : List Char) : Span × Bool × ClassSet :=
  (⟨class'.opening.start, rest.length⟩, class'.negated, class'.body)

end OpenClass

def readHyphens (verbose : Bool) (opening : List Char) (items : Items)
    (input : List Char) : Except Fault (Items × { rest : List Char //
      rest.length ≤ input.length }) :=
  match input with
  | '-' :: afterHyphen =>
      have bound := length_skip_le verbose afterHyphen
      match equal : skip verbose afterHyphen with
      | [] => fail .classUnclosed (.emptyAt opening)
      | next :: rest =>
          let items := items.push (.literal ⟨.head ('-' :: afterHyphen), '-', false⟩)
          match readHyphens verbose opening items (next :: rest) with
          | .error fault => .error fault
          | .ok (items, ⟨after, fits⟩) => .ok (items, ⟨after, by
              rw [equal] at bound; simp only [List.length_cons] at *; omega⟩)
  | other => .ok (items, ⟨other, Nat.le_refl _⟩)
termination_by input.length
decreasing_by
  rw [equal] at bound
  simp only [List.length_cons] at *
  omega

def readNegation (verbose : Bool) (opening input : List Char) :
    Except Fault (Bool × { rest : List Char // rest.length ≤ input.length }) :=
  match input with
  | '^' :: afterNegation =>
      have bound := length_skip_le verbose afterNegation
      match equal : skip verbose afterNegation with
      | [] => fail .classUnclosed (.between opening [])
      | next :: rest => .ok (true, ⟨next :: rest, by
          rw [equal] at bound; simp only [List.length_cons] at *; omega⟩)
  | other => .ok (false, ⟨other, Nat.le_refl _⟩)

def readFirstBracket (verbose : Bool) (opening : List Char) (items : Items)
    (input : List Char) : Except Fault (Items × { rest : List Char //
      rest.length ≤ input.length }) :=
  match input with
  | ']' :: afterBracket =>
      if items.reversed.isEmpty then
        have bound := length_skip_le verbose afterBracket
        match equal : skip verbose afterBracket with
        | [] => fail .classUnclosed (.between opening [])
        | next :: rest =>
            .ok (items.push (.literal ⟨.head (']' :: afterBracket), ']', false⟩),
              ⟨next :: rest, by rw [equal] at bound; simp only [List.length_cons] at *; omega⟩)
      else .ok (items, ⟨']' :: afterBracket, Nat.le_refl _⟩)
  | other => .ok (items, ⟨other, Nat.le_refl _⟩)

def openClass (verbose : Bool) (input : List Char) : Read input OpenClass :=
  match input with
  | [] => fail .classUnclosed (.emptyAt [])
  | bracket :: afterBracket =>
      have bound := length_skip_le verbose afterBracket
      match equal : skip verbose afterBracket with
      | [] => fail .classUnclosed (.between input [])
      | head :: tail =>
          match readNegation verbose input (head :: tail) with
          | .error fault => .error fault
          | .ok (negated, ⟨members, first⟩) =>
              match readHyphens verbose input (.startingAt members) members with
              | .error fault => .error fault
              | .ok (items, ⟨afterHyphens, second⟩) =>
                  match readFirstBracket verbose input items afterHyphens with
                  | .error fault => .error fault
                  | .ok (items, ⟨after, third⟩) =>
                      .ok ⟨⟨.between input after, negated, none, items⟩, after, by
                        rw [equal] at bound; simp only [List.length_cons] at *; omega⟩

/-! ## Items -/

def readNamedClass? (input : List Char) : Option (Reading input ClassSet) :=
  match input with
  | '[' :: ':' :: rest =>
      let negated := rest.head? = some '^'
      let name := if negated then rest.drop 1 else rest
      have dropped : name.length ≤ rest.length := by
        simp only [name]; split <;> simp
      have suffix := (List.dropWhile_suffix (· ≠ ':') (l := name)).length_le
      match after : name.dropWhile (· ≠ ':') with
      | ':' :: ']' :: rest' =>
          (NamedClass.ofName? (String.ofList (name.takeWhile (· ≠ ':')))).map fun kind =>
            ⟨.named (.between ('[' :: ':' :: rest) rest') kind negated, rest', by
              rw [after] at suffix; simp only [List.length_cons] at *; omega⟩
      | _ => none
  | _ => none

def readMember (verbose : Bool) (input : List Char) : Read input Primitive :=
  match input with
  | [] => fail .escapeCutOff (.emptyAt [])
  | '\\' :: rest => readEscape verbose ('\\' :: rest)
  | character :: rest =>
      .ok (.ofHead character rest (.literal ⟨.head (character :: rest), character, false⟩))

def itemOf : Primitive → Except Fault ClassSet
  | .literal single => .ok (.literal single)
  | .escape span name negated => .ok (.escape span name negated)
  | .property span query negated => .ok (.property span query negated)
  | .dot span | .assertion span _ => fail .classEscape span

def boundaryOf : Primitive → Except Fault Literal
  | .literal single => .ok single
  | other => fail .classRangeBoundary other.span

/-- The character after the blanks that follow a hyphen. Once a number sign has been passed it
is the first character that is not blank; if there is none, it is whatever follows. -/
def peekAfterHyphen (verbose : Bool) (rest : List Char) : Option Char :=
  if verbose then
    match rest.dropWhile Unicode.isBlank with
    | '#' :: comment => comment.find? (!Unicode.isBlank ·) <|> rest.head?
    | [] => rest.head?
    | other => other.head?
  else rest.head?

def readItem (verbose : Bool) (unclosed : Fault) (input : List Char) :
    Read input ClassSet :=
  match readMember verbose input with
  | .error fault => .error fault
  | .ok ⟨first, afterFirst, shorter⟩ =>
      have bound := length_skip_le verbose afterFirst
      match equal : skip verbose afterFirst with
      | [] => .error unclosed
      | '-' :: rest =>
          if peekAfterHyphen verbose rest = some ']' ∨ peekAfterHyphen verbose rest = some '-' then
            (itemOf first).map (⟨·, '-' :: rest, by
              rw [equal] at bound; omega⟩)
          else
            have second := length_skip_le verbose rest
            match afterHyphen : skip verbose rest with
            | [] => .error unclosed
            | next :: tail =>
                match readMember verbose (next :: tail) with
                | .error fault => .error fault
                | .ok ⟨last, after, shorter'⟩ =>
                    match boundaryOf first, boundaryOf last with
                    | .ok low, .ok high =>
                        if low.character ≤ high.character then
                          .ok ⟨.range low high, after, by
                            rw [equal] at bound; rw [afterHyphen] at second
                            simp only [List.length_cons] at *; omega⟩
                        else fail .classRangeOrder ⟨low.span.start, high.span.stop⟩
                    | .error fault, _ => .error fault
                    | _, .error fault => .error fault
      | other :: rest =>
          (itemOf first).map (⟨·, other :: rest, by rw [equal] at bound; omega⟩)

/-! ## Classes -/

def setOperator? : List Char → Option SetOperator
  | '&' :: '&' :: _ => some .intersection
  | '-' :: '-' :: _ => some .difference
  | '~' :: '~' :: _ => some .symmetricDifference
  | _ => none

structure ClosedClass where
  span : Span
  negated : Bool
  body : ClassSet

def readBody (verbose : Bool) (current : OpenClass) (outer : List OpenClass)
    (input : List Char) : Except Fault (ClosedClass × { rest : List Char //
      rest.length ≤ input.length }) :=
  have bound := length_skip_le verbose input
  match equal : skip verbose input with
  | [] => fail .classUnclosed current.opening
  | ']' :: rest =>
      let (span, negated, body) := current.close rest
      match outer with
      | [] => .ok (⟨span, negated, body⟩, ⟨rest, by
          rw [equal] at bound; simp only [List.length_cons] at bound; omega⟩)
      | parent :: others =>
          match readBody verbose (parent.push (.bracketed span negated body)) others rest with
          | .error fault => .error fault
          | .ok (found, ⟨after, fits⟩) => .ok (found, ⟨after, by
              rw [equal] at bound; simp only [List.length_cons] at bound; omega⟩)
  | head :: tail =>
      match (if head = '[' then readNamedClass? (head :: tail) else none) with
      | some ⟨named, rest, shorter⟩ =>
          match readBody verbose (current.push named) outer rest with
          | .error fault => .error fault
          | .ok (found, ⟨after, fits⟩) => .ok (found, ⟨after, by rw [equal] at bound; omega⟩)
      | none =>
          if head = '[' then
            match openClass verbose (head :: tail) with
            | .error fault => .error fault
            | .ok ⟨inner, rest, shorter⟩ =>
                match readBody verbose inner (current :: outer) rest with
                | .error fault => .error fault
                | .ok (found, ⟨after, fits⟩) => .ok (found, ⟨after, by
                    rw [equal] at bound; omega⟩)
          else
            match setOperator? (head :: tail) with
            | some operator =>
                let rest := tail.drop 1
                match readBody verbose (current.applyOperator operator rest) outer rest with
                | .error fault => .error fault
                | .ok (found, ⟨after, fits⟩) => .ok (found, ⟨after, by
                    rw [equal] at bound
                    simp only [rest, List.length_cons, List.length_drop] at *; omega⟩)
            | none =>
                match readItem verbose ⟨.classUnclosed, current.opening, none⟩
                    (head :: tail) with
                | .error fault => .error fault
                | .ok ⟨item, rest, shorter⟩ =>
                    match readBody verbose (current.push item) outer rest with
                    | .error fault => .error fault
                    | .ok (found, ⟨after, fits⟩) => .ok (found, ⟨after, by
                        rw [equal] at bound; omega⟩)
termination_by input.length
decreasing_by
  all_goals
    rw [equal] at bound
    simp only [List.length_cons, List.length_drop] at *
    omega

def readClass (verbose : Bool) (input : List Char) : Read input Tree :=
  match openClass verbose input with
  | .error fault => .error fault
  | .ok ⟨outermost, rest, shorter⟩ =>
      match readBody verbose outermost [] rest with
      | .error fault => .error fault
      | .ok (⟨span, negated, body⟩, ⟨after, fits⟩) =>
          .ok ⟨.bracketed span negated body, after, by omega⟩

end UriDispatch.Regex
