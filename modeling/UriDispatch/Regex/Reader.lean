import UriDispatch.Regex.Tree
import UriDispatch.Text.Digit
import UriDispatch.Text.Reading
import UriDispatch.Unicode.Lookup

/-! Reading the smallest parts of a regular expression: numbers, escapes, single characters. In
verbose mode blanks and comments between the parts are passed over. -/

namespace UriDispatch.Regex

abbrev Read (input : List Char) (Value : Type) := Except Fault (Reading input Value)

def Read.widen {input tail : List Char} {Value : Type} (read : Read tail Value)
    (fits : tail.length ≤ input.length) : Read input Value :=
  Except.map (·.widen fits) read

/-! ## Blanks -/

def dropBlanks (inComment : Bool) : List Char → List Char
  | [] => []
  | character :: rest =>
      if inComment then dropBlanks (character ≠ '\n') rest
      else if Unicode.isBlank character then dropBlanks false rest
      else if character = '#' then dropBlanks true rest
      else character :: rest

theorem length_dropBlanks_le (inComment : Bool) (input : List Char) :
    (dropBlanks inComment input).length ≤ input.length := by
  induction input generalizing inComment with
  | nil => simp [dropBlanks]
  | cons head tail induction =>
      simp only [dropBlanks, List.length_cons]
      split
      · exact Nat.le_succ_of_le (induction _)
      · split
        · exact Nat.le_succ_of_le (induction _)
        · split
          · exact Nat.le_succ_of_le (induction _)
          · simp

def skip (verbose : Bool) (input : List Char) : List Char :=
  if verbose then dropBlanks false input else input

@[simp] theorem skip_false (input : List Char) : skip false input = input := rfl

theorem length_skip_le (verbose : Bool) (input : List Char) :
    (skip verbose input).length ≤ input.length := by
  cases verbose with
  | false => simp
  | true => exact length_dropBlanks_le false input

/-! ## Numbers -/

def isDecimal (digit : Char) : Bool := '0' ≤ digit && digit ≤ '9'

def decimalValue (digits : List Char) : Nat :=
  digits.foldl (fun value digit => 10 * value + (digit.toNat - '0'.toNat)) 0

def greatestCount : Nat := 0xffffffff

def takeDigits (verbose : Bool) (digits : List Char) : List Char → List Char × List Char
  | [] => (digits.reverse, [])
  | digit :: rest =>
      if isDecimal digit then
        have := length_skip_le verbose rest
        takeDigits verbose (digit :: digits) (skip verbose rest)
      else (digits.reverse, digit :: rest)
termination_by input => input.length

theorem length_takeDigits_le (verbose : Bool) (digits input : List Char) :
    (takeDigits verbose digits input).2.length ≤ input.length := by
  fun_induction takeDigits verbose digits input with
  | case1 => simp
  | case2 digits digit rest _ bound induction => simp only [List.length_cons]; omega
  | case3 => simp

def readDecimal (verbose : Bool) (input : List Char) : Except Fault Nat × List Char :=
  let start := input.dropWhile Unicode.isBlank
  let (digits, afterDigits) := takeDigits verbose [] start
  let rest := skip verbose (afterDigits.dropWhile Unicode.isBlank)
  let span := Span.between start afterDigits
  if digits.isEmpty then (fail .countWithoutDecimal span, rest)
  else if decimalValue digits ≤ greatestCount then (.ok (decimalValue digits), rest)
  else (fail .decimalTooLarge span, rest)

theorem length_readDecimal_le (verbose : Bool) (input : List Char) :
    (readDecimal verbose input).2.length ≤ input.length := by
  have first := length_dropWhile_le Unicode.isBlank input
  have second := length_takeDigits_le verbose [] (input.dropWhile Unicode.isBlank)
  have third := length_dropWhile_le Unicode.isBlank
    (takeDigits verbose [] (input.dropWhile Unicode.isBlank)).2
  have fourth := length_skip_le verbose
    ((takeDigits verbose [] (input.dropWhile Unicode.isBlank)).2.dropWhile Unicode.isBlank)
  simp only [readDecimal]
  split
  · simp only; omega
  · split <;> simp only <;> omega

structure Count where
  least : Nat
  most : Option Nat
deriving DecidableEq, Repr

def closeCount (verbose : Bool) (opening : List Char) (count : Count) :
    (input : List Char) → Read input (Count × Bool)
  | '}' :: rest =>
      have bound := length_skip_le verbose rest
      match equal : skip verbose rest with
      | '?' :: after =>
          if count.most.all (count.least ≤ ·) then
            .ok ⟨(count, false), after, by
              rw [equal] at bound; simp only [List.length_cons] at bound ⊢; omega⟩
          else fail .countOrder (.between opening after)
      | after =>
          if count.most.all (count.least ≤ ·) then
            .ok ⟨(count, true), after, by
              rw [equal] at bound; simp only [List.length_cons]; omega⟩
          else fail .countOrder (.between opening after)
  | other => fail .countUnclosed (.between opening other)

/-- A counted repetition after its opening brace, which stands at the front of `opening`. The
first number may be missing only as long as nothing but a closing brace depends on it. -/
def readCount (verbose : Bool) (opening : List Char) (input : List Char) :
    Read input (Count × Bool) :=
  match equal : skip verbose input with
  | [] => fail .countUnclosed (.between opening [])
  | head :: tail =>
      have start : (head :: tail).length ≤ input.length := equal ▸ length_skip_le verbose input
      have bound := length_readDecimal_le verbose (head :: tail)
      match first : readDecimal verbose (head :: tail) with
      | (_, []) => fail .countUnclosed (.between opening [])
      | (least, ',' :: afterComma) =>
          match second : skip verbose afterComma with
          | [] => fail .countUnclosed (.between opening [])
          | '}' :: rest =>
              match least with
              | .error fault => .error fault
              | .ok least =>
                  (closeCount verbose opening ⟨least, none⟩ ('}' :: rest)).widen (by
                    have := length_skip_le verbose afterComma
                    rw [first] at bound; rw [second] at this
                    simp only [List.length_cons] at *; omega)
          | next :: rest =>
              match least with
              | .error fault => .error fault
              | .ok least =>
                  match third : readDecimal verbose (next :: rest) with
                  | (.error fault, _) => .error fault
                  | (.ok most, after) =>
                      (closeCount verbose opening ⟨least, some most⟩ after).widen (by
                        have := length_skip_le verbose afterComma
                        have last := length_readDecimal_le verbose (next :: rest)
                        rw [first] at bound; rw [second] at this; rw [third] at last
                        simp only [List.length_cons] at *; omega)
      | (.error fault, _) => .error fault
      | (.ok exactly, after) =>
          (closeCount verbose opening ⟨exactly, some exactly⟩ after).widen (by
            rw [first] at bound; simp only at bound; omega)

/-! ## Hexadecimal escapes -/

def isHexadecimal (digit : Char) : Bool := (Text.digitValue? 16 digit).isSome

def hexadecimalValue (digits : List Char) : Nat :=
  digits.foldl (fun value digit => 16 * value + (Text.digitValue? 16 digit).getD 0) 0

def readDigits (verbose : Bool) (digits : List Char) :
    (count : Nat) → (input : List Char) → Read input (List Char)
  | _, [] => fail .escapeCutOff (.emptyAt [])
  | count, digit :: rest =>
      if isHexadecimal digit then
        have bound := length_skip_le verbose rest
        match count with
        | count + 2 =>
            (readDigits verbose (digit :: digits) (count + 1) (skip verbose rest)).widen (by
              simp only [List.length_cons]; omega)
        | _ =>
            .ok ⟨(digit :: digits).reverse, skip verbose rest, by
              simp only [List.length_cons]; omega⟩
      else fail .hexadecimalDigit (.head (digit :: rest))

/-- Digits up to a closing brace, which is left. The opening brace stands at the front of
`opening`. -/
def readBracedDigits (verbose : Bool) (opening : List Char) (digits : List Char)
    (input : List Char) : Except Fault (List Char × { rest : List Char //
      rest.length ≤ input.length }) :=
  match equal : skip verbose input with
  | [] => fail .escapeCutOff (.between opening [])
  | digit :: rest =>
      have bound : rest.length < input.length := by
        have := length_skip_le verbose input
        rw [equal] at this
        exact this
      if digit = '}' then
        .ok (digits.reverse, ⟨digit :: rest, by simp only [List.length_cons]; omega⟩)
      else if isHexadecimal digit then
        match readBracedDigits verbose opening (digit :: digits) rest with
        | .error fault => .error fault
        | .ok (found, ⟨after, fits⟩) => .ok (found, ⟨after, by omega⟩)
      else fail .hexadecimalDigit (.head (digit :: rest))
termination_by input.length

def digitCount : Char → Nat
  | 'x' => 2
  | 'u' => 4
  | _ => 8

def readHexadecimal (verbose : Bool) (opening : List Char) (letter : Char)
    (input : List Char) : Read input Literal :=
  have bound := length_skip_le verbose input
  match equal : skip verbose input with
  | [] => fail .escapeCutOff (.emptyAt [])
  | '{' :: rest =>
      match readBracedDigits verbose ('{' :: rest) [] rest with
      | .error fault => .error fault
      | .ok (digits, ⟨closing, fits⟩) =>
          have after := length_skip_le verbose (closing.drop 1)
          have shorter : (skip verbose (closing.drop 1)).length < input.length := by
            rw [equal] at bound
            simp only [List.length_cons, List.length_drop] at *
            omega
          if digits.isEmpty then
            fail .hexadecimalEmpty (.between ('{' :: rest) (skip verbose (closing.drop 1)))
          else
            match Text.character? (hexadecimalValue digits) with
            | none => fail .hexadecimalNoCharacter (.between rest closing)
            | some character =>
                .ok ⟨⟨.between opening (skip verbose (closing.drop 1)), character, false⟩,
                  skip verbose (closing.drop 1), shorter⟩
  | digit :: rest =>
      match readDigits verbose [] (digitCount letter) (digit :: rest) with
      | .error fault => .error fault
      | .ok ⟨digits, after, shorter⟩ =>
          match Text.character? (hexadecimalValue digits) with
          | none => fail .hexadecimalNoCharacter (.between (digit :: rest) after)
          | some character =>
              .ok ⟨⟨.between opening after, character, letter = 'x'⟩, after, by
                rw [equal] at bound; omega⟩

/-! ## Properties -/

def splitAt? (separator : List Char) : List Char → Option (List Char × List Char)
  | [] => none
  | head :: tail =>
      if separator.isPrefixOf (head :: tail) then
        some ([], (head :: tail).drop separator.length)
      else (splitAt? separator tail).map fun (before, after) => (head :: before, after)

/-- The name of a property, or a property and its value with `!=`, `:` or `=` between them. -/
def propertyQuery (text : List Char) : PropertyQuery :=
  match splitAt? ['!', '='] text with
  | some (property, value) => .byValue property value true
  | none =>
      match splitAt? [':'] text <|> splitAt? ['='] text with
      | some (property, value) => .byValue property value false
      | none => .byName text

def readBracedName (verbose : Bool) (name : List Char) (input : List Char) :
    Read input (List Char) :=
  match equal : skip verbose input with
  | [] => fail .escapeCutOff (.emptyAt [])
  | letter :: rest =>
      have bound : rest.length < input.length := by
        have := length_skip_le verbose input
        rw [equal] at this
        exact this
      if letter = '}' then .ok ⟨name.reverse, rest, bound⟩
      else (readBracedName verbose (letter :: name) rest).widen (Nat.le_of_lt bound)
termination_by input.length

def readProperty (verbose : Bool) (input : List Char) : Read input PropertyQuery :=
  have bound := length_skip_le verbose input
  match equal : skip verbose input with
  | [] => fail .escapeCutOff (.emptyAt [])
  | '{' :: rest =>
      match readBracedName verbose [] rest with
      | .error fault => .error fault
      | .ok ⟨name, after, shorter⟩ =>
          .ok ⟨propertyQuery name, after, by
            rw [equal] at bound; simp only [List.length_cons] at bound; omega⟩
  | '\\' :: rest => fail .propertyName (.head ('\\' :: rest))
  | letter :: rest =>
      .ok ⟨.byName [letter], skip verbose rest, by
        have := length_skip_le verbose rest
        rw [equal] at bound; simp only [List.length_cons] at bound; omega⟩

/-! ## Escapes -/

inductive Primitive where
  | literal (single : Literal)
  | dot (span : Span)
  | assertion (span : Span) (kind : Assertion)
  | escape (span : Span) (name : EscapeClass) (negated : Bool)
  | property (span : Span) (query : PropertyQuery) (negated : Bool)
deriving DecidableEq, Repr

def Primitive.span : Primitive → Span
  | .literal single => single.span
  | .dot span | .assertion span _ | .escape span _ _ | .property span _ _ => span

def Primitive.toTree : Primitive → Tree
  | .literal single => .literal single
  | .dot span => .dot span
  | .assertion span kind => .assertion span kind
  | .escape span name negated => .escape span name negated
  | .property span query negated => .property span query negated

def isMeta (character : Char) : Bool :=
  "\\.+*?()|[]\x7b\x7d^$#&-~".toList.contains character

def isEscapable (character : Char) : Bool :=
  isMeta character ||
    (character.toNat < 0x80 && !character.isAlphanum && character ≠ '<' && character ≠ '>')

def controlEscape? : Char → Option Char
  | 'a' => some '\x07'
  | 'f' => some '\x0c'
  | 't' => some '\t'
  | 'n' => some '\n'
  | 'r' => some '\r'
  | 'v' => some '\x0b'
  | _ => none

def assertionEscape? : Char → Option Assertion
  | 'A' => some .startOfText
  | 'z' => some .endOfText
  | 'B' => some .noWordBoundary
  | '<' => some .wordStart
  | '>' => some .wordEnd
  | _ => none

def escapeClass? : Char → Option (EscapeClass × Bool)
  | 'd' => some (.digit, false)
  | 'D' => some (.digit, true)
  | 's' => some (.space, false)
  | 'S' => some (.space, true)
  | 'w' => some (.word, false)
  | 'W' => some (.word, true)
  | _ => none

def isBoundaryLetter (letter : Char) : Bool := letter.isAlpha || letter = '-'

def takeBoundaryName (verbose : Bool) (name : List Char) : List Char →
    List Char × List Char
  | [] => (name.reverse, [])
  | letter :: rest =>
      if isBoundaryLetter letter then
        have := length_skip_le verbose rest
        takeBoundaryName verbose (letter :: name) (skip verbose rest)
      else (name.reverse, letter :: rest)
termination_by input => input.length

theorem length_takeBoundaryName_le (verbose : Bool) (name input : List Char) :
    (takeBoundaryName verbose name input).2.length ≤ input.length := by
  fun_induction takeBoundaryName verbose name input with
  | case1 => simp
  | case2 name letter rest _ bound induction => simp only [List.length_cons]; omega
  | case3 => simp

def boundary? : String → Option Assertion
  | "start" => some .wordStart
  | "end" => some .wordEnd
  | "start-half" => some .wordStartHalf
  | "end-half" => some .wordEndHalf
  | _ => none

/-- A word boundary, whose escape `\b` begins at `opening` and ends before `input`. A brace
after it begins the name of a special boundary if a letter follows, else a repetition. -/
def readBoundary (verbose : Bool) (opening input : List Char) :
    Except Fault (Primitive × { rest : List Char // rest.length ≤ input.length }) :=
  match input with
  | '{' :: afterBrace =>
      have bound := length_skip_le verbose afterBrace
      match equal : skip verbose afterBrace with
      | [] => fail .boundaryCutOff (.between opening [])
      | first :: rest =>
          if isBoundaryLetter first then
            have taken := length_takeBoundaryName_le verbose [] (first :: rest)
            match found : takeBoundaryName verbose [] (first :: rest) with
            | (name, '}' :: after) =>
                match boundary? (String.ofList name) with
                | some kind =>
                    .ok (.assertion (.between opening after) kind, ⟨after, by
                      rw [found] at taken; rw [equal] at bound
                      simp only [List.length_cons] at *; omega⟩)
                | none =>
                    fail .boundaryUnknown (.between (first :: rest) ('}' :: after))
            | (_, after) => fail .boundaryUnclosed (.between ('{' :: afterBrace) after)
          else
            .ok (.assertion (.between opening ('{' :: afterBrace)) .wordBoundary,
              ⟨'{' :: afterBrace, Nat.le_refl _⟩)
  | other => .ok (.assertion (.between opening other) .wordBoundary, ⟨other, Nat.le_refl _⟩)

def readEscape (verbose : Bool) (input : List Char) : Read input Primitive :=
  match input with
  | [] => fail .escapeCutOff (.emptyAt [])
  | [_] => fail .escapeCutOff (.between input [])
  | backslash :: letter :: rest =>
      let span := Span.between (backslash :: letter :: rest) rest
      if isDecimal letter then fail .backreference span
      else if letter = 'x' ∨ letter = 'u' ∨ letter = 'U' then
        match readHexadecimal verbose (backslash :: letter :: rest) letter rest with
        | .error fault => .error fault
        | .ok ⟨found, after, shorter⟩ => .ok ⟨.literal found, after, by
            simp only [List.length_cons]; omega⟩
      else if letter = 'p' ∨ letter = 'P' then
        match readProperty verbose rest with
        | .error fault => .error fault
        | .ok ⟨query, after, shorter⟩ =>
            .ok ⟨.property (.between (backslash :: letter :: rest) after) query (letter = 'P'),
              after, by simp only [List.length_cons]; omega⟩
      else if letter = 'b' then
        match readBoundary verbose (backslash :: letter :: rest) rest with
        | .error fault => .error fault
        | .ok (found, ⟨after, fits⟩) => .ok ⟨found, after, by simp only [List.length_cons]; omega⟩
      else
        let primitive? : Option Primitive :=
          if isEscapable letter then some (.literal ⟨span, letter, false⟩)
          else
            (controlEscape? letter).map (fun control => .literal ⟨span, control, false⟩) <|>
            (assertionEscape? letter).map (.assertion span) <|>
            (escapeClass? letter).map fun (name, negated) => .escape span name negated
        match primitive? with
        | some primitive => .ok ⟨primitive, rest, by simp only [List.length_cons]; omega⟩
        | none => fail .escapeUnknown span

def readPrimitive (verbose : Bool) (input : List Char) : Read input Primitive :=
  match input with
  | '\\' :: rest => readEscape verbose ('\\' :: rest)
  | '.' :: rest => .ok (.ofHead '.' rest (.dot (.head ('.' :: rest))))
  | '^' :: rest => .ok (.ofHead '^' rest (.assertion (.head ('^' :: rest)) .startOfLine))
  | '$' :: rest => .ok (.ofHead '$' rest (.assertion (.head ('$' :: rest)) .endOfLine))
  | character :: rest =>
      .ok (.ofHead character rest (.literal ⟨.head (character :: rest), character, false⟩))
  | [] => fail .escapeCutOff (.emptyAt [])

end UriDispatch.Regex
