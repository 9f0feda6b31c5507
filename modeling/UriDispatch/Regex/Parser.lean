import UriDispatch.Regex.ClassReader

/-! Reading a whole regular expression. One step reads one operator, group mark, class or
character at the front of the input; the state between two steps is the stack of open groups,
each with what was read of it so far. -/

namespace UriDispatch.Regex

/-! ## State -/

/-- One level of parentheses: the alternatives that are complete and the items of the current
one, each last first, with the places where the level and its current alternative begin. -/
structure Level where
  start : Place
  current : Place
  alternatives : List Tree
  items : List Tree
deriving Repr

namespace Level

def startingAt (rest : List Char) : Level := ⟨rest.length, rest.length, [], []⟩

def push (level : Level) (item : Tree) : Level := { level with items := item :: level.items }

def alternative (level : Level) (rest : List Char) : Tree :=
  .ofSequence ⟨level.current, rest.length⟩ level.items

def nextAlternative (level : Level) (bar afterBar : List Char) : Level :=
  { level with
    alternatives := level.alternative bar :: level.alternatives
    items := []
    current := afterBar.length }

def tree (level : Level) (rest : List Char) : Tree :=
  .ofAlternatives ⟨level.start, rest.length⟩ (level.alternative rest) level.alternatives

end Level

inductive GroupKind where
  | capture (index : Nat)
  | plain (changes : FlagChanges)
deriving Repr

structure OpenGroup where
  parenthesis : Span
  kind : GroupKind
  outerVerbose : Bool
  outer : Level
deriving Repr

structure ParserState where
  verbose : Bool
  captures : Nat
  names : List (List Char × Span)
  level : Level
  groups : List OpenGroup
deriving Repr

namespace ParserState

def initial (source : List Char) : ParserState where
  verbose := false
  captures := 0
  names := []
  level := .startingAt source
  groups := []

def push (state : ParserState) (item : Tree) : ParserState :=
  { state with level := state.level.push item }

def openGroup (state : ParserState) (parenthesis : Span) (kind : GroupKind) (verbose : Bool)
    (body : List Char) : ParserState :=
  { state with
    verbose
    level := .startingAt body
    groups := ⟨parenthesis, kind, state.verbose, state.level⟩ :: state.groups }

end ParserState

def GroupKind.tree (kind : GroupKind) (span : Span) (body : Tree) : Tree :=
  match kind with
  | .capture index => .capture span index body
  | .plain changes => .group span changes body

/-! ## Group openings -/

def stripLead? (lead : String) (input : List Char) : Option (List Char) :=
  if lead.toList.isPrefixOf input then some (input.drop lead.length) else none

theorem length_stripLead? {lead : String} {input rest : List Char}
    (stripped : stripLead? lead input = some rest) : rest.length ≤ input.length := by
  unfold stripLead? at stripped
  split at stripped
  · cases stripped; simp
  · cases stripped

def lookAround? (input : List Char) : Option (List Char) :=
  stripLead? "?=" input <|> stripLead? "?!" input <|> stripLead? "?<=" input <|>
    stripLead? "?<!" input

def isNameStart (character : Char) : Bool :=
  character = '_' || Unicode.isAlphabetic character

def isNameCharacter (character : Char) : Bool :=
  character = '_' || character = '.' || character = '[' || character = ']' ||
    Unicode.isAlphanumeric character

def readNameLetters (letters : List Char) (input : List Char) :
    Read input (List Char) :=
  match input with
  | [] => fail .nameCutOff (.emptyAt [])
  | letter :: rest =>
      if letter = '>' then .ok (.ofHead letter rest letters.reverse)
      else if (if letters.isEmpty then isNameStart letter else isNameCharacter letter) then
        (readNameLetters (letter :: letters) rest).map (·.after letter)
      else fail .nameCharacter (.head (letter :: rest))

def readName (names : List (List Char × Span)) (input : List Char) :
    Read input (List Char × Span) :=
  match readNameLetters [] input with
  | .error fault => .error fault
  | .ok ⟨name, rest, shorter⟩ =>
      let span : Span := ⟨input.length, input.length - name.length⟩
      if name.isEmpty then fail .nameEmpty (.emptyAt input)
      else
        match names.find? (·.1 = name) with
        | some (_, earlier) => .error ⟨.nameRepeated, span, some earlier⟩
        | none => .ok ⟨(name, span), rest, shorter⟩

structure FlagList where
  flags : List (Flag × Bool × Span)
  negation : Option Span
  dangling : Bool

def FlagList.changes (list : FlagList) : FlagChanges :=
  list.flags.reverse.map fun (flag, value, _) => (flag, value)

def FlagList.isEmpty (list : FlagList) : Bool :=
  list.flags.isEmpty && list.negation.isNone

def readFlags (list : FlagList) (input : List Char) :
    Except Fault (FlagList × { rest : List Char // rest.length ≤ input.length }) :=
  match input with
  | [] => fail .flagCutOff (.emptyAt [])
  | letter :: rest =>
      let span := Span.head (letter :: rest)
      if letter = ':' ∨ letter = ')' then
        match list.dangling, list.negation with
        | true, some negation => fail .negationDangling negation
        | _, _ => .ok (list, ⟨letter :: rest, Nat.le_refl _⟩)
      else
        let added : Except Fault FlagList :=
          if letter = '-' then
            match list.negation with
            | some earlier => .error ⟨.negationRepeated, span, some earlier⟩
            | none => .ok { list with negation := some span, dangling := true }
          else
            match Flag.ofLetter? letter with
            | none => fail .flagUnknown span
            | some flag =>
                match list.flags.find? (·.1 = flag) with
                | some (_, _, earlier) => .error ⟨.flagRepeated, span, some earlier⟩
                | none => .ok { list with
                    flags := (flag, list.negation.isNone, span) :: list.flags
                    dangling := false }
        match added with
        | .error fault => .error fault
        | .ok list =>
            match readFlags list rest with
            | .error fault => .error fault
            | .ok (found, ⟨after, fits⟩) =>
                .ok (found, ⟨after, length_le_cons_of_le letter fits⟩)

def FlagChanges.get? (changes : FlagChanges) (flag : Flag) : Option Bool := changes.lookup flag

def readGroup (state : ParserState) (input : List Char) : Read input ParserState :=
  match input with
  | [] => fail .groupUnclosed (.emptyAt [])
  | parenthesis :: afterParenthesis =>
      let opening := Span.head (parenthesis :: afterParenthesis)
      let inner := skip state.verbose afterParenthesis
      have bound : inner.length ≤ afterParenthesis.length :=
        length_skip_le state.verbose afterParenthesis
      let captured := { state with captures := state.captures + 1 }
      match lookAround? inner with
      | some after => fail .lookAround (.between (parenthesis :: afterParenthesis) after)
      | none =>
          match named : (stripLead? "?P<" inner).or (stripLead? "?<" inner) with
          | some nameStart =>
              have within : nameStart.length ≤ inner.length := by
                rcases Option.or_eq_some_iff.mp named with found | ⟨_, found⟩
                · exact length_stripLead? found
                · exact length_stripLead? found
              match readName state.names nameStart with
              | .error fault => .error fault
              | .ok ⟨name, body, shorter⟩ =>
                  let state := { captured with names := name :: state.names }
                  .ok ⟨state.openGroup opening (.capture captured.captures) state.verbose body,
                    body, by simp only [List.length_cons]; omega⟩
          | none =>
              match equal : inner with
              | ['?'] => fail .groupUnclosed opening
              | '?' :: flagStart =>
                  match readFlags ⟨[], none, false⟩ flagStart with
                  | .error fault => .error fault
                  | .ok (_, ⟨[], _⟩) => fail .flagCutOff (.emptyAt [])
                  | .ok (list, ⟨mark :: body, fits⟩) =>
                      have shorter : body.length < (parenthesis :: afterParenthesis).length := by
                        simp only [List.length_cons] at *; omega
                      let verbose := (list.changes.get? .verbose).getD state.verbose
                      if mark = ')' then
                        if list.isEmpty then
                          fail .repetitionWithoutOperand (.emptyAt ('?' :: flagStart))
                        else
                          let flags :=
                            Tree.setFlags ⟨opening.start, body.length⟩ list.changes
                          .ok ⟨{ state.push flags with verbose }, body, shorter⟩
                      else
                        .ok ⟨state.openGroup opening (.plain list.changes) verbose body, body,
                          shorter⟩
              | body =>
                  .ok ⟨captured.openGroup opening (.capture captured.captures) state.verbose
                    body, body, by simp only [List.length_cons]; omega⟩

/-! ## Steps -/

def closeGroup (state : ParserState) (input rest : List Char) :
    Except Fault ParserState :=
  match state.groups with
  | [] => fail .groupUnopened (.head input)
  | group :: others =>
      let tree := group.kind.tree ⟨group.parenthesis.start, rest.length⟩ (state.level.tree input)
      .ok { state with
        verbose := group.outerVerbose
        level := group.outer.push tree
        groups := others }

def takeOperand (state : ParserState) (input : List Char) :
    Except Fault (Tree × ParserState) :=
  match state.level.items with
  | [] | .empty _ :: _ | .setFlags _ _ :: _ =>
      fail .repetitionWithoutOperand (.emptyAt input)
  | item :: others => .ok (item, { state with level := { state.level with items := others } })

def repeatOperand (state : ParserState) (input rest : List Char) (count : Count)
    (greedy : Bool) : Except Fault ParserState :=
  (takeOperand state input).map fun (operand, state) =>
    state.push (.repetition ⟨operand.span.start, rest.length⟩ count.least count.most greedy
      operand)

def readRepetition (state : ParserState) (input : List Char) (count : Count) :
    Read input ParserState :=
  match input with
  | _ :: '?' :: rest => (repeatOperand state input rest count false).map (⟨·, rest, by
      simp only [List.length_cons]; omega⟩)
  | mark :: rest => (repeatOperand state input rest count true).map (.ofHead mark rest)
  | [] => fail .repetitionWithoutOperand (.emptyAt [])

def readCountedRepetition (state : ParserState) (input : List Char) :
    Read input ParserState :=
  match input with
  | brace :: rest =>
      match takeOperand state (brace :: rest) with
      | .error fault => .error fault
      | .ok _ =>
          match readCount state.verbose (brace :: rest) rest with
          | .error fault => .error fault
          | .ok ⟨(count, greedy), after, shorter⟩ =>
              (repeatOperand state (brace :: rest) after count greedy).map (⟨·, after, by
                simp only [List.length_cons]; omega⟩)
  | [] => fail .repetitionWithoutOperand (.emptyAt [])

def step (state : ParserState) (input : List Char) : Read input ParserState :=
  match input with
  | '(' :: rest => readGroup state ('(' :: rest)
  | ')' :: rest => (closeGroup state (')' :: rest) rest).map (.ofHead ')' rest)
  | '|' :: rest =>
      .ok (.ofHead '|' rest { state with level := state.level.nextAlternative ('|' :: rest) rest })
  | '[' :: rest => (readClass state.verbose ('[' :: rest)).map (·.map state.push)
  | '?' :: rest => readRepetition state ('?' :: rest) ⟨0, some 1⟩
  | '*' :: rest => readRepetition state ('*' :: rest) ⟨0, none⟩
  | '+' :: rest => readRepetition state ('+' :: rest) ⟨1, none⟩
  | '{' :: rest => readCountedRepetition state ('{' :: rest)
  | other => (readPrimitive state.verbose other).map (·.map fun found => state.push found.toTree)

def run (state : ParserState) (input : List Char) : Except Fault Tree :=
  match equal : skip state.verbose input with
  | [] =>
      match state.groups with
      | [] => .ok (state.level.tree [])
      | group :: _ => fail .groupUnclosed group.parenthesis
  | head :: tail =>
      match step state (head :: tail) with
      | .error fault => .error fault
      | .ok ⟨next, rest, shorter⟩ =>
          have : rest.length < input.length :=
            Nat.lt_of_lt_of_le shorter (equal ▸ length_skip_le state.verbose input)
          run next rest
termination_by input.length

def parse (source : List Char) : Except Fault Tree :=
  match run (.initial source) source with
  | .error fault => .error fault
  | .ok tree =>
      match tree.tooDeep? 0 with
      | some span => fail .nestedTooDeep span
      | none => .ok tree

end UriDispatch.Regex
