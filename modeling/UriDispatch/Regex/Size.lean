import UriDispatch.Regex.Expression

/-! The memory that an expression needs once it is made into automata over octets, by which
expressions out of all proportion are refused. There are two automata, one for reading a text
forwards and one for reading it backwards; both see a text as octets of UTF-8, and repetitions
are written out. -/

namespace UriDispatch.Regex

/-- The size in bytes that may not be exceeded. -/
def sizeLimit : Nat := 10485760

/-! ## Extents -/

/-- How much there is of an automaton. States are numbered as they are added. -/
structure Extent where
  states : Nat
  alternatives : Nat
  ranges : Nat
deriving DecidableEq, Repr

namespace Extent

def empty : Extent := ⟨0, 0, 0⟩

def bytes (extent : Extent) : Nat :=
  32 * extent.states + 4 * extent.alternatives + 8 * extent.ranges

def addStates (count : Nat) (extent : Extent) : Extent :=
  { extent with states := extent.states + count }

/-- An alternative more for a state that leaves to several. -/
def addAlternative (extent : Extent) : Extent :=
  { extent with alternatives := extent.alternatives + 1 }

def addFork (alternatives : Nat) (extent : Extent) : Extent :=
  { extent with states := extent.states + 1, alternatives := extent.alternatives + alternatives }

/-- A state that leaves by one of several ranges of octets. -/
def addBranch (ranges : Nat) (extent : Extent) : Extent :=
  { extent with states := extent.states + 1, ranges := extent.ranges + ranges }

/-- As many rounds as are asked for, unless the limit is passed before. -/
def rounds (round : Extent → Extent) : (count : Nat) → Extent → Extent
  | 0, extent => extent
  | count + 1, extent =>
      if sizeLimit < extent.bytes then extent else rounds round count (round extent)

end Extent

/-! ## Octets -/

/-- A range of code points with the same number of digits to base 64 after the first, as sequences
of ranges of digits, each of which stands for all combinations. -/
private def digitRanges : (digits first last : Nat) → List (List CharacterRange)
  | 0, first, last => [[⟨first, last⟩]]
  | digits + 1, first, last =>
      let unit := 1 <<< (6 * (digits + 1))
      let head := first / unit
      let tail := last / unit
      if head = tail then
        (digitRanges digits (first % unit) (last % unit)).map (⟨head, head⟩ :: ·)
      else
        let whole := List.replicate (digits + 1) ⟨0, 63⟩
        let below :=
          if first % unit = 0 then []
          else (digitRanges digits (first % unit) (unit - 1)).map (⟨head, head⟩ :: ·)
        let above :=
          if last % unit = unit - 1 then []
          else (digitRanges digits 0 (last % unit)).map (⟨tail, tail⟩ :: ·)
        let middleFirst := if first % unit = 0 then head else head + 1
        let middleLast := if last % unit = unit - 1 then tail else tail - 1
        below ++
          (if middleFirst ≤ middleLast then [⟨middleFirst, middleLast⟩ :: whole] else []) ++ above

/-- For each length of UTF-8 the code points that are written with it, and what is added to their
first digit. -/
private def lengths : List (Nat × CharacterRange × Nat) :=
  [(0, ⟨0, 0x7F⟩, 0), (1, ⟨0x80, 0x7FF⟩, 0xC0), (2, ⟨0x800, 0xFFFF⟩, 0xE0),
    (3, ⟨0x10000, 0x10FFFF⟩, 0xF0)]

private def shift (amount : Nat) (range : CharacterRange) : CharacterRange :=
  ⟨range.first + amount, range.last + amount⟩

/-- The characters of a range as sequences of ranges of octets. -/
def octetRanges (range : CharacterRange) : List (List CharacterRange) :=
  lengths.flatMap fun (digits, domain, lead) =>
    (range.meet domain).elim [] fun part =>
      (digitRanges digits part.first part.last).map fun ranges =>
        (ranges.take 1).map (shift lead) ++ (ranges.drop 1).map (shift 0x80)

example : octetRanges ⟨0x7F, 0x80⟩ = [[⟨0x7F, 0x7F⟩], [⟨0xC2, 0xC2⟩, ⟨0x80, 0x80⟩]] := by decide
example : octetRanges ⟨0x800, 0xD7FF⟩ =
    [[⟨0xE0, 0xE0⟩, ⟨0xA0, 0xBF⟩, ⟨0x80, 0xBF⟩], [⟨0xE1, 0xEC⟩, ⟨0x80, 0xBF⟩, ⟨0x80, 0xBF⟩],
      [⟨0xED, 0xED⟩, ⟨0x80, 0x9F⟩, ⟨0x80, 0xBF⟩]] := by
  decide

/-- The octets of one character. -/
private def octets (code : Nat) : List Nat :=
  (octetRanges ⟨code, code⟩).flatten.map (·.first)

/-! ## Sets

While a set is made into states, a table of a fixed number of slots tells which there are already,
so that equal ones are shared. A state displaces the one that was in its slot; what is added, then,
depends on the numbers of the states. -/

/-- The hash FNV-1a, taken over numbers in place of octets. -/
private def hash (numbers : List Nat) : UInt64 :=
  numbers.foldl (fun hash number => (hash ^^^ .ofNat number) * 1099511628211) 14695981039346656037

private structure Entry where
  slot : Nat
  key : List Nat
  state : Nat

private structure Sharing where
  extent : Extent
  /-- The latest entry of a slot comes first. -/
  table : List Entry

/-- The state with a key, which is added unless the table has it. -/
private def share (slots : Nat) (add : Extent → Extent) (key : List Nat) : StateM Sharing Nat := do
  let slot := (hash key).toNat % slots
  let sharing ← get
  match (sharing.table.find? (·.slot = slot)).filter (·.key = key) with
  | some entry => return entry.state
  | none =>
      let state := sharing.extent.states
      set (Sharing.mk (add sharing.extent) (⟨slot, key, state⟩ :: sharing.table))
      return state

/-- What may follow the first range, for each range that comes first. -/
private def continuations (sequences : List (List CharacterRange)) :
    List (CharacterRange × List (List CharacterRange)) :=
  (sequences.splitBy fun left right => left.head? = right.head?).filterMap fun group =>
    group.head?.bind fun first => first.head?.map (·, group.map List.tail)

/-- Forwards, sequences that end in the same way share the states of their ends. -/
private def forwardState (target : Nat) : (depth : Nat) → List (List CharacterRange) →
    StateM Sharing Nat
  | 0, _ => return target
  | depth + 1, sequences => do
      if sequences.all List.isEmpty then return target
      let ways ← (continuations sequences).mapM fun (range, rest) => do
        return [range.first, range.last, ← forwardState target depth rest]
      share 10000 (.addBranch ways.length) ways.flatten

/-- Backwards, sequences that begin in the same way share the states of their beginnings. -/
private def backwardState (target : Nat) (sequence : List CharacterRange) : StateM Sharing Nat :=
  sequence.foldlM (fun state range => share 1000 (.addStates 1) [state, range.first, range.last])
    target

private def addForwards (sequences : List (List CharacterRange)) (extent : Extent) : Extent :=
  ((forwardState extent.states 4 sequences).run ⟨extent.addStates 1, []⟩).2.extent

private def addBackwards (sequences : List (List CharacterRange)) (extent : Extent) : Extent :=
  let start := (extent.addFork sequences.length).addStates 1
  ((sequences.mapM (backwardState (extent.states + 1))).run ⟨start, []⟩).2.extent

private def addSet (backwards : Bool) (set : CharacterSet) (extent : Extent) : Extent :=
  match set.single? with
  | some code => extent.addStates (octets code).length
  | none =>
      if set.isAscii then (extent.addStates 1).addBranch set.ranges.length
      else
        let sequences := set.ranges.flatMap octetRanges
        if backwards then addBackwards sequences extent else addForwards sequences extent

/-! ## Texts

A choice between texts becomes a tree in which they share the states of their beginnings, as far
as their order allows: a text that ends at a node comes between those before and after it. -/

/-- The texts that go on, in runs between those that end here. -/
private def runs : List (List Nat) → List (List (List Nat))
  | [] => [[]]
  | [] :: rest => [] :: runs rest
  | text :: rest => (runs rest).modifyHead (text :: ·)

/-- A node from which texts go on, up to a given depth. -/
private def addNode : (depth : Nat) → List (List Nat) → Extent → Extent
  | 0, _, extent => extent
  | depth + 1, texts, extent =>
      let ends := texts.takeWhile List.isEmpty
      let runs := runs (ends.take 1 ++ texts.drop ends.length)
      let ways := runs.filter (!·.isEmpty)
      let withRuns := ways.foldl (fun extent run =>
        let heads := (run.filterMap List.head?).eraseDups
        let withNodes := heads.foldl (fun extent head =>
          let rest := (run.filter (·.head? = some head)).map List.tail
          if rest.all List.isEmpty then extent else addNode depth rest extent) extent
        if heads.length = 1 then withNodes.addStates 1 else withNodes.addBranch heads.length) extent
      withRuns.addFork (ways.length + runs.length - 1)

private def addTexts (texts : List (List Nat)) (extent : Extent) : Extent :=
  addNode ((texts.map List.length).foldl max 0) texts (extent.addStates 1)

/-- The octets of an expression that is a text. -/
private def text? (expression : Expression) : Option (List Nat) :=
  let parts := expression.parts
  if !parts.isEmpty && parts.all (·.isCharacter) then
    some (parts.flatMap fun
      | .step set => set.single?.elim [] octets
      | _ => [])
  else none

/-! ## Expressions -/

/-- Where an expression stands in a choice. -/
private inductive Standing where
  | alone
  | second
  | later

/-- The way to an alternative. The state that leaves to all of them comes after the second one, with
the state where they meet. -/
private def Standing.addWay : Standing → Extent → Extent
  | .alone, extent => extent
  | .second, extent => (extent.addFork 2).addStates 1
  | .later, extent => extent.addAlternative

private def addExactly (round : Extent → Extent) (count : Nat) (extent : Extent) : Extent :=
  if count = 0 then extent.addStates 1 else extent.rounds round count

private def addExpression (backwards : Bool) : Expression → Standing → Extent → Extent
  | .empty, standing, extent | .test _, standing, extent => standing.addWay (extent.addStates 1)
  | .step set, standing, extent => standing.addWay (addSet backwards set extent)
  | .capture _ body, standing, extent =>
      let ends := if backwards then 0 else 1
      let inside := addExpression backwards body .alone (extent.addStates ends)
      standing.addWay (inside.addStates ends)
  | .follow first second, standing, extent =>
      let addFirst := addExpression backwards first .alone
      let addSecond := addExpression backwards second .alone
      standing.addWay <|
        if backwards then addFirst (addSecond extent) else addSecond (addFirst extent)
  | .orElse first second, .alone, extent =>
      let branches := (Expression.orElse first second).branches
      let texts := branches.filterMap text?
      if texts.length = branches.length then
        addTexts (if backwards then texts.map List.reverse else texts) extent
      else addExpression backwards second .second (addExpression backwards first .alone extent)
  | .orElse first second, standing, extent =>
      addExpression backwards second .later (addExpression backwards first standing extent)
  | .repetition least most _ body, standing, extent =>
      let round := addExpression backwards body .alone
      standing.addWay <|
        match least, most with
        | 0, none =>
            if body.takesSomething then round (extent.addFork 2)
            else (((round extent).addFork 2).addFork 2).addStates 1
        | least, none => (extent.rounds round least).addFork 2
        | 0, some 1 => (round (extent.addFork 2)).addStates 1
        | least, some most =>
            let start := addExactly round least extent
            if least = most then start
            else (start.addStates 1).rounds (fun extent => round (extent.addFork 2)) (most - least)

/-- The states with which a search starts. Where a match need not start with the text, they pass
over any octets before it. -/
private def approach (expression : Expression) : Extent :=
  if expression.startsAtText then Extent.empty.addStates 1
  else ((Extent.empty.addFork 2).addStates 1).addBranch 1

private def forwards (expression : Expression) : Extent :=
  -- Around the states of the expression there are those of the capture of the whole match.
  (addExpression false expression .alone ((approach expression).addStates 1)).addStates 2

private def backwards (expression : Expression) : Extent :=
  (addExpression true expression .alone (approach expression)).addStates 1

/-- The size in bytes of the larger automaton. Past the limit, repetitions are no longer counted. -/
def Expression.size (expression : Expression) : Nat :=
  max (forwards expression).bytes (backwards expression).bytes

end UriDispatch.Regex
