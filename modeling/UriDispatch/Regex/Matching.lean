import UriDispatch.Regex.Automaton
import UriDispatch.Unicode.Lookup

/-! Finding an expression in a text. The places of a text are numbered from zero up to its
length.

A thread is a walk through the automaton of the expression: the state and the place it has come
to, and the captures on its way. Threads wait on a stack, the preferred one on top, and each takes
one step at a time. A thread that comes to a state at a place where another one has been before
ends there: whatever it could reach, the other one has reached or reaches first. So every state
is entered once at each place, and the first thread that gets through is the preferred match. -/

namespace UriDispatch.Regex

/-! ## Conditions -/

def isWordCharacter (unicode : Bool) : Option Char → Bool
  | none => false
  | some character =>
      if unicode then Unicode.word.contains character
      else character.isAlphanum || character = '_'

def WordEdge.holds (edge : WordEdge) (before after : Bool) : Bool :=
  match edge with
  | .boundary => before ≠ after
  | .noBoundary => before = after
  | .start => !before && after
  | .finish => before && !after
  | .startHalf => !before
  | .finishHalf => !after

def Condition.holds (condition : Condition) (before after : Option Char) : Bool :=
  match condition with
  | .startOfText => before.isNone
  | .endOfText => after.isNone
  | .startOfLine false => before.all (· = '\n')
  | .startOfLine true => before.all fun character =>
      character = '\n' || (character = '\r' && after ≠ some '\n')
  | .endOfLine false => after.all (· = '\n')
  | .endOfLine true => after.all fun character =>
      character = '\r' || (character = '\n' && before ≠ some '\r')
  | .wordEdge edge unicode =>
      edge.holds (isWordCharacter unicode before) (isWordCharacter unicode after)

def before? (text : Array Char) : (place : Nat) → Option Char
  | 0 => none
  | place + 1 => text[place]?

def Condition.holdsAt (condition : Condition) (text : Array Char) (place : Nat) : Bool :=
  condition.holds (before? text place) text[place]?

/-! ## Threads -/

structure Captured where
  index : Nat
  start : Nat
  stop : Nat
deriving DecidableEq, Repr

/-- Where a thread began and where it has come to. The places where captures were opened that
are still open, and the captures it has closed, stand with the last one first. -/
structure Thread where
  start : Nat
  state : Nat
  place : Nat
  opened : List Nat
  captured : List Captured
deriving DecidableEq, Repr

def Thread.beginning (place : Nat) : Thread := ⟨place, 0, place, [], []⟩

def Thread.next (text : Array Char) (thread : Thread) : Instruction → List Thread
  | .jump next => [{ thread with state := next }]
  | .step set next =>
      if text[thread.place]?.any set.contains then
        [{ thread with state := next, place := thread.place + 1 }]
      else []
  | .test condition next =>
      if condition.holdsAt text thread.place then [{ thread with state := next }] else []
  | .openCapture next =>
      [{ thread with state := next, opened := thread.place :: thread.opened }]
  | .closeCapture index next =>
      [{ thread with
        state := next
        opened := thread.opened.tail
        captured :=
          ⟨index, thread.opened.headD thread.place, thread.place⟩ :: thread.captured }]
  | .fork first second => [{ thread with state := first }, { thread with state := second }]

theorem Thread.length_next_le (text : Array Char) (thread : Thread) (instruction : Instruction) :
    (thread.next text instruction).length ≤ 2 := by
  cases instruction with
  | jump | openCapture | closeCapture | fork => simp [Thread.next]
  | step | test =>
      simp only [Thread.next]
      split <;> simp

/-! ## Visited places -/

/-- For each state the places at which it has been entered, as bits. -/
structure Visited where
  places : Array Nat
deriving DecidableEq, Repr

namespace Visited

def none (width : Nat) : Visited := ⟨Array.replicate width 0⟩

def contains (visited : Visited) (state place : Nat) : Bool :=
  (visited.places[state]?.getD 0).testBit place

def insert (visited : Visited) (state place : Nat) : Visited :=
  ⟨visited.places.modify state (· ||| 1 <<< place)⟩

theorem contains_none (width state place : Nat) :
    (none width).contains state place = false := by
  by_cases inside : state < width <;> simp [none, contains, inside]

theorem contains_insert (visited : Visited) (state place otherState otherPlace : Nat)
    (inside : state < visited.places.size) :
    (visited.insert state place).contains otherState otherPlace =
      (visited.contains otherState otherPlace || (otherState = state && otherPlace = place)) := by
  simp only [contains, insert, Array.getElem?_modify]
  by_cases same : state = otherState
  · subst same
    simp [inside, Nat.one_shiftLeft, Nat.testBit_two_pow, eq_comm]
  · have other : ¬otherState = state := fun equal => same equal.symm
    simp [same, other]

end Visited

/-! ## Searching -/

/-- A part of a text that an expression matches, and the parts of its captures, the last values
first. -/
structure Match where
  start : Nat
  stop : Nat
  captured : List Captured
deriving DecidableEq, Repr

def Match.capture? (found : Match) (index : Nat) : Option (Nat × Nat) :=
  (found.captured.find? (·.index = index)).map fun capture => (capture.start, capture.stop)

def Thread.toMatch (thread : Thread) : Match := ⟨thread.start, thread.place, thread.captured⟩

def search (program : Array Instruction) (text : Array Char) :
    (turns : Nat) → Visited → List Thread → Option Match
  | 0, _, _ => none
  | _ + 1, _, [] => none
  | turns + 1, visited, thread :: waiting =>
      if visited.contains thread.state thread.place then search program text turns visited waiting
      else
        match program[thread.state]? with
        | none => some thread.toMatch
        | some instruction =>
            search program text turns (visited.insert thread.state thread.place)
              (thread.next text instruction ++ waiting)

/-- As many turns as a search can take. Each state is entered at most once at each place and
leaves two threads at the most; each thread on the stack is taken off it in one turn. -/
def searchTurns (width places : Nat) : Nat := (2 * width + 1) * places + 1

/-- The preferred match among those that begin leftmost in a text. -/
def Expression.find? (expression : Expression) (text : List Char) : Option Match :=
  let program := expression.program
  let places := text.length + 1
  search program text.toArray (searchTurns program.size places) (.none program.size)
    ((List.range places).map .beginning)

end UriDispatch.Regex
