import UriDispatch.Regex.Expression

/-! Expressions as automata. The states are numbers, and each has an instruction that says which
states may come next. The instructions of an expression lie side by side: a way through begins
with the first of them and leaves to a state that is given. -/

namespace UriDispatch.Regex

inductive Instruction where
  | jump (next : Nat)
  | step (set : CharacterSet) (next : Nat)
  | test (condition : Condition) (next : Nat)
  | openCapture (next : Nat)
  | closeCapture (index next : Nat)
  /-- The first state comes first in the order of preference. -/
  | fork (first second : Nat)
deriving DecidableEq, Repr

def Instruction.option (greedy : Bool) (body exit : Nat) : Instruction :=
  if greedy then .fork body exit else .fork exit body

namespace Expression

def width : Expression → Nat
  | .empty | .step _ | .test _ => 1
  | .capture _ body => body.width + 2
  | .follow first second => first.width + second.width
  | .orElse first second => first.width + second.width + 1
  | .repetition least (some most) _ body =>
      least * body.width + (most - least) * (body.width + 1) + 1
  | .repetition 0 none _ body => body.width + if body.takesSomething then 1 else 2
  | .repetition (least + 1) none _ body => (least + 1) * body.width + 1

def row (width : Nat) (instructions : (here next : Nat) → List Instruction) :
    (count here : Nat) → List Instruction
  | 0, _ => []
  | count + 1, here =>
      instructions here (here + width) ++ row width instructions count (here + width)

/-- The instructions from a state on, which lead to `next`.

A bounded repetition is written out; every round beyond the least can be left out, and with it
all further ones. An unbounded repetition comes back to its last round. If a round may take
nothing, the choice before the first round is a state apart from the choice before further ones,
since a state is not entered twice at one place. -/
def instructions : Expression → (here next : Nat) → List Instruction
  | .empty => fun _ next => [.jump next]
  | .step set => fun _ next => [.step set next]
  | .test condition => fun _ next => [.test condition next]
  | .capture index body => fun here next =>
      .openCapture (here + 1) :: body.instructions (here + 1) (here + 1 + body.width) ++
        [.closeCapture index next]
  | .follow first second => fun here next =>
      first.instructions here (here + first.width) ++
        second.instructions (here + first.width) next
  | .orElse first second => fun here next =>
      .fork (here + 1) (here + 1 + first.width) :: first.instructions (here + 1) next ++
        second.instructions (here + 1 + first.width) next
  | .repetition least (some most) greedy body => fun here next =>
      let options := here + least * body.width
      let exit := options + (most - least) * (body.width + 1)
      row body.width body.instructions least here ++
        row (body.width + 1)
          (fun here next => .option greedy (here + 1) exit :: body.instructions (here + 1) next)
          (most - least) options ++
        [.jump next]
  | .repetition 0 none greedy body => fun here next =>
      let again := if body.takesSomething then here else here + 1 + body.width
      .option greedy (here + 1) next :: body.instructions (here + 1) again ++
        if body.takesSomething then [] else [.option greedy (here + 1) next]
  | .repetition (least + 1) none greedy body => fun here next =>
      let last := here + least * body.width
      row body.width body.instructions (least + 1) here ++ [.option greedy last next]

theorem length_row (width : Nat) (instructions : (here next : Nat) → List Instruction)
    (length : ∀ here next, (instructions here next).length = width) (count here : Nat) :
    (row width instructions count here).length = count * width := by
  induction count generalizing here with
  | zero => simp [row]
  | succ count induction =>
      rw [row, List.length_append, length, induction, Nat.succ_mul, Nat.add_comm]

theorem length_instructions (expression : Expression) (here next : Nat) :
    (expression.instructions here next).length = expression.width := by
  induction expression generalizing here next with
  | empty | step | test => rfl
  | capture index body induction => simp [instructions, width, induction]
  | follow first second left right => simp [instructions, width, left, right]
  | orElse first second left right => simp [instructions, width, left, right, Nat.add_right_comm]
  | repetition least most greedy body induction =>
      have rounds := length_row body.width body.instructions induction
      cases most with
      | some most =>
          simp [instructions, width, rounds, length_row, induction, Nat.add_assoc]
      | none =>
          cases least with
          | zero =>
              simp only [instructions, width]
              split <;> simp [induction]
          | succ least => simp [instructions, width, rounds]

/-- The instructions of an automaton whose states are counted from zero on. Its last state, which
has no instruction, is reached where the expression has been gone through. -/
def program (expression : Expression) : Array Instruction :=
  (expression.instructions 0 expression.width).toArray

example : (repetition 0 none true (.step .full)).program =
    #[.fork 1 2, .step .full 0] := by decide
example : (capture 1 (.orElse (.step .full) .empty)).program =
    #[.openCapture 1, .fork 2 3, .step .full 4, .jump 4, .closeCapture 1 5] := by decide

end Expression

end UriDispatch.Regex
