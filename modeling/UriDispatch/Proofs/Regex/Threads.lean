import UriDispatch.Proofs.Regex.Ways

/-! Threads go the ways of an expression. The instructions of an expression, wherever they are
placed in a program, lead from their first state to the state that is given, and they do so along
the ways of the expression and along no others. -/

namespace UriDispatch.Regex

/-! ## Runs -/

def Thread.Goes (program : Array Instruction) (text : Array Char) (thread after : Thread) : Prop :=
  ∃ instruction, program[thread.state]? = some instruction ∧
    after ∈ thread.next text instruction

inductive Runs (program : Array Instruction) (text : Array Char) :
    Nat → Thread → Thread → Prop where
  | done {thread : Thread} (atEnd : program[thread.state]? = none) : Runs program text 0 thread thread
  | step {steps : Nat} {thread after last : Thread} (goes : thread.Goes program text after)
      (runs : Runs program text steps after last) : Runs program text (steps + 1) thread last

inductive Reaches (program : Array Instruction) (text : Array Char) : Thread → Thread → Prop where
  | here {thread : Thread} : Reaches program text thread thread
  | step {thread after last : Thread} (goes : thread.Goes program text after)
      (reaches : Reaches program text after last) : Reaches program text thread last

theorem Reaches.trans {program : Array Instruction} {text : Array Char}
    {first second third : Thread} (left : Reaches program text first second)
    (right : Reaches program text second third) : Reaches program text first third := by
  induction left with
  | here => exact right
  | step goes _ induction => exact .step goes (induction right)

def Thread.move (thread : Thread) (state place : Nat) (captured : List Captured) : Thread :=
  { thread with state, place, captured := captured ++ thread.captured }

theorem Thread.move_move (thread : Thread) (first second place other : Nat)
    (before after : List Captured) :
    (thread.move first place before).move second other after =
      thread.move second other (after ++ before) := by
  simp [move]

/-! ## Programs that realize passages -/

/-- From one state to another one, threads take the ways of a passage. Each takes at least so many
steps. -/
structure Realizes (program : Array Instruction) (text : Array Char) (cost here next : Nat)
    (passage : Passage) : Prop where
  sound : ∀ {steps : Nat} (thread : Thread) {last : Thread}, thread.state = here →
    Runs program text steps thread last → ∃ rest stop captured, rest + cost ≤ steps ∧
      passage thread.place stop captured ∧
        Runs program text rest (thread.move next stop captured) last
  complete : ∀ (thread : Thread) {stop : Nat} {captured : List Captured}, thread.state = here →
    passage thread.place stop captured →
      Reaches program text thread (thread.move next stop captured)

namespace Realizes

variable {program : Array Instruction} {text : Array Char} {cost other here middle next : Nat}
  {passage second : Passage}

theorem weaken (realizes : Realizes program text cost here next passage) (less : other ≤ cost) :
    Realizes program text other here next passage where
  sound := by
    intro steps thread last equal runs
    rcases realizes.sound thread equal runs with ⟨rest, stop, captured, bound, way, after⟩
    exact ⟨rest, stop, captured, by omega, way, after⟩
  complete := realizes.complete

theorem stay : Realizes program text 0 here here .stay where
  sound := by
    intro steps thread last equal runs
    refine ⟨steps, thread.place, [], Nat.le_refl _, ⟨rfl, rfl⟩, ?_⟩
    rw [← equal]
    exact runs
  complete := by
    rintro thread stop captured rfl ⟨rfl, rfl⟩
    exact .here

theorem next_of (first : Realizes program text cost here middle passage)
    (after : Realizes program text other middle next second) :
    Realizes program text (cost + other) here next (passage.next second) where
  sound := by
    intro steps thread last equal runs
    rcases first.sound thread equal runs with ⟨rest, place, before, bound, way, runs⟩
    rcases after.sound _ rfl runs with ⟨left, stop, captured, further, continued, runs⟩
    refine ⟨left, stop, captured ++ before, by omega,
      ⟨place, before, captured, way, continued, rfl⟩, ?_⟩
    rwa [Thread.move_move] at runs
  complete := by
    rintro thread stop _ equal ⟨place, before, captured, way, continued, rfl⟩
    have further := after.complete (thread.move middle place before) rfl continued
    rw [Thread.move_move] at further
    exact (first.complete thread equal way).trans further

theorem of_instruction {instruction : Instruction} (placed : program[here]? = some instruction)
    (steps : ∀ thread after, after ∈ Thread.next text thread instruction ↔
      ∃ stop captured, passage thread.place stop captured ∧
        after = thread.move next stop captured) :
    Realizes program text 1 here next passage where
  sound := by
    rintro _ thread last rfl runs
    cases runs with
    | done atEnd =>
        rw [placed] at atEnd
        cases atEnd
    | step goes runs =>
        rcases goes with ⟨own, found, goes⟩
        rw [placed, Option.some.injEq] at found
        subst found
        rcases (steps thread _).mp goes with ⟨stop, captured, way, rfl⟩
        exact ⟨_, stop, captured, Nat.le_refl _, way, runs⟩
  complete := by
    rintro thread stop captured rfl way
    exact .step ⟨instruction, placed, (steps thread _).mpr ⟨stop, captured, way, rfl⟩⟩ .here

theorem jump (placed : program[here]? = some (.jump next)) :
    Realizes program text 1 here next .stay :=
  .of_instruction placed fun thread after => by
    simp [Thread.next, Passage.stay, Thread.move]

theorem fork {first after : Nat} (placed : program[here]? = some (.fork first after))
    (left : Realizes program text cost first next passage)
    (right : Realizes program text other after next second) :
    Realizes program text 1 here next fun start stop captured =>
      passage start stop captured ∨ second start stop captured where
  sound := by
    rintro _ thread last rfl runs
    cases runs with
    | done atEnd =>
        rw [placed] at atEnd
        cases atEnd
    | step goes runs =>
        rcases goes with ⟨own, found, goes⟩
        rw [placed, Option.some.injEq] at found
        subst found
        simp only [Thread.next, List.mem_cons, List.not_mem_nil, or_false] at goes
        rcases goes with rfl | rfl
        · rcases left.sound _ rfl runs with ⟨rest, stop, captured, bound, way, runs⟩
          exact ⟨rest, stop, captured, by omega, .inl way, runs⟩
        · rcases right.sound _ rfl runs with ⟨rest, stop, captured, bound, way, runs⟩
          exact ⟨rest, stop, captured, by omega, .inr way, runs⟩
  complete := by
    rintro thread stop captured rfl (way | way)
    · exact .step ⟨_, placed, by simp [Thread.next]⟩
        (left.complete { thread with state := first } rfl way)
    · exact .step ⟨_, placed, by simp [Thread.next]⟩
        (right.complete { thread with state := after } rfl way)

theorem option {greedy : Bool} {body : Nat}
    (placed : program[here]? = some (.option greedy body next))
    (through : Realizes program text cost body next passage) :
    Realizes program text 1 here next fun start stop captured =>
      passage start stop captured ∨ Passage.stay start stop captured := by
  cases greedy with
  | true => exact fork placed through stay
  | false =>
      have swapped := fork placed stay through
      simpa only [or_comm] using swapped

theorem capture {index : Nat} (opens : program[here]? = some (.openCapture (here + 1)))
    (through : Realizes program text cost (here + 1) middle passage)
    (closes : program[middle]? = some (.closeCapture index next)) :
    Realizes program text 1 here next fun start stop captured =>
      ∃ inner, passage start stop inner ∧ captured = ⟨index, start, stop⟩ :: inner where
  sound := by
    rintro _ thread last rfl runs
    cases runs with
    | done atEnd =>
        rw [opens] at atEnd
        cases atEnd
    | step goes runs =>
        rcases goes with ⟨own, found, goes⟩
        rw [opens, Option.some.injEq] at found
        subst found
        rw [Thread.next, List.mem_singleton] at goes
        subst goes
        rcases through.sound _ rfl runs with ⟨rest, stop, inner, bound, way, runs⟩
        cases runs with
        | done atEnd =>
            change program[middle]? = none at atEnd
            rw [closes] at atEnd
            cases atEnd
        | step goes runs =>
            rcases goes with ⟨own, found, goes⟩
            change program[middle]? = some own at found
            rw [closes, Option.some.injEq] at found
            subst found
            rw [Thread.next, List.mem_singleton] at goes
            subst goes
            exact ⟨_, stop, ⟨index, thread.place, stop⟩ :: inner, by omega,
              ⟨inner, way, rfl⟩, runs⟩
  complete := by
    rintro thread stop captured rfl ⟨inner, way, rfl⟩
    have body := through.complete
      { thread with state := thread.state + 1, opened := thread.place :: thread.opened } rfl way
    refine .step ⟨_, opens, List.mem_singleton.mpr rfl⟩ (body.trans ?_)
    exact .step ⟨_, closes, List.mem_singleton.mpr rfl⟩ .here

end Realizes

/-! ## Repetitions -/

def Passage.atMost (body : Passage) : (count : Nat) → Passage
  | 0 => .stay
  | count + 1 => fun start stop captured =>
      body.next (body.atMost count) start stop captured ∨ Passage.stay start stop captured

theorem Passage.atMost_iff (body : Passage) (bound start stop : Nat) (captured : List Captured) :
    body.atMost bound start stop captured ↔
      ∃ count ≤ bound, body.rounds count start stop captured := by
  induction bound generalizing start stop captured with
  | zero =>
      constructor
      · intro way
        exact ⟨0, Nat.le_refl 0, way⟩
      · rintro ⟨count, none, way⟩
        rw [Nat.le_zero.mp none] at way
        exact way
  | succ bound induction =>
      constructor
      · rintro (⟨middle, before, after, first, rest, rfl⟩ | way)
        · rcases (induction ..).mp rest with ⟨count, fits, way⟩
          exact ⟨count + 1, Nat.succ_le_succ fits, middle, before, after, first, way, rfl⟩
        · exact ⟨0, Nat.zero_le _, way⟩
      · rintro ⟨count, fits, way⟩
        cases count with
        | zero => exact .inr way
        | succ count =>
            rcases way with ⟨middle, before, after, first, rest, rfl⟩
            exact .inl ⟨middle, before, after, first,
              (induction ..).mpr ⟨count, Nat.le_of_succ_le_succ fits, rest⟩, rfl⟩

def Passage.many (body : Passage) : Passage := fun start stop captured =>
  ∃ count, body.rounds count start stop captured

def Placed (program : Array Instruction) (here : Nat) (instructions : List Instruction) : Prop :=
  ∀ offset instruction, instructions[offset]? = some instruction →
    program[here + offset]? = some instruction

theorem placed_append {program : Array Instruction} {here : Nat}
    {first second : List Instruction} (placed : Placed program here (first ++ second)) :
    Placed program here first ∧ Placed program (here + first.length) second := by
  constructor
  · intro offset instruction found
    apply placed
    rw [List.getElem?_append_left (List.getElem?_eq_some_iff.mp found).1]
    exact found
  · intro offset instruction found
    rw [Nat.add_assoc]
    apply placed
    rw [List.getElem?_append_right (Nat.le_add_right _ _), Nat.add_sub_cancel_left]
    exact found

theorem placed_cons {program : Array Instruction} {here : Nat} {first : Instruction}
    {rest : List Instruction} (placed : Placed program here (first :: rest)) :
    program[here]? = some first ∧ Placed program (here + 1) rest :=
  ⟨placed 0 first rfl, (placed_append (show Placed program here ([first] ++ rest) from placed)).2⟩

theorem mem_next_option {text : Array Char} {thread after : Thread} {greedy : Bool}
    {body exit : Nat} :
    after ∈ thread.next text (.option greedy body exit) ↔
      after = { thread with state := body } ∨ after = { thread with state := exit } := by
  cases greedy with
  | true => simp [Instruction.option, Thread.next]
  | false => simp [Instruction.option, Thread.next, or_comm]

namespace Realizes

variable {program : Array Instruction} {text : Array Char}

/-- Going back to a choice as often as it takes. Each round takes a step, so it ends. -/
theorem loop {greedy : Bool} {here body next : Nat} {passage : Passage}
    (placed : program[here]? = some (.option greedy body next))
    (through : Realizes program text 1 body here passage) :
    Realizes program text 1 here next passage.many where
  sound := by
    intro steps
    induction steps using Nat.strongRecOn with
    | ind steps induction =>
        intro thread last equal runs
        cases runs with
        | done atEnd =>
            rw [equal, placed] at atEnd
            cases atEnd
        | step goes runs =>
            rcases goes with ⟨own, found, goes⟩
            rw [equal, placed, Option.some.injEq] at found
            subst found
            rcases mem_next_option.mp goes with rfl | rfl
            · rcases through.sound _ rfl runs with ⟨rest, place, before, bound, first, runs⟩
              rcases induction rest (by omega) (thread.move here place before) rfl runs with
                ⟨left, stop, captured, further, ⟨count, way⟩, runs⟩
              refine ⟨left, stop, captured ++ before, by omega,
                ⟨count + 1, place, before, captured, first, way, rfl⟩, ?_⟩
              rwa [Thread.move_move] at runs
            · exact ⟨_, thread.place, [], Nat.le_refl _, ⟨0, rfl, rfl⟩, runs⟩
  complete := by
    rintro thread stop captured equal ⟨count, way⟩
    have enters (thread : Thread) (equal : thread.state = here) (state : Nat)
        (choice : state = body ∨ state = next) :
        thread.Goes program text { thread with state } := by
      subst equal
      refine ⟨_, placed, mem_next_option.mpr ?_⟩
      rcases choice with rfl | rfl
      · exact .inl rfl
      · exact .inr rfl
    induction count generalizing thread stop captured with
    | zero =>
        rcases way with ⟨rfl, rfl⟩
        exact .step (enters thread equal next (.inr rfl)) .here
    | succ count induction =>
        rcases way with ⟨place, before, after, first, rest, rfl⟩
        have round := through.complete { thread with state := body } rfl first
        have further := induction (thread.move here place before) rfl rest
        rw [Thread.move_move] at further
        exact .step (enters thread equal body (.inl rfl)) (round.trans further)

theorem row {width : Nat} {instructions : (here next : Nat) → List Instruction}
    {passage : Passage} (length : ∀ here next, (instructions here next).length = width)
    (each : ∀ here, Placed program here (instructions here (here + width)) →
      Realizes program text 1 here (here + width) passage) {count here : Nat}
    (placed : Placed program here (Expression.row width instructions count here)) :
    Realizes program text 0 here (here + count * width) (passage.rounds count) := by
  induction count generalizing here with
  | zero =>
      rw [Nat.zero_mul]
      exact stay
  | succ count induction =>
      have parts := placed_append placed
      rw [length] at parts
      have whole := (each here parts.1).next_of (induction parts.2)
      rw [Nat.succ_mul, Nat.add_comm (count * width), ← Nat.add_assoc]
      exact whole.weaken (Nat.zero_le _)

theorem options {greedy : Bool} {width exit : Nat}
    {instructions : (here next : Nat) → List Instruction} {passage : Passage}
    (length : ∀ here next, (instructions here next).length = width)
    (each : ∀ here, Placed program here (instructions here (here + width)) →
      Realizes program text 1 here (here + width) passage) {count here : Nat}
    (placed : Placed program here (Expression.row (width + 1) (fun here next =>
      .option greedy (here + 1) exit :: instructions (here + 1) next) count here))
    (ends : exit = here + count * (width + 1)) :
    Realizes program text 0 here exit (passage.atMost count) := by
  induction count generalizing here with
  | zero =>
      rw [ends, Nat.zero_mul]
      exact stay
  | succ count induction =>
      have parts := placed_append placed
      rw [List.length_cons, length] at parts
      have choice := placed_cons parts.1
      have same : here + (width + 1) = here + 1 + width := by omega
      rw [same] at choice parts
      have rest := induction parts.2 (by rw [ends, Nat.succ_mul]; omega)
      exact (option choice.1 ((each _ choice.2).next_of rest)).weaken (Nat.zero_le _)

end Realizes

/-! ## Expressions -/

theorem way_bounded (text : Array Char) (least bound : Nat) (greedy : Bool) (body : Expression) :
    (Expression.repetition least (some bound) greedy body).Way text =
      ((body.Way text).rounds least).next ((body.Way text).atMost (bound - least)) := by
  funext start stop captured
  apply propext
  constructor
  · rintro ⟨count, enough, bounded, way⟩
    have fits := bounded bound rfl
    rw [← Nat.add_sub_cancel' enough, Passage.rounds_add] at way
    rcases way with ⟨middle, before, after, first, rest, equal⟩
    exact ⟨middle, before, after, first,
      (Passage.atMost_iff ..).mpr ⟨count - least, by omega, rest⟩, equal⟩
  · rintro ⟨middle, before, after, first, rest, equal⟩
    rcases (Passage.atMost_iff ..).mp rest with ⟨count, fits, way⟩
    refine ⟨least + count, Nat.le_add_right _ _, ?_, ?_⟩
    · intro own equal
      cases equal
      omega
    · rw [Passage.rounds_add]
      exact ⟨middle, before, after, first, way, equal⟩

theorem way_unbounded (text : Array Char) (least : Nat) (greedy : Bool) (body : Expression) :
    (Expression.repetition least none greedy body).Way text =
      ((body.Way text).rounds least).next (body.Way text).many := by
  funext start stop captured
  apply propext
  constructor
  · rintro ⟨count, enough, _, way⟩
    rw [← Nat.add_sub_cancel' enough, Passage.rounds_add] at way
    rcases way with ⟨middle, before, after, first, rest, equal⟩
    exact ⟨middle, before, after, first, ⟨count - least, rest⟩, equal⟩
  · rintro ⟨middle, before, after, first, ⟨count, rest⟩, equal⟩
    refine ⟨least + count, Nat.le_add_right _ _, ?_, ?_⟩
    · intro bound impossible
      cases impossible
    · rw [Passage.rounds_add]
      exact ⟨middle, before, after, first, rest, equal⟩

theorem many_eq (body : Passage) : body.many = fun start stop captured =>
    body.next body.many start stop captured ∨ Passage.stay start stop captured := by
  funext start stop captured
  apply propext
  constructor
  · rintro ⟨count, way⟩
    cases count with
    | zero => exact .inr way
    | succ count =>
        rcases way with ⟨middle, before, after, first, rest, equal⟩
        exact .inl ⟨middle, before, after, first, ⟨count, rest⟩, equal⟩
  · rintro (⟨middle, before, after, first, ⟨count, rest⟩, equal⟩ | way)
    · exact ⟨count + 1, middle, before, after, first, rest, equal⟩
    · exact ⟨0, way⟩

theorem row_succ (width : Nat) (instructions : (here next : Nat) → List Instruction)
    (count here : Nat) :
    Expression.row width instructions (count + 1) here =
      Expression.row width instructions count here ++
        instructions (here + count * width) (here + count * width + width) := by
  induction count generalizing here with
  | zero => simp [Expression.row]
  | succ count induction =>
      rw [Expression.row, induction, Expression.row, List.append_assoc]
      have same : here + width + count * width = here + (count + 1) * width := by
        rw [Nat.succ_mul]
        omega
      rw [same]

theorem realizes_instructions {program : Array Instruction} {text : Array Char}
    {expression : Expression} {here next : Nat}
    (placed : Placed program here (expression.instructions here next)) :
    Realizes program text 1 here next (expression.Way text) := by
  induction expression generalizing here next with
  | empty =>
      exact .jump (placed_cons placed).1
  | step set =>
      refine .of_instruction (placed_cons placed).1 fun thread after => ?_
      simp [Thread.next, Expression.Way, Thread.move]
  | test condition =>
      refine .of_instruction (placed_cons placed).1 fun thread after => ?_
      simp [Thread.next, Expression.Way, Thread.move]
  | capture index body induction =>
      have opening := placed_cons placed
      have inside := placed_append opening.2
      rw [Expression.length_instructions] at inside
      exact .capture opening.1 (induction inside.1) (placed_cons inside.2).1
  | follow first second left right =>
      have parts := placed_append placed
      rw [Expression.length_instructions] at parts
      exact ((left parts.1).next_of (right parts.2)).weaken (by decide)
  | orElse first second left right =>
      have choice := placed_cons placed
      have parts := placed_append choice.2
      rw [Expression.length_instructions] at parts
      exact .fork choice.1 (left parts.1) (right parts.2)
  | repetition least most greedy body induction =>
      have length := body.length_instructions
      cases most with
      | some bound =>
          have parts := placed_append placed
          have rounds := placed_append parts.1
          rw [List.length_append, Expression.length_row _ _ length,
            Expression.length_row _ _ (by simp [length]), ← Nat.add_assoc] at parts
          rw [Expression.length_row _ _ length] at rounds
          have least := Realizes.row length (fun here => induction) rounds.1
          have others := Realizes.options length (fun here => induction) rounds.2 rfl
          have whole := (least.next_of others).next_of (.jump (placed_cons parts.2).1)
          rw [Passage.next_stay] at whole
          rw [way_bounded]
          exact whole
      | none =>
          cases least with
          | zero =>
              rw [way_unbounded, Passage.rounds, Passage.stay_next]
              have choice := placed_cons placed
              by_cases something : body.takesSomething
              · simp only [something, if_true] at choice
                exact .loop choice.1 (induction (placed_append choice.2).1)
              · simp only [something, Bool.false_eq_true, if_false] at choice
                have parts := placed_append choice.2
                rw [length] at parts
                have round := induction parts.1
                rw [many_eq]
                exact .option choice.1 (round.next_of (.loop (placed_cons parts.2).1 round))
          | succ least =>
              rw [way_unbounded]
              have parts := placed_append placed
              rw [Expression.length_row _ _ length] at parts
              have rounds := Realizes.row length (fun here => induction) parts.1
              have last := (placed_append (row_succ .. ▸ parts.1)).2
              rw [Expression.length_row _ _ length] at last
              have same : here + least * body.width + body.width =
                  here + (least + 1) * body.width := by
                rw [Nat.succ_mul, Nat.add_assoc]
              rw [same] at last
              have again := Realizes.loop (placed_cons parts.2).1 (induction last)
              exact (rounds.next_of again).weaken (Nat.le_add_left _ _)

end UriDispatch.Regex
