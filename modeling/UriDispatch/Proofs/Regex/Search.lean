import Mathlib.Data.Finset.Prod
import Mathlib.Data.Finset.Card
import UriDispatch.Proofs.Regex.Threads

/-! A search finds a way wherever there is one, and all that it finds are ways. The places that
were visited are closed under steps but for the threads that wait, so that a search that ends
without a match has seen everything that can be reached. -/

namespace UriDispatch.Regex

variable {program : Array Instruction} {text : Array Char}

/-! ## Single turns -/

theorem search_known {turns : Nat} {visited : Visited} {thread : Thread} {waiting : List Thread}
    (known : visited.contains thread.state thread.place = true) :
    search program text (turns + 1) visited (thread :: waiting) =
      search program text turns visited waiting := by
  rw [search, if_pos known]

theorem search_end {turns : Nat} {visited : Visited} {thread : Thread} {waiting : List Thread}
    (fresh : visited.contains thread.state thread.place = false)
    (atEnd : program[thread.state]? = none) :
    search program text (turns + 1) visited (thread :: waiting) = some thread.toMatch := by
  rw [search, if_neg (Bool.eq_false_iff.mp fresh), atEnd]

theorem search_step {turns : Nat} {visited : Visited} {thread : Thread} {waiting : List Thread}
    {instruction : Instruction} (fresh : visited.contains thread.state thread.place = false)
    (placed : program[thread.state]? = some instruction) :
    search program text (turns + 1) visited (thread :: waiting) =
      search program text turns (visited.insert thread.state thread.place)
        (thread.next text instruction ++ waiting) := by
  rw [search, if_neg (Bool.eq_false_iff.mp fresh), placed]

/-! ## What is found -/

theorem search_sound {turns : Nat} {visited : Visited} {waiting : List Thread} {found : Match}
    (success : search program text turns visited waiting = some found) :
    ∃ thread ∈ waiting, ∃ steps last, Runs program text steps thread last ∧
      found = last.toMatch := by
  fun_induction search program text turns visited waiting with
  | case1 => cases success
  | case2 => cases success
  | case3 turns visited thread waiting _ induction =>
      rcases induction success with ⟨other, member, rest⟩
      exact ⟨other, List.mem_cons_of_mem thread member, rest⟩
  | case4 turns visited thread waiting _ atEnd =>
      cases success
      exact ⟨thread, List.mem_cons_self, 0, thread, .done atEnd, rfl⟩
  | case5 turns visited thread waiting _ instruction placed induction =>
      rcases induction success with ⟨other, member, steps, last, runs, equal⟩
      rcases List.mem_append.mp member with isNext | waits
      · exact ⟨thread, List.mem_cons_self, steps + 1, last,
          .step ⟨instruction, placed, isNext⟩ runs, equal⟩
      · exact ⟨other, List.mem_cons_of_mem thread waits, steps, last, runs, equal⟩

/-! ## What is missed -/

def Thread.Meets (thread other : Thread) : Prop :=
  thread.state = other.state ∧ thread.place = other.place

theorem Thread.Meets.goes {thread other after : Thread} (meets : thread.Meets other)
    (goes : thread.Goes program text after) :
    ∃ further, other.Goes program text further ∧ after.Meets further := by
  rcases goes with ⟨instruction, placed, member⟩
  rw [meets.1] at placed
  have same := meets.2
  cases instruction with
  | jump next =>
      rw [Thread.next, List.mem_singleton] at member
      subst member
      exact ⟨_, ⟨_, placed, List.mem_singleton.mpr rfl⟩, rfl, same⟩
  | openCapture next =>
      rw [Thread.next, List.mem_singleton] at member
      subst member
      exact ⟨_, ⟨_, placed, List.mem_singleton.mpr rfl⟩, rfl, same⟩
  | closeCapture index next =>
      rw [Thread.next, List.mem_singleton] at member
      subst member
      exact ⟨_, ⟨_, placed, List.mem_singleton.mpr rfl⟩, rfl, same⟩
  | step set next =>
      simp only [Thread.next] at member
      split at member
      · next inside =>
          rw [List.mem_singleton] at member
          subst member
          refine ⟨{ other with state := next, place := other.place + 1 },
            ⟨_, placed, ?_⟩, rfl, congrArg (· + 1) same⟩
          rw [Thread.next, ← same, if_pos inside]
          exact List.mem_singleton.mpr rfl
      · cases member
  | test condition next =>
      simp only [Thread.next] at member
      split at member
      · next holds =>
          rw [List.mem_singleton] at member
          subst member
          refine ⟨{ other with state := next }, ⟨_, placed, ?_⟩, rfl, same⟩
          rw [Thread.next, ← same, if_pos holds]
          exact List.mem_singleton.mpr rfl
      · cases member
  | fork first second =>
      simp only [Thread.next, List.mem_cons, List.not_mem_nil, or_false] at member
      rcases member with rfl | rfl
      · exact ⟨_, ⟨_, placed, List.mem_cons_self⟩, rfl, same⟩
      · exact ⟨_, ⟨_, placed, List.mem_cons_of_mem _ List.mem_cons_self⟩, rfl, same⟩

def Visited.Holds (visited : Visited) (thread : Thread) : Prop :=
  visited.contains thread.state thread.place = true

/-- The places visited are no ends, and each step from them leads to another one or to a thread
that waits. -/
structure Closed (program : Array Instruction) (text : Array Char) (visited : Visited)
    (waiting : List Thread) : Prop where
  inside : ∀ thread, visited.Holds thread → program[thread.state]? ≠ none
  leads : ∀ thread after, visited.Holds thread → thread.Goes program text after →
    visited.Holds after ∨ ∃ other ∈ waiting, after.Meets other

theorem Visited.Holds.of_meets {visited : Visited} {thread other : Thread}
    (holds : visited.Holds other) (meets : thread.Meets other) : visited.Holds thread := by
  rw [Visited.Holds, meets.1, meets.2]
  exact holds

theorem Closed.no_run {visited : Visited} (closed : Closed program text visited []) {steps : Nat}
    {thread last : Thread} (holds : visited.Holds thread)
    (runs : Runs program text steps thread last) : False := by
  induction runs with
  | done atEnd => exact closed.inside _ holds atEnd
  | step goes _ induction =>
      rcases closed.leads _ _ holds goes with further | ⟨_, none, _⟩
      · exact induction further
      · cases none

theorem holds_insert {visited : Visited} {thread other : Thread}
    (inside : thread.state < visited.places.size) :
    (visited.insert thread.state thread.place).Holds other ↔
      visited.Holds other ∨ other.Meets thread := by
  rw [Visited.Holds, Visited.contains_insert _ _ _ _ _ inside, Bool.or_eq_true, Bool.and_eq_true,
    decide_eq_true_eq, decide_eq_true_eq]
  exact Iff.rfl

theorem Closed.drop {visited : Visited} {thread : Thread} {waiting : List Thread}
    (closed : Closed program text visited (thread :: waiting)) (holds : visited.Holds thread) :
    Closed program text visited waiting where
  inside := closed.inside
  leads := by
    intro earlier after known goes
    rcases closed.leads earlier after known goes with further | ⟨other, member, meets⟩
    · exact .inl further
    · rcases List.mem_cons.mp member with rfl | waits
      · exact .inl (holds.of_meets meets)
      · exact .inr ⟨other, waits, meets⟩

theorem Closed.visit {visited : Visited} {thread : Thread} {waiting : List Thread}
    (closed : Closed program text visited (thread :: waiting)) {instruction : Instruction}
    (placed : program[thread.state]? = some instruction)
    (size : visited.places.size = program.size) :
    Closed program text (visited.insert thread.state thread.place)
      (thread.next text instruction ++ waiting) := by
  have inside : thread.state < visited.places.size := by
    rw [size]
    exact (Array.getElem?_eq_some_iff.mp placed).1
  constructor
  · intro other holds
    rcases (holds_insert inside).mp holds with earlier | meets
    · exact closed.inside other earlier
    · rw [meets.1, placed]
      exact Option.some_ne_none instruction
  · intro other after holds goes
    rcases (holds_insert inside).mp holds with earlier | meets
    · rcases closed.leads other after earlier goes with further | ⟨waits, member, same⟩
      · exact .inl ((holds_insert inside).mpr (.inl further))
      · rcases List.mem_cons.mp member with rfl | member
        · exact .inl ((holds_insert inside).mpr (.inr same))
        · exact .inr ⟨waits, List.mem_append_right _ member, same⟩
    · rcases meets.goes goes with ⟨further, ⟨own, found, member⟩, same⟩
      rw [placed, Option.some.injEq] at found
      subst found
      exact .inr ⟨further, List.mem_append_left _ member, same⟩

/-! ## Turns -/

def Visited.remaining (visited : Visited) (states places : Nat) : Nat :=
  ((Finset.range states ×ˢ Finset.range places).filter fun pair =>
    visited.contains pair.1 pair.2 = false).card

theorem remaining_insert {visited : Visited} {state place states places : Nat}
    (fresh : visited.contains state place = false) (inside : state < visited.places.size)
    (stateFits : state < states) (placeFits : place < places) :
    (visited.insert state place).remaining states places < visited.remaining states places := by
  apply Finset.card_lt_card
  rw [Finset.ssubset_iff_of_subset]
  · refine ⟨(state, place), ?_, ?_⟩
    · simp [fresh, stateFits, placeFits]
    · simp [Visited.contains_insert _ _ _ _ _ inside]
  · intro pair member
    simp only [Finset.mem_filter, Visited.contains_insert _ _ _ _ _ inside,
      Bool.or_eq_false_iff] at member ⊢
    exact ⟨member.1, member.2.1⟩

theorem remaining_le (visited : Visited) (states places : Nat) :
    visited.remaining states places ≤ states * places := by
  refine (Finset.card_filter_le _ _).trans ?_
  rw [Finset.card_product, Finset.card_range, Finset.card_range]

theorem place_of_next {thread after : Thread} {instruction : Instruction}
    (member : after ∈ thread.next text instruction) (within : thread.place ≤ text.size) :
    after.place ≤ text.size := by
  cases instruction with
  | jump | openCapture | closeCapture =>
      rw [Thread.next, List.mem_singleton] at member
      rw [member]
      exact within
  | step set next =>
      simp only [Thread.next] at member
      split at member
      · next inside =>
          rw [List.mem_singleton] at member
          subst member
          cases character : text[thread.place]? with
          | none =>
              rw [character] at inside
              cases inside
          | some found => exact Nat.succ_le_of_lt (Array.getElem?_eq_some_iff.mp character).1
      · cases member
  | test condition next =>
      simp only [Thread.next] at member
      split at member
      · rw [List.mem_singleton] at member
        rw [member]
        exact within
      · cases member
  | fork first second =>
      simp only [Thread.next, List.mem_cons, List.not_mem_nil, or_false] at member
      rcases member with rfl | rfl
      · exact within
      · exact within

theorem size_insert (visited : Visited) (state place : Nat) :
    (visited.insert state place).places.size = visited.places.size := by
  simp [Visited.insert]

theorem search_none {turns : Nat} {visited : Visited} {waiting : List Thread}
    (failure : search program text turns visited waiting = none)
    (closed : Closed program text visited waiting)
    (size : visited.places.size = program.size)
    (within : ∀ thread ∈ waiting, thread.place ≤ text.size)
    (enough : 2 * visited.remaining program.size (text.size + 1) + waiting.length < turns) :
    ∃ final, Closed program text final [] ∧ (∀ thread, visited.Holds thread → final.Holds thread) ∧
      ∀ thread ∈ waiting, final.Holds thread := by
  fun_induction search program text turns visited waiting with
  | case1 => exact absurd enough (Nat.not_lt_zero _)
  | case2 turns visited => exact ⟨visited, closed, fun _ holds => holds, fun _ none => nomatch none⟩
  | case3 turns visited thread waiting known induction =>
      rcases induction failure (closed.drop known) size
        (fun other member => within other (List.mem_cons_of_mem thread member))
        (by rw [List.length_cons] at enough; omega) with ⟨final, finalClosed, earlier, waits⟩
      refine ⟨final, finalClosed, earlier, fun other member => ?_⟩
      rcases List.mem_cons.mp member with rfl | member
      · exact earlier other known
      · exact waits other member
  | case4 => cases failure
  | case5 turns visited thread waiting fresh instruction placed induction =>
      have inside : thread.state < visited.places.size := by
        rw [size]
        exact (Array.getElem?_eq_some_iff.mp placed).1
      have placeFits : thread.place < text.size + 1 :=
        Nat.lt_succ_of_le (within thread List.mem_cons_self)
      have fewer := remaining_insert (Bool.eq_false_iff.mpr fresh) inside (size ▸ inside) placeFits
      have few := Thread.length_next_le text thread instruction
      rcases induction failure (closed.visit placed size) ((size_insert ..).trans size)
        (by
          intro other member
          rcases List.mem_append.mp member with isNext | waits
          · exact place_of_next isNext (within thread List.mem_cons_self)
          · exact within other (List.mem_cons_of_mem thread waits))
        (by rw [List.length_append]; rw [List.length_cons] at enough; omega) with
        ⟨final, finalClosed, earlier, waits⟩
      refine ⟨final, finalClosed, fun other holds => ?_, fun other member => ?_⟩
      · exact earlier other ((holds_insert inside).mpr (.inl holds))
      · rcases List.mem_cons.mp member with rfl | member
        · exact earlier other ((holds_insert inside).mpr (.inr ⟨rfl, rfl⟩))
        · exact waits other (List.mem_append_right _ member)

/-! ## Expressions -/

theorem placed_program (expression : Expression) :
    Placed expression.program 0 (expression.instructions 0 expression.width) := by
  intro offset instruction found
  rw [Nat.zero_add, Expression.program, List.getElem?_toArray]
  exact found

theorem program_end (expression : Expression) : expression.program[expression.width]? = none := by
  rw [Expression.program, List.getElem?_toArray, List.getElem?_eq_none_iff,
    Expression.length_instructions]

theorem size_program (expression : Expression) : expression.program.size = expression.width := by
  rw [Expression.program, List.size_toArray, Expression.length_instructions]

theorem way_of_run {expression : Expression} {text : Array Char} {start steps : Nat}
    {last : Thread}
    (runs : Runs expression.program text steps (.beginning start) last) :
    last.start = start ∧ expression.Way text start last.place last.captured := by
  have realizes : Realizes expression.program text 1 0 expression.width (expression.Way text) :=
    realizes_instructions (placed_program expression)
  rcases realizes.sound _ rfl runs with ⟨rest, stop, captured, _, way, runs⟩
  cases runs with
  | done =>
      refine ⟨rfl, ?_⟩
      rw [Thread.move, Thread.beginning, List.append_nil]
      exact way
  | step goes runs =>
      rcases goes with ⟨instruction, placed, _⟩
      change expression.program[expression.width]? = some instruction at placed
      rw [program_end] at placed
      cases placed

/-- Whatever is found in a text is a way through the expression. -/
theorem find?_sound {expression : Expression} {text : List Char} {found : Match}
    (success : expression.find? text = some found) :
    found.start ≤ text.length ∧
      expression.Way text.toArray found.start found.stop found.captured := by
  rcases search_sound success with ⟨thread, member, steps, last, runs, rfl⟩
  rcases List.mem_map.mp member with ⟨start, inText, rfl⟩
  have way := way_of_run runs
  rw [Thread.toMatch, way.1]
  exact ⟨Nat.le_of_lt_succ (List.mem_range.mp inText), way.2⟩

theorem run_of_reaches {program : Array Instruction} {text : Array Char} {thread last : Thread}
    (reaches : Reaches program text thread last) (atEnd : program[last.state]? = none) :
    ∃ steps, Runs program text steps thread last := by
  induction reaches with
  | here => exact ⟨0, .done atEnd⟩
  | step goes _ induction =>
      rcases induction atEnd with ⟨steps, runs⟩
      exact ⟨steps + 1, .step goes runs⟩

/-- Where there is a way, something is found. -/
theorem find?_complete {expression : Expression} {text : List Char} {start stop : Nat}
    {captured : List Captured} (fits : start ≤ text.length)
    (way : expression.Way text.toArray start stop captured) :
    (expression.find? text).isSome := by
  cases failure : expression.find? text with
  | some => rfl
  | none =>
      exfalso
      have realizes : Realizes expression.program text.toArray 1 0 expression.width
          (expression.Way text.toArray) := realizes_instructions (placed_program expression)
      rcases run_of_reaches (realizes.complete (.beginning start) rfl way)
        (program_end expression) with ⟨steps, runs⟩
      have closed : Closed expression.program text.toArray (.none expression.program.size)
          ((List.range (text.length + 1)).map .beginning) := {
        inside := by
          intro thread holds
          rw [Visited.Holds, Visited.contains_none] at holds
          cases holds
        leads := by
          intro thread after holds
          rw [Visited.Holds, Visited.contains_none] at holds
          cases holds }
      have enough : 2 * (Visited.none expression.program.size).remaining expression.program.size
          (text.toArray.size + 1) + ((List.range (text.length + 1)).map Thread.beginning).length <
            searchTurns expression.program.size (text.length + 1) := by
        have most : (Visited.none expression.program.size).remaining expression.program.size
            (text.toArray.size + 1) ≤ expression.program.size * (text.length + 1) :=
          remaining_le ..
        rw [List.length_map, List.length_range, searchTurns, Nat.add_mul, Nat.mul_assoc]
        omega
      rcases search_none failure closed (by simp [Visited.none])
        (by
          intro thread member
          rcases List.mem_map.mp member with ⟨place, inText, rfl⟩
          exact Nat.le_of_lt_succ (List.mem_range.mp inText))
        enough with ⟨final, finalClosed, _, waits⟩
      refine finalClosed.no_run (waits (.beginning start) ?_) runs
      exact List.mem_map_of_mem (List.mem_range.mpr (Nat.lt_succ_of_le fits))

end UriDispatch.Regex
