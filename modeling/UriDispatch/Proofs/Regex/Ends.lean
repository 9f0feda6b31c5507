import UriDispatch.Proofs.Regex.Search

/-! What a search finds, told without the places that it has visited. If every thread is gone for
itself, one after the other, their ends stand in a list, and a search finds the first of them. What
was visited may be passed over, since nothing came of it. -/

namespace UriDispatch.Regex

variable {program : Array Instruction} {text : Array Char}

/-! ## Ends of threads -/

/-- The ends that threads come to in at most so many steps each, in the order of preference. -/
inductive EndsWithin (program : Array Instruction) (text : Array Char) :
    Nat → List Thread → List Thread → Prop where
  | nil {steps : Nat} : EndsWithin program text steps [] []
  | done {steps : Nat} {thread : Thread} {others ends : List Thread}
      (atEnd : program[thread.state]? = none)
      (rest : EndsWithin program text steps others ends) :
      EndsWithin program text steps (thread :: others) (thread :: ends)
  | step {steps : Nat} {thread : Thread} {instruction : Instruction}
      {others first ends : List Thread} (placed : program[thread.state]? = some instruction)
      (next : EndsWithin program text steps (thread.next text instruction) first)
      (rest : EndsWithin program text (steps + 1) others ends) :
      EndsWithin program text (steps + 1) (thread :: others) (first ++ ends)

def Ends (program : Array Instruction) (text : Array Char) (threads ends : List Thread) : Prop :=
  ∃ steps, EndsWithin program text steps threads ends

namespace EndsWithin

variable {steps more : Nat} {threads others ends otherEnds : List Thread}

theorem mono (leads : EndsWithin program text steps threads ends) (less : steps ≤ more) :
    EndsWithin program text more threads ends := by
  induction leads generalizing more with
  | nil => exact .nil
  | done atEnd _ induction => exact .done atEnd (induction less)
  | step placed _ _ first second =>
      cases more with
      | zero => exact absurd less (Nat.not_succ_le_zero _)
      | succ more =>
          exact .step placed (first (Nat.le_of_succ_le_succ less)) (second less)

theorem append (leads : EndsWithin program text steps threads ends)
    (further : EndsWithin program text steps others otherEnds) :
    EndsWithin program text steps (threads ++ others) (ends ++ otherEnds) := by
  induction leads with
  | nil => exact further
  | done atEnd _ induction => exact .done atEnd (induction further)
  | step placed next _ _ induction =>
      rw [List.append_assoc]
      exact .step placed next (induction further)

theorem of_append (leads : EndsWithin program text steps (threads ++ others) ends) :
    ∃ first second, ends = first ++ second ∧ EndsWithin program text steps threads first ∧
      EndsWithin program text steps others second := by
  induction threads generalizing ends with
  | nil => exact ⟨[], ends, rfl, .nil, leads⟩
  | cons thread tail induction =>
      cases leads with
      | done atEnd rest =>
          rcases induction rest with ⟨first, second, rfl, left, right⟩
          exact ⟨_, second, rfl, .done atEnd left, right⟩
      | step placed next rest =>
          rcases induction rest with ⟨first, second, rfl, left, right⟩
          exact ⟨_, second, (List.append_assoc ..).symm, .step placed next left, right⟩

theorem unique (leads : EndsWithin program text steps threads ends)
    (other : EndsWithin program text more threads otherEnds) : ends = otherEnds := by
  induction leads generalizing more otherEnds with
  | nil =>
      cases other
      rfl
  | done atEnd _ induction =>
      cases other with
      | done _ rest => rw [induction rest]
      | step placed =>
          rw [atEnd] at placed
          cases placed
  | step placed _ _ first second =>
      cases other with
      | done atEnd =>
          rw [atEnd] at placed
          cases placed
      | step otherPlaced next rest =>
          rw [placed, Option.some.injEq] at otherPlaced
          subst otherPlaced
          rw [first next, second rest]

end EndsWithin

/-! ## Threads that meet -/

theorem Thread.Meets.next {thread other : Thread} (meets : thread.Meets other)
    (instruction : Instruction) :
    List.Forall₂ Thread.Meets (thread.next text instruction) (other.next text instruction) := by
  have same := meets.2
  cases instruction with
  | jump | openCapture | closeCapture => exact .cons ⟨rfl, same⟩ .nil
  | fork => exact .cons ⟨rfl, same⟩ (.cons ⟨rfl, same⟩ .nil)
  | step set next =>
      rw [Thread.next, Thread.next, same]
      split
      · exact .cons ⟨rfl, rfl⟩ .nil
      · exact .nil
  | test condition next =>
      rw [Thread.next, Thread.next, same]
      split
      · exact .cons ⟨rfl, rfl⟩ .nil
      · exact .nil

theorem EndsWithin.of_meets {steps : Nat} {threads others ends : List Thread}
    (leads : EndsWithin program text steps threads ends)
    (meets : List.Forall₂ Thread.Meets threads others) :
    ∃ otherEnds, EndsWithin program text steps others otherEnds ∧
      otherEnds.length = ends.length := by
  induction leads generalizing others with
  | nil =>
      cases meets
      exact ⟨[], .nil, rfl⟩
  | done atEnd _ induction =>
      cases meets with
      | cons first rest =>
          rcases induction rest with ⟨others, further, length⟩
          rw [first.1] at atEnd
          exact ⟨_, .done atEnd further, congrArg (· + 1) length⟩
  | step placed _ _ inner outer =>
      cases meets with
      | cons first rest =>
          rcases inner (first.next _) with ⟨left, next, leftLength⟩
          rcases outer rest with ⟨right, further, rightLength⟩
          rw [first.1] at placed
          refine ⟨left ++ right, .step placed next further, ?_⟩
          rw [List.length_append, List.length_append, leftLength, rightLength]

/-! ## Searches -/

def Fruitless (program : Array Instruction) (text : Array Char) (visited : Visited)
    (steps : Nat) : Prop :=
  ∀ thread ends, visited.Holds thread → EndsWithin program text steps [thread] ends → ends = []

structure Ready (program : Array Instruction) (text : Array Char) (turns : Nat)
    (visited : Visited) (waiting : List Thread) : Prop where
  size : visited.places.size = program.size
  within : ∀ thread ∈ waiting, thread.place ≤ text.size
  enough : 2 * visited.remaining program.size (text.size + 1) + waiting.length < turns

namespace Ready

variable {turns : Nat} {visited : Visited} {thread : Thread} {waiting : List Thread}

theorem drop (ready : Ready program text (turns + 1) visited (thread :: waiting)) :
    Ready program text turns visited waiting where
  size := ready.size
  within other member := ready.within other (List.mem_cons_of_mem thread member)
  enough := by
    have enough := ready.enough
    rw [List.length_cons] at enough
    omega

theorem visit (ready : Ready program text (turns + 1) visited (thread :: waiting))
    (fresh : visited.contains thread.state thread.place = false) {instruction : Instruction}
    (placed : program[thread.state]? = some instruction) :
    Ready program text turns (visited.insert thread.state thread.place)
      (thread.next text instruction ++ waiting) where
  size := (size_insert ..).trans ready.size
  within := by
    intro other member
    rcases List.mem_append.mp member with isNext | waits
    · exact place_of_next isNext (ready.within thread List.mem_cons_self)
    · exact ready.within other (List.mem_cons_of_mem thread waits)
  enough := by
    have inside : thread.state < program.size := (Array.getElem?_eq_some_iff.mp placed).1
    have placeFits : thread.place < text.size + 1 :=
      Nat.lt_succ_of_le (ready.within thread List.mem_cons_self)
    have fewer := remaining_insert fresh (ready.size ▸ inside) inside placeFits
    have few := Thread.length_next_le text thread instruction
    have enough := ready.enough
    rw [List.length_cons] at enough
    rw [List.length_append]
    omega

theorem exists_turns (ready : Ready program text turns visited waiting) :
    ∃ left, turns = left + 1 :=
  ⟨turns - 1, by have enough := ready.enough; omega⟩

end Ready

/-- What a search comes to that goes through threads with such ends: it finds the first end, or else
it goes on to those that wait behind, and of what it has visited since nothing has come. -/
def Outcome (program : Array Instruction) (text : Array Char) (turns : Nat) (visited : Visited)
    (threads waiting : List Thread) : (ends : List Thread) → Prop
  | first :: _ => search program text turns visited (threads ++ waiting) = some first.toMatch
  | [] => ∃ left later, Ready program text left later waiting ∧
      search program text turns visited (threads ++ waiting) =
        search program text left later waiting ∧
      ∀ thread, later.Holds thread → visited.Holds thread ∨ Ends program text [thread] []

section Outcomes

variable {steps turns : Nat} {visited : Visited} {thread : Thread}
  {threads waiting ends : List Thread}

theorem Fruitless.mono {less : Nat} (fruitless : Fruitless program text visited steps)
    (fewer : less ≤ steps) : Fruitless program text visited less :=
  fun thread ends holds leads => fruitless thread ends holds (leads.mono fewer)

theorem Fruitless.later {later : Visited} (fruitless : Fruitless program text visited steps)
    (known : ∀ thread, later.Holds thread → visited.Holds thread ∨ Ends program text [thread] []) :
    Fruitless program text later steps := by
  intro thread ends holds leads
  rcases known thread holds with earlier | ⟨more, none⟩
  · exact fruitless thread ends earlier leads
  · exact leads.unique none

theorem Outcome.trans {left : Nat} {later : Visited} {others : List Thread}
    (same : search program text turns visited (threads ++ waiting) =
      search program text left later (others ++ waiting))
    (known : ∀ thread, later.Holds thread → visited.Holds thread ∨ Ends program text [thread] [])
    (outcome : Outcome program text left later others waiting ends) :
    Outcome program text turns visited threads waiting ends := by
  cases ends with
  | cons first rest => exact same.trans outcome
  | nil =>
      rcases outcome with ⟨last, final, ready, further, since⟩
      refine ⟨last, final, ready, same.trans further, fun thread holds => ?_⟩
      rcases since thread holds with earlier | none
      · exact known thread earlier
      · exact .inr none

theorem Outcome.visit {instruction : Instruction} {first : List Thread}
    (below : ∀ {turns visited threads waiting ends}, EndsWithin program text steps threads ends →
      Ready program text turns visited (threads ++ waiting) →
        Fruitless program text visited steps →
          Outcome program text turns visited threads waiting ends)
    (placed : program[thread.state]? = some instruction)
    (next : EndsWithin program text steps (thread.next text instruction) first)
    (ready : Ready program text (turns + 1) visited (thread :: waiting))
    (fruitless : Fruitless program text visited (steps + 1))
    (fresh : visited.contains thread.state thread.place = false) :
    Outcome program text (turns + 1) visited [thread] waiting first := by
  have whole : EndsWithin program text (steps + 1) [thread] (first ++ []) :=
    .step placed next .nil
  rw [List.append_nil] at whole
  have taken : search program text (turns + 1) visited (thread :: waiting) =
      search program text turns (visited.insert thread.state thread.place)
        (thread.next text instruction ++ waiting) := search_step fresh placed
  by_cases sooner : ∃ other ends, other.Meets thread ∧
      EndsWithin program text steps [other] ends ∧ ends ≠ []
  · -- Fewer steps show an end already.
    rcases sooner with ⟨other, ends, meets, leads, some⟩
    rcases leads.of_meets (.cons meets .nil) with ⟨own, leadsToo, length⟩
    rw [leadsToo.unique whole] at leadsToo
    exact below leadsToo ready (fruitless.mono (Nat.le_succ steps))
  · have inside : thread.state < visited.places.size := by
      rw [ready.size]
      exact (Array.getElem?_eq_some_iff.mp placed).1
    have fruitlessToo : Fruitless program text
        (visited.insert thread.state thread.place) steps := by
      intro other ends holds leads
      rcases (holds_insert inside).mp holds with earlier | meets
      · exact fruitless.mono (Nat.le_succ steps) other ends earlier leads
      · by_contra some
        exact sooner ⟨other, ends, meets, leads, some⟩
    have outcome := below next (ready.visit fresh placed) fruitlessToo
    cases first with
    | cons found rest => exact taken.trans outcome
    | nil =>
        rcases outcome with ⟨left, later, readyLater, same, since⟩
        refine ⟨left, later, readyLater, taken.trans same, fun other holds => ?_⟩
        rcases since other holds with before | none
        · rcases (holds_insert inside).mp before with earlier | meets
          · exact .inl earlier
          · rcases whole.of_meets (.cons ⟨meets.1.symm, meets.2.symm⟩ .nil) with
              ⟨none, leads, length⟩
            rw [List.eq_nil_of_length_eq_zero length] at leads
            exact .inr ⟨_, leads⟩
        · exact .inr none

theorem search_threads (leads : EndsWithin program text steps threads ends)
    (ready : Ready program text turns visited (threads ++ waiting))
    (fruitless : Fruitless program text visited steps) :
    Outcome program text turns visited threads waiting ends := by
  induction steps using Nat.strongRecOn generalizing turns visited threads waiting ends with
  | ind steps below =>
      induction threads generalizing turns visited ends with
      | nil =>
          cases leads
          exact ⟨turns, visited, ready, rfl, fun _ holds => .inl holds⟩
      | cons thread others induction =>
          rcases ready.exists_turns with ⟨turns, rfl⟩
          cases leads with
          | done atEnd rest =>
              cases known : visited.contains thread.state thread.place with
              | true => cases fruitless thread [thread] known (.done atEnd .nil)
              | false => exact search_end known atEnd
          | @step steps _ instruction _ first ends placed next rest =>
              cases known : visited.contains thread.state thread.place with
              | true =>
                  have none := fruitless thread (first ++ []) known (.step placed next .nil)
                  rw [List.append_nil] at none
                  rw [none]
                  exact (induction rest ready.drop fruitless).trans (search_known known)
                    fun _ holds => .inl holds
              | false =>
                  have outcome := Outcome.visit (below steps (Nat.lt_succ_self steps)) placed next
                    ready fruitless known
                  cases first with
                  | cons found _ => exact outcome
                  | nil =>
                      rcases outcome with ⟨left, later, readyLater, same, since⟩
                      exact (induction rest readyLater (fruitless.later since)).trans same since

end Outcomes

/-- A search from the beginning finds the first end of the threads that begin at the places of the
text. -/
theorem find?_of_ends {expression : Expression} {text : List Char} {ends : List Thread}
    (leads : Ends expression.program text.toArray
      ((List.range (text.length + 1)).map .beginning) ends) :
    expression.find? text = ends.head?.map Thread.toMatch := by
  rcases leads with ⟨steps, leads⟩
  have ready : Ready expression.program text.toArray
      (searchTurns expression.program.size (text.length + 1)) (.none expression.program.size)
      ((List.range (text.length + 1)).map .beginning ++ []) := by
    refine ⟨by simp [Visited.none], ?_, ?_⟩
    · intro thread member
      rw [List.append_nil] at member
      rcases List.mem_map.mp member with ⟨place, inText, rfl⟩
      exact Nat.le_of_lt_succ (List.mem_range.mp inText)
    · have most : (Visited.none expression.program.size).remaining expression.program.size
          (text.toArray.size + 1) ≤ expression.program.size * (text.length + 1) :=
        remaining_le ..
      rw [List.append_nil, List.length_map, List.length_range, searchTurns, Nat.add_mul,
        Nat.mul_assoc]
      omega
  have fruitless : Fruitless expression.program text.toArray (.none expression.program.size)
      steps := by
    intro thread ends holds
    rw [Visited.Holds, Visited.contains_none] at holds
    cases holds
  have outcome := search_threads leads ready fruitless
  cases ends with
  | cons first rest =>
      rw [Outcome, List.append_nil] at outcome
      exact outcome
  | nil =>
      rcases outcome with ⟨left, later, readyLater, same, _⟩
      rcases readyLater.exists_turns with ⟨left, rfl⟩
      rw [List.append_nil] at same
      exact same

end UriDispatch.Regex
