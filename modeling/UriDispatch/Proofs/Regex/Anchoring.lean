import UriDispatch.Proofs.Regex.Search

/-! Expressions that are anchored as a whole. A match of an expression covers its text from end to
end just if the expression finds the same match when it may find nothing else. -/

namespace UriDispatch.Regex

def Expression.whole (expression : Expression) : Expression :=
  .follow (.test .startOfText) (.follow expression (.test .endOfText))

def Match.Spans (found : Match) (text : List Char) : Prop :=
  found.start = 0 ∧ found.stop = text.length

instance (found : Match) (text : List Char) : Decidable (found.Spans text) :=
  inferInstanceAs (Decidable (_ ∧ _))

/-! ## Ways from end to end -/

theorem rounds_le {body : Passage} {size : Nat} (forward : ∀ {start stop captured},
    body start stop captured → start ≤ size → stop ≤ size) {count start stop : Nat}
    {captured : List Captured} (way : body.rounds count start stop captured)
    (fits : start ≤ size) : stop ≤ size := by
  induction count generalizing start stop captured with
  | zero => exact way.1 ▸ fits
  | succ count induction =>
      rcases way with ⟨middle, _, _, first, rest, _⟩
      exact induction rest (forward first fits)

theorem way_le {text : Array Char} {expression : Expression} {start stop : Nat}
    {captured : List Captured} (way : expression.Way text start stop captured)
    (fits : start ≤ text.size) : stop ≤ text.size := by
  induction expression generalizing start stop captured with
  | empty => exact way.1 ▸ fits
  | step set =>
      rcases way with ⟨inside, rfl, _⟩
      cases character : text[start]? with
      | none =>
          rw [character] at inside
          cases inside
      | some found => exact (Array.getElem?_eq_some_iff.mp character).1
  | test condition => exact way.2.1 ▸ fits
  | capture index body induction =>
      rcases way with ⟨inner, through, _⟩
      exact induction through fits
  | follow first second left right =>
      rcases way with ⟨middle, _, _, before, after, _⟩
      exact right after (left before fits)
  | orElse first second left right =>
      rcases way with way | way
      · exact left way fits
      · exact right way fits
  | repetition least most greedy body induction =>
      rcases way with ⟨count, _, _, through⟩
      exact rounds_le induction through fits

theorem startOfText_holds {text : Array Char} {place : Nat} (fits : place ≤ text.size) :
    Condition.startOfText.holdsAt text place = true ↔ place = 0 := by
  cases place with
  | zero => simp [Condition.holdsAt, Condition.holds, before?]
  | succ place =>
      have inside : place < text.size := fits
      simp [Condition.holdsAt, Condition.holds, before?, inside]

theorem endOfText_holds {text : Array Char} {place : Nat} (fits : place ≤ text.size) :
    Condition.endOfText.holdsAt text place = true ↔ place = text.size := by
  simp only [Condition.holdsAt, Condition.holds, Option.isNone_iff_eq_none,
    Array.getElem?_eq_none_iff]
  omega

theorem way_whole {text : Array Char} {expression : Expression} {start stop : Nat}
    {captured : List Captured} (fits : start ≤ text.size) :
    expression.whole.Way text start stop captured ↔
      start = 0 ∧ stop = text.size ∧ expression.Way text start stop captured := by
  constructor
  · rintro ⟨_, _, _, ⟨begins, rfl, rfl⟩, ⟨_, inner, _, way, ⟨ends, rfl, rfl⟩, rfl⟩, rfl⟩
    have place := way_le way fits
    rw [List.append_nil]
    exact ⟨(startOfText_holds fits).mp begins, (endOfText_holds place).mp ends, way⟩
  · rintro ⟨rfl, rfl, way⟩
    refine ⟨0, [], captured, ⟨(startOfText_holds fits).mpr rfl, rfl, rfl⟩,
      ⟨text.size, captured, [], way, ⟨(endOfText_holds (Nat.le_refl _)).mpr rfl, rfl, rfl⟩, rfl⟩,
      (List.append_nil _).symm⟩

theorem spans_of_whole {expression : Expression} {text : List Char} {found : Match}
    (success : expression.whole.find? text = some found) : found.Spans text := by
  have way := find?_sound success
  have ends := (way_whole way.1).mp way.2
  exact ⟨ends.1, ends.2.1⟩

/-! ## Anchors within -/

/-- Whether every way through is seen to ask last for the end of the text. -/
def Expression.endsAtText : Expression → Bool
  | .test condition => condition = .endOfText
  | .empty | .step _ => false
  | .capture _ body => body.endsAtText
  | .follow first second => second.endsAtText || (second.takesNothing && first.endsAtText)
  | .orElse first second => first.endsAtText && second.endsAtText
  | .repetition least _ _ body => 0 < least && body.endsAtText

theorem start_of_startsAtText {text : Array Char} {expression : Expression}
    (anchored : expression.startsAtText) {start stop : Nat} {captured : List Captured}
    (way : expression.Way text start stop captured) (fits : start ≤ text.size) : start = 0 := by
  induction expression generalizing start stop captured with
  | empty | step => cases anchored
  | test condition =>
      have same : condition = .startOfText := by simpa [Expression.startsAtText] using anchored
      rw [same] at way
      exact (startOfText_holds fits).mp way.1
  | capture index body induction =>
      rcases way with ⟨inner, through, _⟩
      exact induction anchored through fits
  | follow first second left right =>
      rw [Expression.startsAtText, Bool.or_eq_true, Bool.and_eq_true] at anchored
      rcases way with ⟨middle, _, _, before, after, _⟩
      rcases anchored with anchored | ⟨nothing, anchored⟩
      · exact left anchored before fits
      · have same := Expression.way_takesNothing text nothing before
        subst same
        exact right anchored after fits
  | orElse first second left right =>
      rw [Expression.startsAtText, Bool.and_eq_true] at anchored
      rcases way with way | way
      · exact left anchored.1 way fits
      · exact right anchored.2 way fits
  | repetition least most greedy body induction =>
      rw [Expression.startsAtText, Bool.and_eq_true, decide_eq_true_eq] at anchored
      rcases way with ⟨count, enough, _, through⟩
      cases count with
      | zero => omega
      | succ count =>
          rcases through with ⟨middle, _, _, first, _, _⟩
          exact induction anchored.2 first fits

theorem stop_of_endsAtText {text : Array Char} {expression : Expression}
    (anchored : expression.endsAtText) {start stop : Nat} {captured : List Captured}
    (way : expression.Way text start stop captured) (fits : start ≤ text.size) :
    stop = text.size := by
  induction expression generalizing start stop captured with
  | empty | step => cases anchored
  | test condition =>
      have same : condition = .endOfText := by simpa [Expression.endsAtText] using anchored
      rcases way with ⟨holds, rfl, _⟩
      rw [same] at holds
      exact (endOfText_holds fits).mp holds
  | capture index body induction =>
      rcases way with ⟨inner, through, _⟩
      exact induction anchored through fits
  | follow first second left right =>
      rw [Expression.endsAtText, Bool.or_eq_true, Bool.and_eq_true] at anchored
      rcases way with ⟨middle, _, _, before, after, _⟩
      rcases anchored with anchored | ⟨nothing, anchored⟩
      · exact right anchored after (way_le before fits)
      · have same := Expression.way_takesNothing text nothing after
        subst same
        exact left anchored before fits
  | orElse first second left right =>
      rw [Expression.endsAtText, Bool.and_eq_true] at anchored
      rcases way with way | way
      · exact left anchored.1 way fits
      · exact right anchored.2 way fits
  | repetition least most greedy body induction =>
      rw [Expression.endsAtText, Bool.and_eq_true, decide_eq_true_eq] at anchored
      rcases way with ⟨count, enough, _, through⟩
      cases count with
      | zero => omega
      | succ count =>
          rw [Passage.rounds_add, Passage.rounds_one] at through
          rcases through with ⟨middle, _, _, earlier, last, _⟩
          exact induction anchored.2 last (rounds_le way_le earlier fits)

theorem spans_of_anchored {expression : Expression} {text : List Char} {found : Match}
    (success : expression.find? text = some found) (starts : expression.startsAtText)
    (ends : expression.endsAtText) : found.Spans text := by
  have way := find?_sound success
  exact ⟨start_of_startsAtText starts way.2 way.1, stop_of_endsAtText ends way.2 way.1⟩

/-! ## Programs side by side -/

namespace Instruction

def targets : Instruction → List Nat
  | .jump next | .step _ next | .test _ next | .openCapture next | .closeCapture _ next => [next]
  | .fork first second => [first, second]

def shift (offset : Nat) : Instruction → Instruction
  | .jump next => .jump (next + offset)
  | .step set next => .step set (next + offset)
  | .test condition next => .test condition (next + offset)
  | .openCapture next => .openCapture (next + offset)
  | .closeCapture index next => .closeCapture index (next + offset)
  | .fork first second => .fork (first + offset) (second + offset)

theorem shift_option (offset : Nat) (greedy : Bool) (body exit : Nat) :
    (option greedy body exit).shift offset = option greedy (body + offset) (exit + offset) := by
  cases greedy with
  | true => rfl
  | false => rfl

end Instruction

namespace Expression

theorem row_shift (width offset : Nat)
    (instructions shifted : (here next : Nat) → List Instruction)
    (each : ∀ here next, shifted (here + offset) (next + offset) =
      (instructions here next).map (Instruction.shift offset)) (count here : Nat) :
    row width shifted count (here + offset) =
      (row width instructions count here).map (Instruction.shift offset) := by
  induction count generalizing here with
  | zero => rfl
  | succ count induction =>
      have same : here + offset + width = here + width + offset := Nat.add_right_comm ..
      rw [row, row, List.map_append, same, each, induction]

theorem instructions_shift (expression : Expression) (offset here next : Nat) :
    expression.instructions (here + offset) (next + offset) =
      (expression.instructions here next).map (Instruction.shift offset) := by
  induction expression generalizing here next with
  | empty | step | test => rfl
  | capture index body induction =>
      have first : here + offset + 1 = here + 1 + offset := Nat.add_right_comm ..
      have last : here + 1 + offset + body.width = here + 1 + body.width + offset :=
        Nat.add_right_comm ..
      simp only [instructions, first, last, induction, List.map_append, List.map_cons,
        List.map_nil, Instruction.shift]
  | follow first second left right =>
      have middle : here + offset + first.width = here + first.width + offset :=
        Nat.add_right_comm ..
      simp only [instructions, middle, left, right, List.map_append]
  | orElse first second left right =>
      have start : here + offset + 1 = here + 1 + offset := Nat.add_right_comm ..
      have middle : here + 1 + offset + first.width = here + 1 + first.width + offset :=
        Nat.add_right_comm ..
      simp only [instructions, start, middle, left, right, List.map_append, List.map_cons,
        Instruction.shift]
  | repetition least most greedy body induction =>
      have rounds (count start : Nat) := row_shift body.width offset _ _ induction count start
      have onward (amount : Nat) : here + offset + amount = here + amount + offset :=
        Nat.add_right_comm ..
      cases most with
      | some bound =>
          have exits : here + least * body.width + offset + (bound - least) * (body.width + 1) =
              here + least * body.width + (bound - least) * (body.width + 1) + offset :=
            Nat.add_right_comm ..
          have choices := row_shift (body.width + 1) offset
            (fun start next =>
              .option greedy (start + 1)
                  (here + least * body.width + (bound - least) * (body.width + 1)) ::
                body.instructions (start + 1) next)
            (fun start next =>
              .option greedy (start + 1)
                  (here + least * body.width + (bound - least) * (body.width + 1) + offset) ::
                body.instructions (start + 1) next)
            (fun start next => by
              rw [List.map_cons, Instruction.shift_option, ← induction,
                Nat.add_right_comm start offset])
          simp only [instructions, onward, exits, rounds, choices, List.map_append, List.map_cons,
            List.map_nil, Instruction.shift]
      | none =>
          cases least with
          | zero =>
              have middle : here + 1 + offset + body.width = here + 1 + body.width + offset :=
                Nat.add_right_comm ..
              simp only [instructions, onward, middle]
              split
              · rw [induction, List.append_nil, List.append_nil, List.map_cons,
                  Instruction.shift_option]
              · rw [induction, List.map_append, List.map_cons, List.map_cons, List.map_nil,
                  Instruction.shift_option]
          | succ least =>
              simp only [instructions, onward, rounds, List.map_append, List.map_cons,
                List.map_nil, Instruction.shift_option]

def LeadsWithin (bound : Nat) (instructions : List Instruction) : Prop :=
  ∀ instruction ∈ instructions, ∀ target ∈ instruction.targets, target ≤ bound

theorem LeadsWithin.append {bound : Nat} {left right : List Instruction}
    (first : LeadsWithin bound left) (second : LeadsWithin bound right) :
    LeadsWithin bound (left ++ right) :=
  List.forall_mem_append.mpr ⟨first, second⟩

theorem LeadsWithin.cons {bound : Nat} {head : Instruction} {tail : List Instruction}
    (first : ∀ target ∈ head.targets, target ≤ bound) (others : LeadsWithin bound tail) :
    LeadsWithin bound (head :: tail) :=
  List.forall_mem_cons.mpr ⟨first, others⟩

theorem LeadsWithin.single {bound : Nat} {instruction : Instruction}
    (targets : ∀ target ∈ instruction.targets, target ≤ bound) :
    LeadsWithin bound [instruction] :=
  .cons targets fun _ => List.not_mem_nil.elim

theorem targets_single_le {bound next : Nat} (leads : next ≤ bound) :
    ∀ target ∈ [next], target ≤ bound := by
  intro target isTarget
  rw [List.mem_singleton.mp isTarget]
  exact leads

theorem targets_option_le {bound choice exit : Nat} (greedy : Bool) (first : choice ≤ bound)
    (second : exit ≤ bound) :
    ∀ target ∈ (Instruction.option greedy choice exit).targets, target ≤ bound := by
  cases greedy with
  | true => exact List.forall_mem_cons.mpr ⟨first, targets_single_le second⟩
  | false => exact List.forall_mem_cons.mpr ⟨second, targets_single_le first⟩

theorem LeadsWithin.row {bound width : Nat} {instructions : (here next : Nat) → List Instruction}
    {count here : Nat} (fits : here + count * width ≤ bound)
    (each : ∀ start, start + width ≤ bound → LeadsWithin bound (instructions start (start + width))) :
    LeadsWithin bound (Expression.row width instructions count here) := by
  induction count generalizing here with
  | zero =>
      intro instruction member
      cases member
  | succ count induction =>
      rw [Nat.succ_mul] at fits
      apply LeadsWithin.append
      · exact each here (by omega)
      · exact induction (by omega)

/-- All targets of the instructions lie within a bound that holds for their own states and for the
state to which they lead. -/
theorem targets_le (expression : Expression) {here next bound : Nat}
    (own : here + expression.width ≤ bound) (leads : next ≤ bound) :
    LeadsWithin bound (expression.instructions here next) := by
  induction expression generalizing here next with
  | empty | step | test => exact .single (targets_single_le leads)
  | capture index body induction =>
      rw [width] at own
      apply LeadsWithin.append
      · exact .cons (targets_single_le (by omega)) (induction (by omega) (by omega))
      · exact .single (targets_single_le leads)
  | follow first second left right =>
      rw [width] at own
      exact (left (by omega) (by omega)).append (right (by omega) leads)
  | orElse first second left right =>
      rw [width] at own
      apply LeadsWithin.append
      · apply LeadsWithin.cons _ (left (by omega) leads)
        exact List.forall_mem_cons.mpr ⟨by omega, targets_single_le (by omega)⟩
      · exact right (by omega) leads
  | repetition least most greedy body induction =>
      have round (start : Nat) (fits : start + body.width ≤ bound) :
          LeadsWithin bound (body.instructions start (start + body.width)) := induction fits fits
      cases most with
      | some most =>
          rw [width] at own
          apply LeadsWithin.append
          · apply LeadsWithin.append
            · exact .row (by omega) round
            · apply LeadsWithin.row (by omega)
              intro start fits
              exact .cons (targets_option_le greedy (by omega) (by omega))
                (induction (by omega) fits)
          · exact .single (targets_single_le leads)
      | none =>
          cases least with
          | zero =>
              simp only [width] at own
              apply LeadsWithin.append
              · apply LeadsWithin.cons (targets_option_le greedy (by split at own <;> omega) leads)
                exact induction (by split at own <;> omega) (by split at own <;> split <;> omega)
              · split
                · intro instruction member
                  cases member
                · exact .single (targets_option_le greedy (by split at own <;> omega) leads)
          | succ least =>
              rw [width] at own
              apply LeadsWithin.append
              · exact .row (by omega) round
              · rw [Nat.succ_mul] at own
                exact .single (targets_option_le greedy (by omega) leads)

end Expression

/-! ## Searches side by side -/

theorem state_of_next {text : Array Char} {thread after : Thread} {instruction : Instruction}
    (member : after ∈ thread.next text instruction) : after.state ∈ instruction.targets := by
  cases instruction with
  | jump | openCapture | closeCapture =>
      rw [List.mem_singleton.mp member]
      exact List.mem_singleton.mpr rfl
  | step | test =>
      simp only [Thread.next] at member
      split at member
      · rw [List.mem_singleton.mp member]
        exact List.mem_singleton.mpr rfl
      · cases member
  | fork first second =>
      simp only [Thread.next, List.mem_cons, List.not_mem_nil, or_false] at member
      rcases member with rfl | rfl
      · exact List.mem_cons_self
      · exact List.mem_cons_of_mem _ List.mem_cons_self

theorem start_of_next {text : Array Char} {thread after : Thread} {instruction : Instruction}
    (member : after ∈ thread.next text instruction) : after.start = thread.start := by
  cases instruction with
  | jump | openCapture | closeCapture => rw [List.mem_singleton.mp member]
  | step | test =>
      simp only [Thread.next] at member
      split at member
      · rw [List.mem_singleton.mp member]
      · cases member
  | fork first second =>
      simp only [Thread.next, List.mem_cons, List.not_mem_nil, or_false] at member
      rcases member with rfl | rfl
      · rfl
      · rfl

theorem runs_start {program : Array Instruction} {text : Array Char} {steps : Nat}
    {thread last : Thread} (runs : Runs program text steps thread last) :
    last.start = thread.start := by
  induction runs with
  | done => rfl
  | step goes _ induction =>
      rcases goes with ⟨instruction, _, member⟩
      exact induction.trans (start_of_next member)

theorem contains_of_size_le {visited : Visited} {state place : Nat}
    (outside : visited.places.size ≤ state) : visited.contains state place = false := by
  rw [Visited.contains, Array.getElem?_eq_none_iff.mpr outside]
  exact Nat.zero_testBit place

def Thread.shift (thread : Thread) : Thread := { thread with state := thread.state + 1 }

theorem next_shift (text : Array Char) (thread : Thread) (instruction : Instruction) :
    thread.shift.next text (instruction.shift 1) =
      (thread.next text instruction).map Thread.shift := by
  cases instruction with
  | jump | openCapture | closeCapture | fork => rfl
  | step | test =>
      simp only [Instruction.shift, Thread.next, Thread.shift, apply_ite (List.map Thread.shift)]
      rfl

section Alongside

variable {expression : Expression} {text : Array Char}

theorem state_le_of_next {thread after : Thread} {instruction : Instruction}
    (placed : expression.program[thread.state]? = some instruction)
    (member : after ∈ thread.next text instruction) : after.state ≤ expression.width := by
  have inProgram : instruction ∈ expression.instructions 0 expression.width := by
    rw [Expression.program, List.getElem?_toArray] at placed
    exact List.mem_of_getElem? placed
  exact Expression.targets_le expression (Nat.le_of_eq (Nat.zero_add _)) (Nat.le_refl _)
    instruction inProgram after.state (state_of_next member)

theorem whole_program (expression : Expression) : expression.whole.program =
    (Instruction.test .startOfText 1 ::
      (expression.instructions 0 expression.width).map (Instruction.shift 1) ++
        [Instruction.test .endOfText (expression.width + 2)]).toArray := by
  have width : expression.whole.width = expression.width + 2 := by
    simp only [Expression.whole, Expression.width]
    omega
  rw [← Expression.instructions_shift, Expression.program, width]
  simp only [Expression.whole, Expression.instructions, Expression.width, Nat.zero_add,
    Nat.add_comm 1, List.cons_append, List.nil_append]

theorem whole_program_first :
    expression.whole.program[0]? = some (.test .startOfText 1) := by
  rw [whole_program]
  rfl

theorem whole_program_inside {state : Nat} {instruction : Instruction}
    (placed : expression.program[state]? = some instruction) :
    expression.whole.program[state + 1]? = some (instruction.shift 1) := by
  rw [Expression.program, List.getElem?_toArray] at placed
  rw [whole_program, List.getElem?_toArray, List.cons_append, List.getElem?_cons_succ,
    List.getElem?_append_left, List.getElem?_map, placed]
  · rfl
  · rw [List.length_map]
    exact (List.getElem?_eq_some_iff.mp placed).1

theorem whole_program_last :
    expression.whole.program[expression.width + 1]? =
      some (.test .endOfText (expression.width + 2)) := by
  rw [whole_program, List.getElem?_toArray, List.cons_append, List.getElem?_cons_succ,
    List.getElem?_append_right, List.length_map, Expression.length_instructions, Nat.sub_self]
  · rfl
  · rw [List.length_map, Expression.length_instructions]

theorem size_whole_program : expression.whole.program.size = expression.width + 2 := by
  rw [whole_program, List.size_toArray]
  simp [Expression.length_instructions]

theorem whole_program_end : expression.whole.program[expression.width + 2]? = none :=
  Array.getElem?_eq_none_iff.mpr (Nat.le_of_eq size_whole_program)

structure Alongside (expression : Expression) (visited other : Visited) : Prop where
  size : visited.places.size = expression.width
  otherSize : other.places.size = expression.width + 2
  same : ∀ state place, state ≤ expression.width →
    other.contains (state + 1) place = visited.contains state place

theorem Alongside.visit {visited other : Visited} (alongside : Alongside expression visited other)
    {state place : Nat} (inside : state < expression.width) :
    Alongside expression (visited.insert state place) (other.insert (state + 1) place) where
  size := (size_insert ..).trans alongside.size
  otherSize := (size_insert ..).trans alongside.otherSize
  same := by
    intro ownState ownPlace fits
    have within : state < visited.places.size := alongside.size ▸ inside
    have otherWithin : state + 1 < other.places.size := by
      rw [alongside.otherSize]
      omega
    rw [Visited.contains_insert _ _ _ _ _ within, Visited.contains_insert _ _ _ _ _ otherWithin,
      alongside.same _ _ fits]
    simp

theorem search_whole_end {more : Nat} {visited other : Visited} {thread : Thread}
    {waiting : List Thread} {found : Match} (last : thread.state = expression.width)
    (alongside : Alongside expression visited other)
    (fresh : other.contains thread.shift.state thread.shift.place = false)
    (success : some thread.toMatch = some found) (ends : found.stop = text.size)
    (enough : 0 < more) :
    search expression.whole.program text (more + 1) other (thread.shift :: waiting) =
      some found := by
  have placed : expression.whole.program[thread.shift.state]? =
      some (.test .endOfText (expression.width + 2)) := by
    rw [Thread.shift, last]
    exact whole_program_last
  have place : thread.place = text.size := by
    rw [← ends, ← Option.some.inj success]
    rfl
  have holds : Condition.endOfText.holdsAt text thread.shift.place = true :=
    (endOfText_holds (Nat.le_of_eq place)).mpr place
  have passes : thread.shift.next text (.test .endOfText (expression.width + 2)) =
      [{ thread with state := expression.width + 2 }] := by
    rw [Thread.next, if_pos holds]
    rfl
  cases more with
  | zero => exact absurd enough (Nat.lt_irrefl 0)
  | succ more =>
      rw [search_step fresh placed, passes, List.singleton_append]
      refine Eq.trans (search_end ?_ whole_program_end) success
      apply contains_of_size_le
      rw [size_insert, alongside.otherSize]

/-- As long as threads that began at the start of the text are tried, the search for the anchored
expression goes along with the other one, and comes to the same end if that covers the text. -/
theorem search_alongside {turns more : Nat} {visited other : Visited}
    {ahead behind others : List Thread} {found : Match}
    (success : search expression.program text turns visited (ahead ++ behind) = some found)
    (begins : found.start = 0) (ends : found.stop = text.size)
    (early : ∀ thread ∈ ahead, thread.start = 0 ∧ thread.state ≤ expression.width)
    (late : ∀ thread ∈ behind, thread.start ≠ 0)
    (alongside : Alongside expression visited other) (enough : turns + 1 ≤ more) :
    search expression.whole.program text more other (ahead.map Thread.shift ++ others) =
      some found := by
  induction turns generalizing more visited other ahead with
  | zero => cases success
  | succ turns induction =>
      cases ahead with
      | nil =>
          exfalso
          rcases search_sound success with ⟨thread, member, steps, last, runs, rfl⟩
          exact late thread member ((runs_start runs).symm.trans begins)
      | cons thread ahead =>
          have first := early thread List.mem_cons_self
          have rest := fun other member => early other (List.mem_cons_of_mem thread member)
          have seen := alongside.same thread.state thread.place first.2
          cases more with
          | zero => exact absurd enough (Nat.not_succ_le_zero _)
          | succ more =>
              rw [List.cons_append] at success
              rw [List.map_cons, List.cons_append]
              cases known : visited.contains thread.state thread.place with
              | true =>
                  have alsoKnown : other.contains thread.shift.state thread.shift.place = true :=
                    seen.trans known
                  rw [search_known known] at success
                  rw [search_known alsoKnown]
                  exact induction success rest alongside (Nat.le_of_succ_le_succ enough)
              | false =>
                  have alsoFresh : other.contains thread.shift.state thread.shift.place = false :=
                    seen.trans known
                  cases placed : expression.program[thread.state]? with
                  | none =>
                      rw [search_end known placed] at success
                      have last : thread.state = expression.width := by
                        have outside := Array.getElem?_eq_none_iff.mp placed
                        rw [size_program] at outside
                        exact Nat.le_antisymm first.2 outside
                      exact search_whole_end last alongside alsoFresh success ends
                        (Nat.lt_of_lt_of_le (Nat.succ_pos turns) (Nat.le_of_succ_le_succ enough))
                  | some instruction =>
                      have inside : thread.state < expression.width := by
                        rw [← size_program]
                        exact (Array.getElem?_eq_some_iff.mp placed).1
                      have alsoPlaced : expression.whole.program[thread.shift.state]? =
                          some (instruction.shift 1) := whole_program_inside placed
                      rw [search_step known placed, ← List.append_assoc] at success
                      rw [search_step alsoFresh alsoPlaced, next_shift, ← List.append_assoc,
                        ← List.map_append]
                      refine induction success ?_ (alongside.visit inside)
                        (Nat.le_of_succ_le_succ enough)
                      intro after member
                      rcases List.mem_append.mp member with isNext | waits
                      · exact ⟨(start_of_next isNext).trans first.1,
                          state_le_of_next placed isNext⟩
                      · exact rest after waits

end Alongside

theorem whole_of_spans {expression : Expression} {text : List Char} {found : Match}
    (success : expression.find? text = some found) (spans : found.Spans text) :
    expression.whole.find? text = some found := by
  have places : (List.range (text.length + 1)).map Thread.beginning =
      Thread.beginning 0 :: ((List.range text.length).map Nat.succ).map Thread.beginning := by
    rw [List.range_succ_eq_map, List.map_cons]
  have late : ∀ thread ∈ ((List.range text.length).map Nat.succ).map Thread.beginning,
      thread.start ≠ 0 := by
    intro thread member
    rcases List.mem_map.mp member with ⟨place, inRange, rfl⟩
    rcases List.mem_map.mp inRange with ⟨earlier, _, rfl⟩
    exact Nat.succ_ne_zero earlier
  have turns : searchTurns expression.program.size (text.length + 1) + 2 ≤
      searchTurns expression.whole.program.size (text.length + 1) := by
    have grown : 2 * (expression.width + 2) + 1 = 2 * expression.width + 1 + 4 := by omega
    rw [size_whole_program, size_program, searchTurns, searchTurns, grown]
    generalize 2 * expression.width + 1 = rounds
    rw [Nat.add_mul rounds 4]
    omega
  have holds : Condition.startOfText.holdsAt text.toArray (Thread.beginning 0).place = true := rfl
  have passes : (Thread.beginning 0).next text.toArray (.test .startOfText 1) =
      [(Thread.beginning 0).shift] := by
    rw [Thread.next, if_pos holds]
    rfl
  have alongside : Alongside expression (.none expression.program.size)
      ((Visited.none expression.whole.program.size).insert 0 0) := {
    size := by simp [Visited.none, size_program]
    otherSize := by simp [size_insert, Visited.none, size_whole_program]
    same := by
      intro state place _
      rw [Visited.contains_insert _ _ _ _ _ (by simp [Visited.none, size_whole_program]),
        Visited.contains_none, Visited.contains_none]
      simp }
  unfold Expression.find? at success ⊢
  simp only [places] at success ⊢
  rcases Nat.exists_eq_add_of_le' turns with ⟨extra, more⟩
  rw [more, ← Nat.add_assoc,
    search_step (Visited.contains_none ..) whole_program_first, passes]
  have first : search expression.program text.toArray
      (searchTurns expression.program.size (text.length + 1)) (.none expression.program.size)
      ([Thread.beginning 0] ++ ((List.range text.length).map Nat.succ).map Thread.beginning) =
        some found := success
  exact search_alongside first spans.1 spans.2 (by simp [Thread.beginning]) late alongside
    (by omega)

/-- A match covers its text just if the anchored expression finds it too. -/
theorem spans_iff_whole {expression : Expression} {text : List Char} {found : Match}
    (success : expression.find? text = some found) :
    found.Spans text ↔ expression.whole.find? text = some found :=
  ⟨whole_of_spans success, spans_of_whole⟩

theorem spans_iff_whole_everywhere (expression : Expression) :
    (∀ text found, expression.find? text = some found → found.Spans text) ↔
      ∀ text, expression.find? text = expression.whole.find? text := by
  constructor
  · intro spans text
    cases result : expression.find? text with
    | some found => exact (whole_of_spans result (spans text found result)).symm
    | none =>
        cases anchored : expression.whole.find? text with
        | none => rfl
        | some found =>
            have way := find?_sound anchored
            have inner := (way_whole way.1).mp way.2
            have some := find?_complete way.1 inner.2.2
            rw [result] at some
            cases some
  · intro same text found success
    exact spans_of_whole ((same text).symm.trans success)

end UriDispatch.Regex
