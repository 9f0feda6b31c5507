import UriDispatch.Proofs.Regex.Ends

/-! Which match of an expression is preferred. From each place an expression leaves some choices, in
an order that can be told from the expression alone, and a search finds the first of them. -/

namespace UriDispatch.Regex

/-! ## First values -/

section FirstValues

variable {Value Other Result : Type}

theorem findSome?_congr {values : List Value} {found other : Value → Option Result}
    (same : ∀ value ∈ values, found value = other value) :
    values.findSome? found = values.findSome? other := by
  induction values with
  | nil => rfl
  | cons value rest induction =>
      rw [List.forall_mem_cons] at same
      rw [List.findSome?_cons, List.findSome?_cons, same.1, induction same.2]

theorem findSome?_flatMap (values : List Value) (others : Value → List Other)
    (found : Other → Option Result) :
    (values.flatMap others).findSome? found =
      values.findSome? fun value => (others value).findSome? found := by
  induction values with
  | nil => rfl
  | cons value rest induction =>
      rw [List.flatMap_cons, List.findSome?_append, induction, List.findSome?_cons]
      cases (others value).findSome? found <;> rfl

end FirstValues

/-! ## Choices -/

/-- From a place of a text to other ones, the preferred one first, each with the captures closed in
between, last first. -/
abbrev Choices := (start : Nat) → List (Nat × List Captured)

namespace Choices

def stay : Choices := fun start => [(start, [])]

/-- One choice after another. If the second one fails, the first one is made anew. -/
def next (first second : Choices) : Choices := fun start =>
  (first start).flatMap fun (middle, before) =>
    (second middle).map fun (stop, after) => (stop, after ++ before)

def option (greedy : Bool) (through : Choices) : Choices := fun start =>
  if greedy then through start ++ stay start else stay start ++ through start

def rounds (body : Choices) : (count : Nat) → Choices
  | 0 => stay
  | count + 1 => body.next (body.rounds count)

def atMost (greedy : Bool) (body : Choices) : (count : Nat) → Choices
  | 0 => stay
  | count + 1 => option greedy (body.next (body.atMost greedy count))

def many (greedy : Bool) (size : Nat) (body : Choices) : Choices := fun start =>
  body.atMost greedy (size - start) start

def row (choices : List Choices) : Choices := choices.foldr next stay

def Advances (size : Nat) (choices : Choices) : Prop :=
  ∀ start, ∀ choice ∈ choices start, start < choice.1 ∧ choice.1 ≤ size

theorem stay_next (choices : Choices) : stay.next choices = choices := by
  funext start
  simp [next, stay]

theorem next_stay (choices : Choices) : choices.next stay = choices := by
  funext start
  simp [next, stay]

theorem next_assoc (first second third : Choices) :
    (first.next second).next third = first.next (second.next third) := by
  funext start
  simp only [next, List.flatMap_assoc, List.flatMap_map, List.map_flatMap, List.map_map]
  refine congrArg (List.flatMap · (first start)) (funext fun (middle, before) => ?_)
  refine congrArg (List.flatMap · (second middle)) (funext fun (place, between) => ?_)
  exact List.map_congr_left fun (stop, after) _ => by simp

theorem next_congr {first second other : Choices} {start : Nat}
    (same : ∀ choice ∈ first start, second choice.1 = other choice.1) :
    first.next second start = first.next other start :=
  List.flatMap_congr fun choice member => congrArg (List.map _) (same choice member)

theorem next_of_nil {first : Choices} {start : Nat} (none : first start = []) (second : Choices) :
    first.next second start = [] := by
  rw [next, none, List.flatMap_nil]

theorem next_of_stay {first : Choices} {start : Nat} (stays : first start = stay start)
    (second : Choices) : first.next second start = second start := by
  rw [next, stays]
  exact congrFun (stay_next second) start

theorem findSome?_next {Result : Type} (first second : Choices) (start : Nat)
    (found : Nat × List Captured → Option Result) :
    (first.next second start).findSome? found = (first start).findSome? fun (middle, before) =>
      (second middle).findSome? fun (stop, after) => found (stop, after ++ before) := by
  rw [next, findSome?_flatMap]
  exact findSome?_congr fun _ _ => List.findSome?_map

theorem row_append (left right : List Choices) :
    row (left ++ right) = (row left).next (row right) := by
  induction left with
  | nil => exact (stay_next _).symm
  | cons head tail induction =>
      change head.next (row (tail ++ right)) = (head.next (row tail)).next (row right)
      rw [induction, next_assoc]

theorem row_singleton (choices : Choices) : row [choices] = choices := next_stay choices

section Rounds

variable {greedy : Bool} {size : Nat} {body : Choices}

theorem atMost_of_le (advances : body.Advances size) {count more start : Nat}
    (enough : size - start ≤ count) (less : count ≤ more) :
    body.atMost greedy more start = body.atMost greedy count start := by
  induction more generalizing count start with
  | zero => rw [Nat.le_zero.mp less]
  | succ more induction =>
      cases count with
      | zero =>
          have none : body start = [] := List.eq_nil_iff_forall_not_mem.mpr fun choice member => by
            have forward := advances start choice member
            omega
          cases greedy <;> simp [atMost, option, next, none]
      | succ count =>
          have same : body.next (body.atMost greedy more) start =
              body.next (body.atMost greedy count) start := by
            refine next_congr fun choice member => ?_
            have forward := advances start choice member
            exact induction (by omega) (Nat.le_of_succ_le_succ less)
          rw [atMost, atMost, option, option, same]

theorem many_eq (advances : body.Advances size) :
    body.many greedy size = option greedy (body.next (body.many greedy size)) := by
  funext start
  have more : body.many greedy size start = body.atMost greedy (size - start + 1) start :=
    (atMost_of_le advances (Nat.le_refl _) (Nat.le_succ _)).symm
  have same : body.next (body.atMost greedy (size - start)) start =
      body.next (body.many greedy size) start := by
    refine next_congr fun choice member => ?_
    have forward := advances start choice member
    exact atMost_of_le advances (Nat.le_refl _) (by omega)
  rw [more, atMost, option, option, same]

end Rounds

end Choices

/-! ## Expressions -/

namespace Expression

def choices (text : Array Char) : Expression → Choices
  | .empty => .stay
  | .step set => fun start =>
      if text[start]?.any set.contains then [(start + 1, [])] else []
  | .test condition => fun start => if condition.holdsAt text start then [(start, [])] else []
  | .capture index body => fun start =>
      (body.choices text start).map fun (stop, inner) => (stop, ⟨index, start, stop⟩ :: inner)
  | .follow first second => (first.choices text).next (second.choices text)
  | .orElse first second => fun start => first.choices text start ++ second.choices text start
  | .repetition least (some most) greedy body =>
      ((body.choices text).rounds least).next ((body.choices text).atMost greedy (most - least))
  | .repetition least none greedy body =>
      ((body.choices text).rounds least).next ((body.choices text).many greedy text.size)

theorem choices_test_holds {text : Array Char} {condition : Condition} {start : Nat}
    (holds : condition.holdsAt text start = true) :
    (Expression.test condition).choices text start = Choices.stay start :=
  if_pos holds

theorem choices_test_fails {text : Array Char} {condition : Condition} {start : Nat}
    (fails : ¬condition.holdsAt text start = true) :
    (Expression.test condition).choices text start = [] :=
  if_neg fails

/-- Whatever is repeated without a bound takes a character each time. -/
def Steady (text : Array Char) : Expression → Prop
  | .empty | .step _ | .test _ => True
  | .capture _ body | .repetition _ (some _) _ body => body.Steady text
  | .follow first second | .orElse first second => first.Steady text ∧ second.Steady text
  | .repetition _ none _ body => body.Steady text ∧ (body.choices text).Advances text.size

end Expression

/-! ## Ends -/

section Ends

variable {program : Array Instruction} {text : Array Char}

namespace Ends

theorem nil : Ends program text [] [] := ⟨0, .nil⟩

theorem append {threads others ends further : List Thread} (first : Ends program text threads ends)
    (second : Ends program text others further) :
    Ends program text (threads ++ others) (ends ++ further) := by
  rcases first with ⟨steps, leads⟩
  rcases second with ⟨more, others⟩
  exact ⟨max steps more, (leads.mono (Nat.le_max_left ..)).append (others.mono (Nat.le_max_right ..))⟩

theorem of_append {threads others ends : List Thread}
    (whole : Ends program text (threads ++ others) ends) :
    ∃ first second, ends = first ++ second ∧ Ends program text threads first ∧
      Ends program text others second := by
  rcases whole with ⟨steps, leads⟩
  rcases leads.of_append with ⟨first, second, equal, left, right⟩
  exact ⟨first, second, equal, ⟨steps, left⟩, ⟨steps, right⟩⟩

theorem step {thread : Thread} {instruction : Instruction} {ends : List Thread}
    (placed : program[thread.state]? = some instruction)
    (next : Ends program text (thread.next text instruction) ends) :
    Ends program text [thread] ends := by
  rcases next with ⟨steps, leads⟩
  have whole := EndsWithin.step placed leads .nil
  rw [List.append_nil] at whole
  exact ⟨steps + 1, whole⟩

theorem of_atEnd {threads : List Thread}
    (atEnd : ∀ thread ∈ threads, program[thread.state]? = none) :
    Ends program text threads threads := by
  induction threads with
  | nil => exact nil
  | cons thread others induction =>
      rw [List.forall_mem_cons] at atEnd
      have own : Ends program text [thread] [thread] := ⟨0, .done atEnd.1 .nil⟩
      exact own.append (induction atEnd.2)

theorem flatMap {Value : Type} {values : List Value} {before : Value → Thread}
    (after : Value → List Thread) {ends : List Thread}
    (each : ∀ value ∈ values, ∀ ends, Ends program text (after value) ends →
      Ends program text [before value] ends)
    (all : Ends program text (values.flatMap after) ends) :
    Ends program text (values.map before) ends := by
  induction values generalizing ends with
  | nil => exact all
  | cons value others induction =>
      rw [List.forall_mem_cons] at each
      rw [List.flatMap_cons] at all
      rcases all.of_append with ⟨first, second, rfl, left, right⟩
      exact (each.1 first left).append (induction each.2 right)

end Ends

/-! ## Programs that leave choices -/

def Thread.moves (thread : Thread) (state : Nat) (choices : List (Nat × List Captured)) :
    List Thread :=
  choices.map fun (stop, captured) => thread.move state stop captured

def Thread.Leads (program : Array Instruction) (text : Array Char) (thread : Thread) (next : Nat)
    (choices : List (Nat × List Captured)) : Prop :=
  ∀ ends, Ends program text (thread.moves next choices) ends → Ends program text [thread] ends

def Leads (program : Array Instruction) (text : Array Char) (here next : Nat)
    (choices : Choices) : Prop :=
  ∀ thread : Thread, thread.state = here → thread.Leads program text next (choices thread.place)

namespace Thread.Leads

variable {thread : Thread} {middle next : Nat}

theorem next_of {choices : List (Nat × List Captured)} {further : Choices}
    (first : thread.Leads program text middle choices)
    (after : ∀ choice ∈ choices,
      (thread.move middle choice.1 choice.2).Leads program text next (further choice.1)) :
    thread.Leads program text next (choices.flatMap fun (place, before) =>
      (further place).map fun (stop, after) => (stop, after ++ before)) := by
  intro ends all
  apply first
  apply Ends.flatMap (fun choice =>
    (thread.move middle choice.1 choice.2).moves next (further choice.1)) after
  rw [moves, List.map_flatMap] at all
  simpa only [moves, List.map_map, Function.comp_def, Thread.move_move] using all

theorem fork {first second : Nat} {left right : List (Nat × List Captured)}
    (placed : program[thread.state]? = some (.fork first second))
    (through : { thread with state := first }.Leads program text next left)
    (other : { thread with state := second }.Leads program text next right) :
    thread.Leads program text next (left ++ right) := by
  intro ends all
  rw [moves, List.map_append] at all
  rcases all.of_append with ⟨_, _, rfl, before, after⟩
  exact .step placed ((through _ before).append (other _ after))

end Thread.Leads

namespace Leads

variable {here middle next : Nat} {choices further : Choices}

theorem stay : Leads program text here here .stay := by
  rintro thread rfl ends all
  exact all

theorem next_of (first : Leads program text here middle choices)
    (after : Leads program text middle next further) :
    Leads program text here next (choices.next further) :=
  fun thread equal => (first thread equal).next_of fun _ _ => after _ rfl

theorem of_instruction {instruction : Instruction} (placed : program[here]? = some instruction)
    (steps : ∀ thread, Thread.next text thread instruction =
      thread.moves next (choices thread.place)) :
    Leads program text here next choices := by
  rintro thread rfl ends all
  apply Ends.step placed
  rw [steps]
  exact all

theorem jump (placed : program[here]? = some (.jump next)) : Leads program text here next .stay :=
  .of_instruction placed fun _ => rfl

theorem fork {first second : Nat} (placed : program[here]? = some (.fork first second))
    (left : Leads program text first next choices)
    (right : Leads program text second next further) :
    Leads program text here next fun start => choices start ++ further start := by
  rintro thread rfl
  exact .fork placed (left { thread with state := first } rfl)
    (right { thread with state := second } rfl)

theorem option {greedy : Bool} {body : Nat}
    (placed : program[here]? = some (.option greedy body next))
    (through : Leads program text body next choices) :
    Leads program text here next (.option greedy choices) := by
  cases greedy with
  | true => exact fork placed through stay
  | false => exact fork placed stay through

theorem capture {index : Nat} (opens : program[here]? = some (.openCapture (here + 1)))
    (through : Leads program text (here + 1) middle choices)
    (closes : program[middle]? = some (.closeCapture index next)) :
    Leads program text here next fun start => (choices start).map fun (stop, inner) =>
      (stop, ⟨index, start, stop⟩ :: inner) := by
  rintro thread rfl ends all
  apply Ends.step opens
  apply through { thread with state := thread.state + 1, opened := thread.place :: thread.opened } rfl
  apply Ends.flatMap (fun choice =>
    [thread.move next choice.1 (⟨index, thread.place, choice.1⟩ :: choice.2)])
  · intro choice _ ends last
    exact .step closes last
  · rw [Thread.moves, List.map_map] at all
    rw [← List.map_eq_flatMap]
    exact all

/-- Going back to a choice as often as it takes. Each round takes a character, so it ends. -/
theorem loop {greedy : Bool} {body : Nat}
    (placed : program[here]? = some (.option greedy body next))
    (through : Leads program text body here choices) (advances : choices.Advances text.size) :
    Leads program text here next (choices.many greedy text.size) := by
  intro thread equal
  induction left : text.size - thread.place using Nat.strongRecOn generalizing thread with
  | ind left induction =>
      subst equal
      have round : { thread with state := body }.Leads program text next
          (choices.next (choices.many greedy text.size) thread.place) := by
        refine (through { thread with state := body } rfl).next_of fun choice member => ?_
        have forward := advances thread.place choice member
        exact induction (text.size - choice.1) (by omega) _ rfl rfl
      rw [Choices.many_eq advances]
      cases greedy with
      | true => exact .fork placed round (stay _ rfl)
      | false => exact .fork placed (stay _ rfl) round

section Rows

variable {width : Nat} {instructions : (here next : Nat) → List Instruction}

theorem row (length : ∀ here next, (instructions here next).length = width)
    (each : ∀ here, Placed program here (instructions here (here + width)) →
      Leads program text here (here + width) choices) {count here : Nat}
    (placed : Placed program here (Expression.row width instructions count here)) :
    Leads program text here (here + count * width) (choices.rounds count) := by
  induction count generalizing here with
  | zero =>
      rw [Nat.zero_mul]
      exact stay
  | succ count induction =>
      have parts := placed_append placed
      rw [length] at parts
      have whole := (each here parts.1).next_of (induction parts.2)
      rw [Nat.succ_mul, Nat.add_comm (count * width), ← Nat.add_assoc]
      exact whole

theorem options {greedy : Bool} {exit : Nat}
    (length : ∀ here next, (instructions here next).length = width)
    (each : ∀ here, Placed program here (instructions here (here + width)) →
      Leads program text here (here + width) choices) {count here : Nat}
    (placed : Placed program here (Expression.row (width + 1) (fun here next =>
      .option greedy (here + 1) exit :: instructions (here + 1) next) count here))
    (ends : exit = here + count * (width + 1)) :
    Leads program text here exit (choices.atMost greedy count) := by
  induction count generalizing here with
  | zero =>
      rw [ends, Nat.zero_mul]
      exact stay
  | succ count induction =>
      have parts := placed_append placed
      rw [List.length_cons, length] at parts
      have choice := placed_cons parts.1
      have same : here + (width + 1) = here + 1 + width := by omega
      rw [same] at choice parts
      have rest := induction parts.2 (by rw [ends, Nat.succ_mul]; omega)
      exact option choice.1 ((each _ choice.2).next_of rest)

end Rows

end Leads

theorem leads_instructions {expression : Expression} {here next : Nat}
    (steady : expression.Steady text)
    (placed : Placed program here (expression.instructions here next)) :
    Leads program text here next (expression.choices text) := by
  induction expression generalizing here next with
  | empty => exact .jump (placed_cons placed).1
  | step set =>
      refine .of_instruction (placed_cons placed).1 fun thread => ?_
      simp only [Thread.next, Expression.choices]
      split <;> rfl
  | test condition =>
      refine .of_instruction (placed_cons placed).1 fun thread => ?_
      simp only [Thread.next, Expression.choices]
      split <;> rfl
  | capture index body induction =>
      have opening := placed_cons placed
      have inside := placed_append opening.2
      rw [Expression.length_instructions] at inside
      exact .capture opening.1 (induction steady inside.1) (placed_cons inside.2).1
  | follow first second left right =>
      have parts := placed_append placed
      rw [Expression.length_instructions] at parts
      exact (left steady.1 parts.1).next_of (right steady.2 parts.2)
  | orElse first second left right =>
      have choice := placed_cons placed
      have parts := placed_append choice.2
      rw [Expression.length_instructions] at parts
      exact .fork choice.1 (left steady.1 parts.1) (right steady.2 parts.2)
  | repetition least most greedy body induction =>
      have length := body.length_instructions
      cases most with
      | some bound =>
          have parts := placed_append placed
          have rounds := placed_append parts.1
          rw [List.length_append, Expression.length_row _ _ length,
            Expression.length_row _ _ (by simp [length]), ← Nat.add_assoc] at parts
          rw [Expression.length_row _ _ length] at rounds
          have least := Leads.row length (fun here => induction steady) rounds.1
          have others := Leads.options length (fun here => induction steady) rounds.2 rfl
          have whole := (least.next_of others).next_of (.jump (placed_cons parts.2).1)
          rw [Choices.next_stay] at whole
          exact whole
      | none =>
          cases least with
          | zero =>
              rw [Expression.choices, Choices.rounds, Choices.stay_next]
              have choice := placed_cons placed
              by_cases something : body.takesSomething
              · simp only [something, if_true] at choice
                exact .loop choice.1 (induction steady.1 (placed_append choice.2).1) steady.2
              · simp only [something, Bool.false_eq_true, if_false] at choice
                have parts := placed_append choice.2
                rw [length] at parts
                have round := induction steady.1 parts.1
                rw [Choices.many_eq steady.2]
                exact .option choice.1
                  (round.next_of (.loop (placed_cons parts.2).1 round steady.2))
          | succ least =>
              have parts := placed_append placed
              rw [Expression.length_row _ _ length] at parts
              have rounds := Leads.row length (fun here => induction steady.1) parts.1
              have last := (placed_append (row_succ .. ▸ parts.1)).2
              rw [Expression.length_row _ _ length] at last
              have same : here + least * body.width + body.width =
                  here + (least + 1) * body.width := by
                rw [Nat.succ_mul, Nat.add_assoc]
              rw [same] at last
              exact rounds.next_of
                (.loop (placed_cons parts.2).1 (induction steady.1 last) steady.2)

end Ends

/-! ## Simple forms -/

namespace Expression

variable {text : Array Char}

theorem choices_append (first second : Expression) :
    (first.append second).choices text = (first.choices text).next (second.choices text) := by
  fun_induction append first second with
  | case1 second => exact (Choices.stay_next _).symm
  | case2 first rest second induction => rw [choices, choices, induction, Choices.next_assoc]
  | case3 => exact (Choices.next_stay _).symm
  | case4 => rfl

theorem Steady.append {first second : Expression} (before : first.Steady text)
    (after : second.Steady text) : (first.append second).Steady text := by
  fun_induction Expression.append first second with
  | case1 second => exact after
  | case2 first rest second induction => exact ⟨before.1, induction before.2 after⟩
  | case3 => exact before
  | case4 => exact ⟨before, after⟩

theorem choices_ofSet (set : CharacterSet) :
    (ofSet set).choices text = (Expression.step set).choices text := by
  funext start
  have same : text[start]?.any set.normal.contains = text[start]?.any set.contains :=
    congrArg text[start]?.any (funext fun character => CharacterSet.contains_normal set character)
  simp only [ofSet, choices, same]

theorem repeated_option (greedy : Bool) (body : Expression) :
    repeated 0 (some 1) greedy body = .repetition 0 (some 1) greedy body := by
  simp [repeated]

theorem choices_option (greedy : Bool) (body : Expression) :
    (Expression.repetition 0 (some 1) greedy body).choices text =
      .option greedy (body.choices text) := by
  rw [choices, Choices.rounds, Choices.stay_next, Nat.sub_zero, Choices.atMost, Choices.atMost,
    Choices.next_stay]

end Expression

/-! ## Searches -/

theorem find?_of_choices {expression : Expression} {text : List Char}
    (steady : expression.Steady text.toArray) :
    expression.find? text = ((List.range (text.length + 1)).flatMap fun start =>
      (expression.choices text.toArray start).map fun (stop, captured) =>
        (⟨start, stop, captured⟩ : Match)).head? := by
  have leads := leads_instructions steady (placed_program expression)
  let ends (start : Nat) : List Thread := (Thread.beginning start).moves expression.width
    (expression.choices text.toArray start)
  have atEnd : ∀ thread ∈ (List.range (text.length + 1)).flatMap ends,
      expression.program[thread.state]? = none := by
    intro thread member
    rcases List.mem_flatMap.mp member with ⟨start, _, inside⟩
    rcases List.mem_map.mp inside with ⟨choice, _, rfl⟩
    exact program_end expression
  have all : Ends expression.program text.toArray
      ((List.range (text.length + 1)).map .beginning)
      ((List.range (text.length + 1)).flatMap ends) :=
    .flatMap ends (fun start _ => leads (.beginning start) rfl) (.of_atEnd atEnd)
  rw [find?_of_ends all, ← List.head?_map, List.map_flatMap]
  refine congrArg List.head? (List.flatMap_congr fun start _ => ?_)
  refine List.map_map.trans (List.map_congr_left fun choice _ => ?_)
  change (⟨start, choice.1, choice.2 ++ []⟩ : Match) = _
  rw [List.append_nil]

theorem find?_of_beginning {expression : Expression} {text : List Char}
    (steady : expression.Steady text.toArray)
    (later : ∀ start < text.length, expression.choices text.toArray (start + 1) = []) :
    expression.find? text = (expression.choices text.toArray 0).head?.map fun (stop, captured) =>
      ⟨0, stop, captured⟩ := by
  have others : (List.range text.length).flatMap (fun start =>
      (expression.choices text.toArray (start + 1)).map fun (stop, captured) =>
        (⟨start + 1, stop, captured⟩ : Match)) = [] := by
    rw [List.flatMap_eq_nil_iff]
    intro start member
    rw [later start (List.mem_range.mp member)]
    rfl
  rw [find?_of_choices steady, List.range_succ_eq_map, List.flatMap_cons, List.flatMap_map, others,
    List.append_nil, List.head?_map]

end UriDispatch.Regex
