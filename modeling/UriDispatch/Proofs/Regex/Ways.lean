import UriDispatch.Proofs.Regex.SimpleForms
import UriDispatch.Regex.Matching

/-! The ways through an expression in a text: from which place to which, and what is captured in
between. Which of them is preferred plays no part here. -/

namespace UriDispatch.Regex

/-! ## Passages -/

/-- From a place of a text to another one, with the captures closed in between, last first. -/
abbrev Passage := (start stop : Nat) → (captured : List Captured) → Prop

namespace Passage

def stay : Passage := fun start stop captured => start = stop ∧ captured = []

def next (first second : Passage) : Passage := fun start stop captured =>
  ∃ middle before after, first start middle before ∧ second middle stop after ∧
    captured = after ++ before

def rounds (body : Passage) : (count : Nat) → Passage
  | 0 => stay
  | count + 1 => body.next (body.rounds count)

def row (passages : List Passage) : Passage := passages.foldr next stay

def either (passages : List Passage) : Passage := fun start stop captured =>
  ∃ passage ∈ passages, passage start stop captured

theorem stay_next (passage : Passage) : stay.next passage = passage := by
  funext start stop captured
  apply propext
  constructor
  · rintro ⟨middle, before, after, ⟨rfl, rfl⟩, second, rfl⟩
    rwa [List.append_nil]
  · intro way
    exact ⟨start, [], captured, ⟨rfl, rfl⟩, way, (List.append_nil _).symm⟩

theorem next_stay (passage : Passage) : passage.next stay = passage := by
  funext start stop captured
  apply propext
  constructor
  · rintro ⟨middle, before, after, first, ⟨rfl, rfl⟩, rfl⟩
    exact first
  · intro way
    exact ⟨stop, captured, [], way, ⟨rfl, rfl⟩, rfl⟩

theorem next_assoc (first second third : Passage) :
    (first.next second).next third = first.next (second.next third) := by
  funext start stop captured
  apply propext
  constructor
  · rintro ⟨_, _, _, ⟨_, _, _, way, other, rfl⟩, last, rfl⟩
    exact ⟨_, _, _, way, ⟨_, _, _, other, last, rfl⟩, (List.append_assoc ..).symm⟩
  · rintro ⟨_, _, _, way, ⟨_, _, _, other, last, rfl⟩, rfl⟩
    exact ⟨_, _, _, ⟨_, _, _, way, other, rfl⟩, last, List.append_assoc ..⟩

theorem row_append (left right : List Passage) : row (left ++ right) = (row left).next (row right) := by
  induction left with
  | nil => exact (stay_next _).symm
  | cons head tail induction =>
      change head.next (row (tail ++ right)) = (head.next (row tail)).next (row right)
      rw [induction, next_assoc]

theorem row_singleton (passage : Passage) : row [passage] = passage := next_stay passage

theorem rounds_one (body : Passage) : body.rounds 1 = body := next_stay body

theorem rounds_add (body : Passage) (first second : Nat) :
    body.rounds (first + second) = (body.rounds first).next (body.rounds second) := by
  induction first with
  | zero => rw [Nat.zero_add, rounds, stay_next]
  | succ first induction => rw [Nat.succ_add, rounds, rounds, induction, next_assoc]

theorem next_either (first : Passage) (choice : List Passage) :
    first.next (either choice) = either (choice.map first.next) := by
  funext start stop captured
  apply propext
  constructor
  · rintro ⟨middle, before, after, way, ⟨passage, member, second⟩, equal⟩
    exact ⟨first.next passage, List.mem_map_of_mem member, middle, before, after, way, second,
      equal⟩
  · rintro ⟨_, member, way⟩
    rcases List.mem_map.mp member with ⟨passage, inChoice, rfl⟩
    rcases way with ⟨middle, before, after, way, second, equal⟩
    exact ⟨middle, before, after, way, ⟨passage, inChoice, second⟩, equal⟩

theorem either_singleton (passage : Passage) : either [passage] = passage := by
  funext start stop captured
  simp [either]

theorem either_flatMap {Value : Type} (values : List Value) (choices : Value → List Passage) :
    either (values.flatMap choices) = either (values.map fun value => either (choices value)) := by
  funext start stop captured
  apply propext
  constructor
  · rintro ⟨passage, member, way⟩
    rcases List.mem_flatMap.mp member with ⟨value, inValues, inChoices⟩
    exact ⟨_, List.mem_map_of_mem inValues, passage, inChoices, way⟩
  · rintro ⟨_, member, way⟩
    rcases List.mem_map.mp member with ⟨value, inValues, rfl⟩
    rcases way with ⟨passage, inChoices, way⟩
    exact ⟨passage, List.mem_flatMap.mpr ⟨value, inValues, inChoices⟩, way⟩

def Takes (passage : Passage) (start stop : Nat) : Prop := ∃ captured, passage start stop captured

theorem takes_next (first second : Passage) (start stop : Nat) :
    (first.next second).Takes start stop ↔
      ∃ middle, first.Takes start middle ∧ second.Takes middle stop := by
  constructor
  · rintro ⟨_, middle, before, after, way, other, _⟩
    exact ⟨middle, ⟨before, way⟩, ⟨after, other⟩⟩
  · rintro ⟨middle, ⟨before, way⟩, ⟨after, other⟩⟩
    exact ⟨_, middle, before, after, way, other, rfl⟩

theorem takes_stay (start stop : Nat) : stay.Takes start stop ↔ start = stop := by
  constructor
  · rintro ⟨_, equal, _⟩
    exact equal
  · intro equal
    exact ⟨[], equal, rfl⟩

end Passage

/-! ## Expressions -/

namespace Expression

def Way (text : Array Char) : Expression → Passage
  | .empty => .stay
  | .step set => fun start stop captured =>
      text[start]?.any set.contains = true ∧ stop = start + 1 ∧ captured = []
  | .test condition => fun start stop captured =>
      condition.holdsAt text start = true ∧ start = stop ∧ captured = []
  | .capture index body => fun start stop captured =>
      ∃ inner, body.Way text start stop inner ∧ captured = ⟨index, start, stop⟩ :: inner
  | .follow first second => (first.Way text).next (second.Way text)
  | .orElse first second => fun start stop captured =>
      first.Way text start stop captured ∨ second.Way text start stop captured
  | .repetition least most _ body => fun start stop captured =>
      ∃ count, least ≤ count ∧ (∀ bound ∈ most, count ≤ max least bound) ∧
        (body.Way text).rounds count start stop captured

variable (text : Array Char)

theorem way_step (set : CharacterSet) (start stop : Nat) (captured : List Captured) :
    (step set).Way text start stop captured =
      (text[start]?.any set.contains = true ∧ stop = start + 1 ∧ captured = []) := rfl

theorem way_follow (first second : Expression) :
    (follow first second).Way text = (first.Way text).next (second.Way text) := rfl

theorem way_orElse (first second : Expression) (start stop : Nat) (captured : List Captured) :
    (orElse first second).Way text start stop captured =
      (first.Way text start stop captured ∨ second.Way text start stop captured) := rfl

theorem way_append (first second : Expression) :
    (first.append second).Way text = (first.Way text).next (second.Way text) := by
  fun_induction append first second with
  | case1 second => exact (Passage.stay_next _).symm
  | case2 first rest second induction => rw [way_follow, way_follow, induction, Passage.next_assoc]
  | case3 => exact (Passage.next_stay _).symm
  | case4 => rfl

theorem way_parts (expression : Expression) :
    Passage.row (expression.parts.map (Way text)) = expression.Way text := by
  induction expression with
  | follow first second left right =>
      rw [parts, List.map_append, Passage.row_append, left, right, way_follow]
  | empty => rfl
  | step | test | capture | orElse | repetition => exact Passage.row_singleton _

theorem way_ofParts (parts : List Expression) :
    (ofParts parts).Way text = Passage.row (parts.map (Way text)) := by
  induction parts with
  | nil => rfl
  | cons head tail induction =>
      change (head.append (ofParts tail)).Way text = _
      rw [way_append, induction]
      rfl

theorem way_branches (expression : Expression) :
    Passage.either (expression.branches.map (Way text)) = expression.Way text := by
  induction expression with
  | orElse first second left right =>
      funext start stop captured
      rw [branches, List.map_append, way_orElse, ← left, ← right]
      simp only [Passage.either, List.mem_append, or_and_right, exists_or]
  | empty | step | test | capture | follow | repetition => exact Passage.either_singleton _

theorem way_ofBranches (branches : List Expression) (nonempty : branches ≠ []) :
    (ofBranches branches).Way text = Passage.either (branches.map (Way text)) := by
  induction branches with
  | nil => exact absurd rfl nonempty
  | cons first rest induction =>
      cases rest with
      | nil => exact (Passage.either_singleton _).symm
      | cons second others =>
          have inner := induction (List.cons_ne_nil second others)
          change (Expression.orElse first (ofBranches (second :: others))).Way text = _
          funext start stop captured
          rw [way_orElse, inner]
          simp only [Passage.either, List.map_cons, List.mem_cons, exists_eq_or_imp]

/-! ## Choices -/

theorem way_ofSet (set : CharacterSet) : (ofSet set).Way text = (Expression.step set).Way text := by
  funext start stop captured
  have same : text[start]?.any set.normal.contains = text[start]?.any set.contains :=
    congrArg text[start]?.any (funext fun character => CharacterSet.contains_normal set character)
  rw [ofSet, way_step, way_step, same]

theorem contains_unions (sets : List CharacterSet) (character : Char) :
    (CharacterSet.unions sets).contains character = sets.any (·.contains character) :=
  CharacterSet.containsCode_unions sets character.toNat

theorem set?_of_isCharacter_or_isSet {expression : Expression}
    (single : expression.isCharacter || expression.isSet) :
    ∃ set, expression = .step set := by
  cases expression with
  | step set => exact ⟨set, rfl⟩
  | empty | test | capture | follow | orElse | repetition =>
      simp [isCharacter, isSet, set?] at single

theorem way_merged? {choice : List Expression} {single : Expression}
    (merged : merged? choice = some single) :
    single.Way text = Passage.either (choice.map (Way text)) := by
  unfold merged? at merged
  split at merged
  · next alike =>
      have steps : ∀ expression ∈ choice, ∃ set, expression = .step set := by
        intro expression member
        apply set?_of_isCharacter_or_isSet
        rw [Bool.or_eq_true, List.all_eq_true, List.all_eq_true] at alike
        rw [Bool.or_eq_true]
        exact alike.imp (· expression member) (· expression member)
      rw [← Option.some.inj merged, way_ofSet]
      funext start stop captured
      apply propext
      simp only [way_step, Passage.either]
      constructor
      · rintro ⟨inside, stop_eq, captured_eq⟩
        cases character : text[start]? with
        | none =>
            rw [character] at inside
            cases inside
        | some found =>
            rw [character, Option.any_some, contains_unions, List.any_eq_true] at inside
            rcases inside with ⟨set, member, contained⟩
            rcases List.mem_filterMap.mp member with ⟨expression, inChoice, hasSet⟩
            rcases steps expression inChoice with ⟨own, rfl⟩
            rw [set?, Option.some.injEq] at hasSet
            refine ⟨_, List.mem_map_of_mem inChoice, ?_, stop_eq, captured_eq⟩
            rw [character, hasSet]
            exact contained
      · rintro ⟨_, member, way⟩
        rcases List.mem_map.mp member with ⟨expression, inChoice, rfl⟩
        rcases steps expression inChoice with ⟨own, rfl⟩
        rcases way with ⟨contained, stop_eq, captured_eq⟩
        refine ⟨?_, stop_eq, captured_eq⟩
        cases character : text[start]? with
        | none =>
            rw [character] at contained
            cases contained
        | some found =>
            rw [character] at contained
            rw [Option.any_some, contains_unions, List.any_eq_true]
            exact ⟨own, List.mem_filterMap.mpr ⟨_, inChoice, rfl⟩, contained⟩
  · cases merged

theorem way_choose (choice : List Expression) (nonempty : choice ≠ []) :
    (choose choice).Way text = Passage.either (choice.map (Way text)) := by
  unfold choose
  cases merged : merged? choice with
  | none => exact way_ofBranches text choice nonempty
  | some single => exact way_merged? text merged

/-- Taking out what all alternatives begin with changes no way. -/
theorem way_alternation (choice : Expression) : choice.alternation.Way text = choice.Way text := by
  rcases alternation_cases choice with merged | same | ⟨shared, rests, split, equal⟩
  · rw [way_merged? text merged, way_branches]
  · rw [same, way_ofBranches text _ (branches_ne_nil choice), way_branches]
  · have someRest : rests ≠ [] := by
      intro none
      rw [none, List.map_nil, List.map_eq_nil_iff] at split
      exact branches_ne_nil choice split
    have someBranch : (rests.flatMap fun rest => (ofParts rest).branches) ≠ [] := by
      rcases List.exists_cons_of_ne_nil someRest with ⟨rest, others, rfl⟩
      rw [List.flatMap_cons]
      exact List.append_ne_nil_of_left_ne_nil (branches_ne_nil _) _
    have wholes : choice.branches.map (Way text) =
        rests.map fun rest => (Passage.row (shared.map (Way text))).next
          (Passage.row (rest.map (Way text))) := by
      have each := congrArg (List.map fun parts => Passage.row (parts.map (Way text))) split
      rw [List.map_map, List.map_map] at each
      refine Eq.trans (List.map_congr_left fun branch _ => (way_parts text branch).symm) ?_
      refine each.trans (List.map_congr_left fun rest _ => ?_)
      rw [Function.comp_apply, List.map_append, Passage.row_append]
    rw [equal, way_append, way_ofParts, way_choose text _ someBranch, List.map_flatMap,
      Passage.either_flatMap, Passage.next_either, List.map_map, ← way_branches text choice,
      wholes]
    refine congrArg Passage.either (List.map_congr_left fun rest _ => ?_)
    rw [Function.comp_apply, way_branches, way_ofParts]

/-! ## Repetitions -/

theorem rounds_of_stays {body : Passage} (stays : ∀ {start stop captured},
    body start stop captured → start = stop) {count start stop : Nat} {captured : List Captured}
    (way : body.rounds count start stop captured) : start = stop := by
  induction count generalizing start stop captured with
  | zero => exact way.1
  | succ count induction =>
      rcases way with ⟨middle, before, after, first, rest, _⟩
      exact (stays first).trans (induction rest)

theorem way_takesNothing {expression : Expression} (nothing : expression.takesNothing)
    {start stop : Nat} {captured : List Captured}
    (way : expression.Way text start stop captured) : start = stop := by
  induction expression generalizing start stop captured with
  | empty => exact way.1
  | step set => cases nothing
  | test condition => exact way.2.1
  | capture index body induction =>
      rcases way with ⟨inner, through, _⟩
      exact induction nothing through
  | follow first second left right =>
      rw [takesNothing, Bool.and_eq_true] at nothing
      rcases way with ⟨middle, _, _, before, after, _⟩
      exact (left nothing.1 before).trans (right nothing.2 after)
  | orElse first second left right =>
      rw [takesNothing, Bool.and_eq_true] at nothing
      rcases way with before | after
      · exact left nothing.1 before
      · exact right nothing.2 after
  | repetition least most greedy body induction =>
      rw [takesNothing, Bool.and_eq_true] at nothing
      rcases way with ⟨count, _, _, through⟩
      exact rounds_of_stays (induction nothing.2) through

theorem way_repeated {least : Nat} {most : Option Nat} (greedy : Bool) {body : Expression}
    (kept : body.takesNothing = false ∨ least = 0 ∧ most = some 1) :
    (repeated least most greedy body).Way text =
      (Expression.repetition least most greedy body).Way text := by
  have bounds : (if body.takesNothing then (min least 1, some (min (most.getD 1) 1))
      else (least, most)) = (least, most) := by
    rcases kept with something | ⟨rfl, rfl⟩
    · rw [something]
      rfl
    · simp
  simp only [repeated, bounds]
  split
  · funext start stop captured
    apply propext
    constructor
    · intro way
      exact ⟨0, Nat.le_refl 0, fun _ _ => Nat.zero_le _, way⟩
    · rintro ⟨count, _, bounded, way⟩
      have none : count = 0 := by simpa using bounded 0 rfl
      rw [none] at way
      exact way
  · funext start stop captured
    apply propext
    constructor
    · intro way
      refine ⟨1, Nat.le_refl 1, fun bound _ => Nat.le_max_left _ _, ?_⟩
      rw [Passage.rounds_one]
      exact way
    · rintro ⟨count, enough, bounded, way⟩
      have one : count = 1 := by
        have := bounded 1 rfl
        omega
      rw [one, Passage.rounds_one] at way
      exact way
  · rfl

theorem takes_rounds_nothing {body : Expression} (nothing : body.takesNothing)
    (count start stop : Nat) :
    ((body.Way text).rounds count).Takes start stop ↔
      start = stop ∧ (count = 0 ∨ (body.Way text).Takes start start) := by
  induction count with
  | zero => simp [Passage.rounds, Passage.takes_stay]
  | succ count induction =>
      rw [Passage.rounds, Passage.takes_next]
      constructor
      · rintro ⟨middle, ⟨before, way⟩, rest⟩
        have same := way_takesNothing text nothing way
        subst same
        exact ⟨(induction.mp rest).1, .inr ⟨before, way⟩⟩
      · rintro ⟨rfl, none | some⟩
        · cases none
        · exact ⟨start, some, induction.mpr ⟨rfl, .inr some⟩⟩

theorem takes_repetition (least : Nat) (most : Option Nat) (greedy : Bool) (body : Expression)
    (start stop : Nat) :
    ((Expression.repetition least most greedy body).Way text).Takes start stop ↔
      ∃ count, least ≤ count ∧ (∀ bound ∈ most, count ≤ max least bound) ∧
        ((body.Way text).rounds count).Takes start stop := by
  constructor
  · rintro ⟨captured, count, enough, bounded, way⟩
    exact ⟨count, enough, bounded, captured, way⟩
  · rintro ⟨count, enough, bounded, captured, way⟩
    exact ⟨captured, count, enough, bounded, way⟩

theorem takes_repetition_nothing (least : Nat) (most : Option Nat) (greedy : Bool)
    {body : Expression} (nothing : body.takesNothing) (start stop : Nat) :
    ((Expression.repetition least most greedy body).Way text).Takes start stop ↔
      start = stop ∧ (least = 0 ∨ (body.Way text).Takes start start) := by
  rw [takes_repetition]
  constructor
  · rintro ⟨count, enough, _, way⟩
    have through := (takes_rounds_nothing text nothing count start stop).mp way
    refine ⟨through.1, through.2.imp_left fun none => ?_⟩
    exact Nat.le_zero.mp (none ▸ enough)
  · rintro ⟨same, through⟩
    exact ⟨least, Nat.le_refl _, fun bound _ => Nat.le_max_left _ _,
      (takes_rounds_nothing text nothing least start stop).mpr ⟨same, through⟩⟩

theorem takes_repeated (least : Nat) (most : Option Nat) (greedy : Bool) (body : Expression)
    (start stop : Nat) :
    ((repeated least most greedy body).Way text).Takes start stop ↔
      ((Expression.repetition least most greedy body).Way text).Takes start stop := by
  cases nothing : body.takesNothing with
  | false => rw [way_repeated text greedy (.inl nothing)]
  | true =>
      have zero : min least 1 = 0 ↔ least = 0 := by omega
      rw [takes_repetition_nothing text least most greedy nothing, ← zero]
      simp only [repeated, nothing, if_true]
      split
      · next none _ => simp [Way, Passage.takes_stay, none]
      · next once _ =>
          rw [once]
          constructor
          · rintro ⟨captured, way⟩
            have same := way_takesNothing text nothing way
            subst same
            exact ⟨rfl, .inr ⟨captured, way⟩⟩
          · rintro ⟨rfl, none | some⟩
            · cases none
            · exact some
      · exact takes_repetition_nothing text _ _ greedy nothing start stop

end Expression

end UriDispatch.Regex
