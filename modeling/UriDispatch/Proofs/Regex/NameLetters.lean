import UriDispatch.Proofs.Regex.Continuations

/-! The names of properties that are asked for in a tree. Whatever has been read stays part of the
tree, so that a name that spoils the tree can be told as soon as it is read. -/

namespace UriDispatch.Regex

def ClassSet.letters : ClassSet → List Char
  | .property _ query _ => query.letters
  | .bracketed _ _ body | .union _ body => body.letters
  | .join first rest | .combine _ _ first rest => first.letters ++ rest.letters
  | _ => []

def Tree.letters : Tree → List Char
  | .property _ query _ => query.letters
  | .bracketed _ _ body => body.letters
  | .repetition _ _ _ _ body | .capture _ _ body | .group _ _ body | .sequence _ body
  | .alternation _ body => body.letters
  | .follow first rest | .orElse first rest => first.letters ++ rest.letters
  | _ => []

/-! ## Names in open classes -/

theorem ClassSet.mem_letters_ofItems {span : Span} {items : List ClassSet} {letter : Char} :
    letter ∈ (ClassSet.ofItems span items).letters ↔ ∃ item ∈ items, letter ∈ item.letters := by
  have collected : (ClassSet.ofItems span items).letters = items.reverse.flatMap letters := by
    match items with
    | [] => rfl
    | [item] => exact (List.flatMap_singleton letters item).symm
    | last :: second :: earlier => exact collect_foldl (fun _ _ => rfl) (second :: earlier) last
  rw [collected, List.mem_flatMap]
  simp only [List.mem_reverse]

namespace OpenClass

theorem mem_letters_body {class' : OpenClass} {letter : Char} :
    letter ∈ class'.body.letters ↔
      (∃ waiting ∈ class'.pending, letter ∈ waiting.2.letters) ∨
        ∃ item ∈ class'.items.reversed, letter ∈ item.letters := by
  unfold body
  cases waiting : class'.pending with
  | none => simp [ClassSet.mem_letters_ofItems]
  | some pair => simp [ClassSet.letters, ClassSet.mem_letters_ofItems]

theorem letters_push {class' : OpenClass} (item : ClassSet) {letter : Char}
    (member : letter ∈ class'.body.letters ∨ letter ∈ item.letters) :
    letter ∈ (class'.push item).body.letters := by
  rw [mem_letters_body] at member ⊢
  rcases member with (waiting | ⟨earlier, inItems, inEarlier⟩) | inItem
  · exact .inl waiting
  · exact .inr ⟨earlier, List.mem_cons_of_mem _ inItems, inEarlier⟩
  · exact .inr ⟨item, List.mem_cons_self, inItem⟩

theorem letters_applyOperator {class' : OpenClass} (operator : SetOperator) (rest : List Char)
    {letter : Char} (member : letter ∈ class'.body.letters) :
    letter ∈ (class'.applyOperator operator rest).body.letters :=
  mem_letters_body.mpr (.inl ⟨_, rfl, member⟩)

end OpenClass

theorem ClassBody.letters {verbose : Bool} {current : OpenClass} {outer : List OpenClass}
    {input rest : List Char} {closed : ClosedClass}
    (body : ClassBody verbose current outer input closed rest) {letter : Char}
    {around : OpenClass} (open' : around ∈ current :: outer)
    (member : letter ∈ around.body.letters) : letter ∈ closed.body.letters := by
  induction body generalizing around with
  | closing =>
      rw [List.mem_singleton.mp open'] at member
      exact member
  | inner _ _ induction =>
      rcases List.mem_cons.mp open' with rfl | inOuter
      · exact induction List.mem_cons_self (OpenClass.letters_push _ (.inr member))
      · rcases List.mem_cons.mp inOuter with rfl | inOthers
        · exact induction List.mem_cons_self (OpenClass.letters_push _ (.inl member))
        · exact induction (List.mem_cons_of_mem _ inOthers) member
  | nested _ _ _ _ induction => exact induction (List.mem_cons_of_mem _ open') member
  | operator _ _ _ induction =>
      rcases List.mem_cons.mp open' with rfl | inOuter
      · exact induction List.mem_cons_self (OpenClass.letters_applyOperator _ _ member)
      · exact induction (List.mem_cons_of_mem _ inOuter) member
  | named _ _ _ induction | item _ _ _ _ _ induction =>
      rcases List.mem_cons.mp open' with rfl | inOuter
      · exact induction List.mem_cons_self (OpenClass.letters_push _ (.inl member))
      · exact induction (List.mem_cons_of_mem _ inOuter) member

/-! ## Names in open groups -/

theorem Tree.mem_letters_ofSequence {span : Span} {items : List Tree} {letter : Char} :
    letter ∈ (Tree.ofSequence span items).letters ↔ ∃ item ∈ items, letter ∈ item.letters := by
  have collected : (Tree.ofSequence span items).letters = items.reverse.flatMap letters := by
    match items with
    | [] => rfl
    | [item] => exact (List.flatMap_singleton letters item).symm
    | last :: second :: earlier => exact collect_foldl (fun _ _ => rfl) (second :: earlier) last
  rw [collected, List.mem_flatMap]
  simp only [List.mem_reverse]

theorem Tree.mem_letters_ofAlternatives {span : Span} {last : Tree} {earlier : List Tree}
    {letter : Char} : letter ∈ (Tree.ofAlternatives span last earlier).letters ↔
      letter ∈ last.letters ∨ ∃ item ∈ earlier, letter ∈ item.letters := by
  have collected : (Tree.ofAlternatives span last earlier).letters =
      (last :: earlier).reverse.flatMap letters := by
    cases earlier with
    | nil => exact (List.flatMap_singleton letters last).symm
    | cons head tail => exact collect_foldl (fun _ _ => rfl) (head :: tail) last
  rw [collected, List.mem_flatMap]
  simp only [List.mem_reverse, List.exists_mem_cons_iff]

def Level.Mentions (level : Level) (letter : Char) : Prop :=
  (∃ item ∈ level.items, letter ∈ item.letters) ∨
    ∃ item ∈ level.alternatives, letter ∈ item.letters

def ParserState.Mentions (state : ParserState) (letter : Char) : Prop :=
  state.level.Mentions letter ∨ ∃ group ∈ state.groups, group.outer.Mentions letter

namespace Level

variable {level : Level} {letter : Char}

theorem mem_letters_tree {rest : List Char} :
    letter ∈ (level.tree rest).letters ↔ level.Mentions letter := by
  rw [tree, Tree.mem_letters_ofAlternatives, alternative, Tree.mem_letters_ofSequence]
  rfl

theorem Mentions.push (mentions : level.Mentions letter) (item : Tree) :
    (level.push item).Mentions letter :=
  mentions.imp_left fun ⟨earlier, member, inEarlier⟩ =>
    ⟨earlier, List.mem_cons_of_mem _ member, inEarlier⟩

theorem mentions_push {item : Tree} (member : letter ∈ item.letters) :
    (level.push item).Mentions letter :=
  .inl ⟨item, List.mem_cons_self, member⟩

theorem Mentions.nextAlternative (mentions : level.Mentions letter) (bar afterBar : List Char) :
    (level.nextAlternative bar afterBar).Mentions letter := by
  rcases mentions with inItems | ⟨item, member, inItem⟩
  · exact .inr ⟨_, List.mem_cons_self, Tree.mem_letters_ofSequence.mpr inItems⟩
  · exact .inr ⟨item, List.mem_cons_of_mem _ member, inItem⟩

end Level

namespace ParserState.Mentions

variable {state next : ParserState} {letter : Char}

theorem push (mentions : state.Mentions letter) (item : Tree) :
    (state.push item).Mentions letter :=
  mentions.imp_left (·.push item)

theorem openGroup (mentions : state.Mentions letter) (parenthesis : Span) (kind : GroupKind)
    (verbose : Bool) (body : List Char) :
    (state.openGroup parenthesis kind verbose body).Mentions letter := by
  rcases mentions with onLevel | ⟨group, member, inGroup⟩
  · exact .inr ⟨_, List.mem_cons_self, onLevel⟩
  · exact .inr ⟨group, List.mem_cons_of_mem _ member, inGroup⟩

theorem closeGroup (mentions : state.Mentions letter) {input rest : List Char}
    (closed : Regex.closeGroup state input rest = .ok next) : next.Mentions letter := by
  unfold Regex.closeGroup at closed
  split at closed
  · cases closed
  · next group others equal =>
      cases closed
      rcases mentions with onLevel | ⟨around, member, inGroup⟩
      · refine .inl (Level.mentions_push ?_)
        cases group.kind with
        | capture | plain => exact Level.mem_letters_tree.mpr onLevel
      · rw [equal] at member
        rcases List.mem_cons.mp member with rfl | inOthers
        · exact .inl (inGroup.push _)
        · exact .inr ⟨around, inOthers, inGroup⟩

theorem repeatOperand (mentions : state.Mentions letter) {input rest : List Char} {count : Count}
    {greedy : Bool} (repeated : Regex.repeatOperand state input rest count greedy = .ok next) :
    next.Mentions letter := by
  rcases ok_of_map repeated with ⟨⟨operand, left⟩, taken, rfl⟩
  unfold takeOperand at taken
  split at taken
  · cases taken
  · cases taken
  · cases taken
  · next item others _ _ equal =>
      cases taken
      rcases mentions with (⟨earlier, member, inEarlier⟩ | inAlternatives) | inGroups
      · rw [equal] at member
        rcases List.mem_cons.mp member with rfl | inOthers
        · exact .inl (Level.mentions_push inEarlier)
        · exact .inl (Level.Mentions.push (.inl ⟨earlier, inOthers, inEarlier⟩) _)
      · exact .inl (.inr inAlternatives)
      · exact .inr inGroups

theorem of_moves (mentions : state.Mentions letter) {input : List Char}
    (moves : Moves state input next) : next.Mentions letter := by
  cases moves with
  | primitive => exact mentions.push _
  | bracketed => exact mentions.push _
  | bar => exact mentions.imp_left (·.nextAlternative _ _)
  | repeats repeated => exact mentions.repeatOperand repeated
  | opens _ opening =>
      cases opening with
      | named => exact openGroup mentions _ _ state.verbose _
      | flags => exact mentions.push _
      | plain => exact mentions.openGroup _ _ _ _
      | capture => exact openGroup mentions _ _ state.verbose _
  | closes closed => exact mentions.closeGroup closed

end ParserState.Mentions

theorem letters_run {state : ParserState} {input : List Char} {tree : Tree}
    (ran : run state input = .ok tree) {letter : Char} (mentions : state.Mentions letter) :
    letter ∈ tree.letters := by
  fun_induction run state input with
  | case1 state input blank noGroups =>
      cases ran
      rcases mentions with onLevel | ⟨group, member, _⟩
      · exact Level.mem_letters_tree.mpr onLevel
      · rw [noGroups] at member
        cases member
  | case2 => cases ran
  | case3 => cases ran
  | case4 state input head tail start next rest shorter stepped _ induction =>
      exact induction ran (mentions.of_moves (moves_of_step stepped))

end UriDispatch.Regex
