import UriDispatch.Proofs.Pattern.FragmentClasses
import UriDispatch.Proofs.Regex.Portable

/-! The tree of a fragment alone and the tree of the same fragment within the group that it is
written for. The reader goes through both texts in step; what it has read differs by places, and by
plain groups for captures. -/

namespace UriDispatch.Regex

open Fragment (isPlainFrom demoteFrom Passes)

/-! ## Trees and states in step -/

/-- The first tree asks for no condition, and the second one is the same but for places and for plain
groups in place of captures. -/
structure Tree.Mirrors (alone inside : Tree) : Prop where
  unconditional : alone.unconditional
  same : inside.bare = alone.plain

structure Level.Mirrors (alone inside : Level) : Prop where
  items : List.Forall₂ Tree.Mirrors alone.items inside.items
  alternatives : List.Forall₂ Tree.Mirrors alone.alternatives inside.alternatives

structure OpenGroup.Mirrors (alone inside : OpenGroup) : Prop where
  captures : ∃ index, alone.kind = .capture index
  plain : inside.kind = .plain []
  outerVerbose : alone.outerVerbose = false ∧ inside.outerVerbose = false
  outer : alone.outer.Mirrors inside.outer

structure ParserState.Mirrors (base : List OpenGroup) (captures : Nat)
    (alone inside : ParserState) : Prop where
  verbose : alone.verbose = false ∧ inside.verbose = false
  captures : inside.captures = captures
  level : alone.level.Mirrors inside.level
  groups : ∃ opened, inside.groups = opened ++ base ∧
    List.Forall₂ OpenGroup.Mirrors alone.groups opened

theorem Tree.map_bare_of_mirrors {alone inside : List Tree}
    (mirrors : List.Forall₂ Tree.Mirrors alone inside) :
    inside.map Tree.bare = alone.map Tree.plain := by
  induction mirrors with
  | nil => rfl
  | cons head _ induction => rw [List.map_cons, List.map_cons, head.same, induction]

theorem Tree.all_unconditional_of_mirrors {alone inside : List Tree}
    (mirrors : List.Forall₂ Tree.Mirrors alone inside) :
    ∀ tree ∈ alone, tree.unconditional := by
  induction mirrors with
  | nil => exact fun _ => List.not_mem_nil.elim
  | cons head _ induction => exact List.forall_mem_cons.mpr ⟨head.unconditional, induction⟩

theorem Tree.unconditional_ofSequence {span : Span} {items : List Tree}
    (all : ∀ item ∈ items, item.unconditional) :
    (Tree.ofSequence span items).unconditional := by
  match items with
  | [] => rfl
  | [item] => exact all item List.mem_cons_self
  | last :: second :: earlier =>
      rw [List.forall_mem_cons] at all
      exact List.foldlRecOn (motive := (unconditional ·)) _ _ all.1
        fun rest restHolds item member => Bool.and_eq_true_iff.mpr ⟨all.2 item member, restHolds⟩

theorem Tree.unconditional_ofAlternatives {span : Span} {last : Tree} {earlier : List Tree}
    (lastHolds : last.unconditional) (all : ∀ item ∈ earlier, item.unconditional) :
    (Tree.ofAlternatives span last earlier).unconditional := by
  cases earlier with
  | nil => exact lastHolds
  | cons head tail =>
      exact List.foldlRecOn (motive := (unconditional ·)) _ _ lastHolds
        fun rest restHolds item member => Bool.and_eq_true_iff.mpr ⟨all item member, restHolds⟩

namespace Level.Mirrors

variable {alone inside : Level}

theorem push (mirrors : alone.Mirrors inside) {item other : Tree} (same : item.Mirrors other) :
    (alone.push item).Mirrors (inside.push other) :=
  ⟨.cons same mirrors.items, mirrors.alternatives⟩

theorem alternative (mirrors : alone.Mirrors inside) (rest otherRest : List Char) :
    (alone.alternative rest).Mirrors (inside.alternative otherRest) where
  unconditional := Tree.unconditional_ofSequence (Tree.all_unconditional_of_mirrors mirrors.items)
  same := by
    rw [Level.alternative, Level.alternative, Tree.bare, Tree.plain, Tree.strip_ofSequence,
      Tree.strip_ofSequence]
    exact congrArg _ (Tree.map_bare_of_mirrors mirrors.items)

theorem nextAlternative (mirrors : alone.Mirrors inside) (bar afterBar otherBar otherAfter :
    List Char) : (alone.nextAlternative bar afterBar).Mirrors
      (inside.nextAlternative otherBar otherAfter) :=
  ⟨.nil, .cons (mirrors.alternative bar otherBar) mirrors.alternatives⟩

theorem tree (mirrors : alone.Mirrors inside) (rest otherRest : List Char) :
    (alone.tree rest).Mirrors (inside.tree otherRest) where
  unconditional := Tree.unconditional_ofAlternatives (mirrors.alternative rest []).unconditional
    (Tree.all_unconditional_of_mirrors mirrors.alternatives)
  same := by
    have last := (mirrors.alternative rest otherRest).same
    have others := Tree.map_bare_of_mirrors mirrors.alternatives
    rw [Tree.bare, Tree.plain] at last others
    rw [Level.tree, Level.tree, Tree.bare, Tree.plain, Tree.strip_ofAlternatives,
      Tree.strip_ofAlternatives, last, others]

theorem startingAt (rest otherRest : List Char) :
    (Level.startingAt rest).Mirrors (Level.startingAt otherRest) :=
  ⟨.nil, .nil⟩

end Level.Mirrors

def Tree.isOperand : Tree → Bool
  | .empty _ | .setFlags _ _ => false
  | _ => true

theorem Tree.isOperand_strip (keep : Bool) (tree : Tree) :
    (tree.strip keep).isOperand = tree.isOperand := by
  cases tree with
  | capture =>
      rw [strip]
      split <;> rfl
  | _ => rfl

theorem takeOperand_cases {state left : ParserState} {input : List Char} {operand : Tree}
    (taken : takeOperand state input = .ok (operand, left)) :
    ∃ others, state.level.items = operand :: others ∧ operand.isOperand ∧
      left = { state with level := { state.level with items := others } } := by
  unfold takeOperand at taken
  split at taken
  · cases taken
  · cases taken
  · cases taken
  · next item others notEmpty notFlags equal =>
      cases taken
      refine ⟨others, equal, ?_, rfl⟩
      cases operand with
      | empty => exact (notEmpty _ rfl).elim
      | setFlags => exact (notFlags _ _ rfl).elim
      | _ => rfl

theorem takeOperand_of {state : ParserState} {input : List Char} {operand : Tree}
    {others : List Tree} (equal : state.level.items = operand :: others)
    (isOperand : operand.isOperand) : takeOperand state input =
      .ok (operand, { state with level := { state.level with items := others } }) := by
  unfold takeOperand
  rw [equal]
  cases operand with
  | empty | setFlags => cases isOperand
  | _ => rfl

namespace ParserState.Mirrors

variable {base : List OpenGroup} {captures : Nat} {alone inside next : ParserState}

theorem push (mirrors : Mirrors base captures alone inside) {item other : Tree}
    (same : item.Mirrors other) : Mirrors base captures (alone.push item) (inside.push other) :=
  { mirrors with level := mirrors.level.push same }

theorem nextAlternative (mirrors : Mirrors base captures alone inside)
    (bar afterBar otherBar otherAfter : List Char) :
    Mirrors base captures { alone with level := alone.level.nextAlternative bar afterBar }
      { inside with level := inside.level.nextAlternative otherBar otherAfter } :=
  { mirrors with level := mirrors.level.nextAlternative bar afterBar otherBar otherAfter }

theorem openGroup (mirrors : Mirrors base captures alone inside) (count index : Nat)
    (parenthesis otherParenthesis : Span) (body otherBody : List Char) :
    Mirrors base captures
      ({ alone with captures := count }.openGroup parenthesis (.capture index) alone.verbose body)
      (inside.openGroup otherParenthesis (.plain []) inside.verbose otherBody) where
  verbose := mirrors.verbose
  captures := mirrors.captures
  level := .startingAt body otherBody
  groups := by
    rcases mirrors.groups with ⟨opened, equal, alike⟩
    refine ⟨_ :: opened, congrArg (_ :: ·) equal, .cons ?_ alike⟩
    exact ⟨⟨index, rfl⟩, rfl, mirrors.verbose, mirrors.level⟩

theorem closeGroup (mirrors : Mirrors base captures alone inside) {input rest : List Char}
    (closed : Regex.closeGroup alone input rest = .ok next) (otherInput otherRest : List Char) :
    ∃ other, Regex.closeGroup inside otherInput otherRest = .ok other ∧
      Mirrors base captures next other ∧ alone.groups.length = next.groups.length + 1 := by
  rcases mirrors.groups with ⟨opened, insideGroups, alike⟩
  unfold Regex.closeGroup at closed ⊢
  split at closed
  · cases closed
  · next group others equal =>
      cases closed
      rw [equal] at alike
      cases alike with
      | @cons _ inner _ opened groupAlike othersAlike =>
          rw [insideGroups]
          refine ⟨_, rfl, ?_, congrArg List.length equal⟩
          have body := mirrors.level.tree input otherInput
          rcases groupAlike.captures with ⟨index, captureKind⟩
          refine ⟨groupAlike.outerVerbose, mirrors.captures, ?_, opened, rfl, othersAlike⟩
          refine groupAlike.outer.push ⟨?_, ?_⟩
          · rw [captureKind]
            exact body.unconditional
          · rw [captureKind, groupAlike.plain]
            exact congrArg (Tree.group .nowhere []) body.same

theorem repeatOperand (mirrors : Mirrors base captures alone inside) {input rest : List Char}
    {count : Count} {greedy : Bool}
    (repeated : Regex.repeatOperand alone input rest count greedy = .ok next)
    (otherInput otherRest : List Char) :
    ∃ other, Regex.repeatOperand inside otherInput otherRest count greedy = .ok other ∧
      Mirrors base captures next other ∧ next.groups = alone.groups := by
  rcases ok_of_map repeated with ⟨⟨operand, left⟩, taken, rfl⟩
  rcases takeOperand_cases taken with ⟨others, equal, isOperand, rfl⟩
  have items := mirrors.level.items
  rw [equal] at items
  cases itemsInside : inside.level.items with
  | nil =>
      rw [itemsInside] at items
      cases items
  | cons other otherItems =>
      rw [itemsInside] at items
      cases items with
      | cons head tail =>
          have operandInside : other.isOperand := by
            rw [← Tree.isOperand_strip true, ← Tree.bare, head.same, Tree.plain,
              Tree.isOperand_strip]
            exact isOperand
          rw [Regex.repeatOperand, takeOperand_of itemsInside operandInside]
          refine ⟨_, rfl, ?_, rfl⟩
          refine { mirrors with level := ⟨.cons ⟨head.unconditional, ?_⟩ tail,
            mirrors.level.alternatives⟩ }
          exact congrArg (Tree.repetition .nowhere count.least count.most greedy) head.same

end ParserState.Mirrors

end UriDispatch.Regex
