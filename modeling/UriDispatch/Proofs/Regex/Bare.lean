import UriDispatch.Proofs.Regex.CaptureCount
import UriDispatch.Proofs.Regex.Ways

/-! Trees without the places they were read from. A meaning does not depend on the places, and where
a part only has to match, its captures can be replaced by plain groups. -/

namespace UriDispatch.Regex

/-! ## Trees without places -/

def Span.nowhere : Span := ⟨0, 0⟩

def Literal.bare (literal : Literal) : Literal := { literal with span := .nowhere }

def Primitive.bare : Primitive → Primitive
  | .literal single => .literal single.bare
  | .dot _ => .dot .nowhere
  | .assertion _ kind => .assertion .nowhere kind
  | .escape _ name negated => .escape .nowhere name negated
  | .property _ query negated => .property .nowhere query negated

def ClassSet.bare : ClassSet → ClassSet
  | .empty _ => .empty .nowhere
  | .literal single => .literal single.bare
  | .range first last => .range first.bare last.bare
  | .named _ name negated => .named .nowhere name negated
  | .escape _ name negated => .escape .nowhere name negated
  | .property _ query negated => .property .nowhere query negated
  | .bracketed _ negated body => .bracketed .nowhere negated body.bare
  | .join first rest => .join first.bare rest.bare
  | .union _ items => .union .nowhere items.bare
  | .combine _ operator left right => .combine .nowhere operator left.bare right.bare

/-- The tree without places, and without its captures unless they are kept. -/
def Tree.strip (keep : Bool) : Tree → Tree
  | .empty _ => .empty .nowhere
  | .setFlags _ changes => .setFlags .nowhere changes
  | .literal single => .literal single.bare
  | .dot _ => .dot .nowhere
  | .assertion _ kind => .assertion .nowhere kind
  | .escape _ name negated => .escape .nowhere name negated
  | .property _ query negated => .property .nowhere query negated
  | .bracketed _ negated body => .bracketed .nowhere negated body.bare
  | .repetition _ least most greedy body => .repetition .nowhere least most greedy (body.strip keep)
  | .capture _ index body =>
      if keep then .capture .nowhere index (body.strip keep)
      else .group .nowhere [] (body.strip keep)
  | .group _ changes body => .group .nowhere changes (body.strip keep)
  | .follow first rest => .follow (first.strip keep) (rest.strip keep)
  | .sequence _ items => .sequence .nowhere (items.strip keep)
  | .orElse first rest => .orElse (first.strip keep) (rest.strip keep)
  | .alternation _ branches => .alternation .nowhere (branches.strip keep)

def Tree.bare : Tree → Tree := Tree.strip true

def Tree.plain : Tree → Tree := Tree.strip false

theorem ClassSet.bare_bare (set : ClassSet) : set.bare.bare = set.bare := by
  induction set with
  | join first rest left right => rw [bare, bare, left, right]
  | combine span operator first second left right => rw [bare, bare, left, right]
  | bracketed span negated body induction => rw [bare, bare, induction]
  | union span items induction => rw [bare, bare, induction]
  | empty | literal | range | named | escape | property => rfl

theorem Tree.bare_strip (keep : Bool) (tree : Tree) : (tree.strip keep).bare = tree.strip keep := by
  rw [bare]
  induction tree with
  | follow first rest left right => rw [strip, strip, left, right]
  | orElse first rest left right => rw [strip, strip, left, right]
  | repetition span least most greedy body induction => rw [strip, strip, induction]
  | group span changes body induction => rw [strip, strip, induction]
  | sequence span items induction => rw [strip, strip, induction]
  | alternation span branches induction => rw [strip, strip, induction]
  | capture span index body induction =>
      cases keep with
      | true => rw [strip, if_pos rfl, strip, if_pos rfl, induction]
      | false => rw [strip, if_neg Bool.false_ne_true, strip, induction]
  | bracketed span negated body => rw [strip, strip, ClassSet.bare_bare]
  | empty | setFlags | literal | dot | assertion | escape | property => rfl

theorem ClassSet.bare_ofItems (span : Span) (items : List ClassSet) :
    (ClassSet.ofItems span items).bare = ClassSet.ofItems .nowhere (items.map bare) := by
  match items with
  | [] => rfl
  | [item] => rfl
  | last :: second :: earlier =>
      simp only [ofItems, List.map_cons, List.foldl_cons, List.foldl_map]
      exact congrArg (ClassSet.union .nowhere)
        (List.foldl_hom (f := bare) (fun _ _ => rfl)).symm

theorem Tree.strip_ofSequence (keep : Bool) (span : Span) (items : List Tree) :
    (Tree.ofSequence span items).strip keep =
      Tree.ofSequence .nowhere (items.map (strip keep)) := by
  match items with
  | [] => rfl
  | [item] => rfl
  | last :: second :: earlier =>
      simp only [ofSequence, List.map_cons, List.foldl_cons, List.foldl_map]
      exact congrArg (Tree.sequence .nowhere)
        (List.foldl_hom (f := strip keep) (fun _ _ => rfl)).symm

theorem Tree.strip_ofAlternatives (keep : Bool) (span : Span) (last : Tree)
    (earlier : List Tree) : (Tree.ofAlternatives span last earlier).strip keep =
      Tree.ofAlternatives .nowhere (last.strip keep) (earlier.map (strip keep)) := by
  cases earlier with
  | nil => rfl
  | cons head tail =>
      simp only [ofAlternatives, List.map_cons, List.foldl_cons, List.foldl_map]
      exact congrArg (Tree.alternation .nowhere)
        (List.foldl_hom (f := strip keep) (fun _ _ => rfl)).symm

/-! ## Nesting -/

theorem isSome_orElse {first second : Option Span} :
    (first <|> second).isSome = (first.isSome || second.isSome) := by
  cases first <;> rfl

theorem ClassSet.isSome_tooDeep?_bare (set : ClassSet) (depth : Nat) :
    (set.bare.tooDeep? depth).isSome = (set.tooDeep? depth).isSome := by
  induction set generalizing depth with
  | bracketed span negated body induction =>
      rw [bare, tooDeep?, tooDeep?]
      split
      · exact induction (depth + 1)
      · rfl
  | union span items induction =>
      rw [bare, tooDeep?, tooDeep?]
      split
      · exact induction (depth + 1)
      · rfl
  | combine span operator first second left right =>
      rw [bare, tooDeep?, tooDeep?]
      split
      · rw [isSome_orElse, isSome_orElse, left, right]
      · rfl
  | join first rest left right =>
      rw [bare, tooDeep?, tooDeep?, isSome_orElse, isSome_orElse, left, right]
  | empty | literal | range | named | escape | property => rfl

theorem Tree.isSome_tooDeep?_strip (keep : Bool) (tree : Tree) (depth : Nat) :
    ((tree.strip keep).tooDeep? depth).isSome = (tree.tooDeep? depth).isSome := by
  induction tree generalizing depth with
  | bracketed span negated body =>
      rw [strip, tooDeep?, tooDeep?]
      split
      · exact body.isSome_tooDeep?_bare (depth + 1)
      · rfl
  | repetition span least most greedy body induction | group span changes body induction
  | sequence span body induction | alternation span body induction =>
      rw [strip, tooDeep?, tooDeep?]
      split
      · exact induction (depth + 1)
      · rfl
  | capture span index body induction =>
      have either : ((Tree.capture span index body).strip keep).tooDeep? depth =
          (Tree.group .nowhere [] (body.strip keep)).tooDeep? depth := by
        cases keep <;> rfl
      rw [either, tooDeep?, tooDeep?]
      split
      · exact induction (depth + 1)
      · rfl
  | follow first rest left right | orElse first rest left right =>
      rw [strip, tooDeep?, tooDeep?, isSome_orElse, isSome_orElse, left, right]
  | empty | setFlags | literal | dot | assertion | escape | property => rfl

/-! ## Meanings -/

inductive Parallel {Value Other : Type} (related : Value → Other → Prop) :
    Except Fault Value → Except Fault Other → Prop where
  | ok {value : Value} {other : Other} (same : related value other) :
      Parallel related (.ok value) (.ok other)
  | error (fault otherFault : Fault) : Parallel related (.error fault) (.error otherFault)

namespace Parallel

variable {Value Other Result OtherResult : Type} {related : Value → Other → Prop}
  {relatedResults : Result → OtherResult → Prop} {left : Except Fault Value}
  {right : Except Fault Other}

theorem bind (first : Parallel related left right) {next : Value → Except Fault Result}
    {otherNext : Other → Except Fault OtherResult}
    (rest : ∀ value other, related value other →
      Parallel relatedResults (next value) (otherNext other)) :
    Parallel relatedResults (left >>= next) (right >>= otherNext) := by
  cases first with
  | ok same => exact rest _ _ same
  | error => exact .error _ _

theorem map {left right : Except Fault Value} (same : Parallel Eq left right)
    (transform : Value → Result) : Parallel Eq (left.map transform) (right.map transform) := by
  cases same with
  | ok equal => exact .ok (congrArg transform equal)
  | error => exact .error _ _

theorem of_ok {value : Value} (parallel : Parallel related (.ok value) right) :
    ∃ other, right = .ok other ∧ related value other := by
  cases parallel with
  | ok same => exact ⟨_, rfl, same⟩

theorem of_ok_right {other : Other} (parallel : Parallel related left (.ok other)) :
    ∃ value, left = .ok value ∧ related value other := by
  cases parallel with
  | ok same => exact ⟨_, rfl, same⟩

end Parallel

theorem parallel_checkedSet (flags : Flags) (span : Span) (negated : Bool) (set : CharacterSet) :
    Parallel Eq (checkedSet flags span negated set) (checkedSet flags .nowhere negated set) := by
  unfold checkedSet
  generalize (if negated then set.complement else set) = whole
  simp only
  split
  · exact .ok rfl
  · exact .error _ _

theorem parallel_propertySet (flags : Flags) (span : Span) (query : PropertyQuery)
    (negated : Bool) : Parallel Eq (propertySet flags span query negated)
      (propertySet flags .nowhere query negated) := by
  unfold propertySet
  split
  · split
    · exact parallel_checkedSet _ _ _ _
    · exact .error _ _
    · exact .error _ _
  · exact .error _ _

theorem parallel_checkByte (flags : Flags) (literal : Literal) :
    Parallel Eq (checkByte flags literal) (checkByte flags literal.bare) := by
  by_cases excluded : ¬flags.unicode ∧ literal.isByte ∧ 0x7F < literal.character.toNat
  · rw [checkByte, checkByte, if_pos excluded, if_pos (by exact excluded)]
    exact .error _ _
  · rw [checkByte, checkByte, if_neg excluded, if_neg (by exact excluded)]
    exact .ok rfl

theorem parallel_checkMember (flags : Flags) (literal : Literal) :
    Parallel Eq (checkMember flags literal) (checkMember flags literal.bare) := by
  have byte := parallel_checkByte flags literal
  unfold checkMember
  generalize checkByte flags literal = first at byte ⊢
  generalize checkByte flags literal.bare = second at byte ⊢
  cases byte with
  | error => exact .error _ _
  | ok =>
      simp only
      by_cases allowed : flags.unicode ∨ literal.character.toNat ≤ 0x7F
      · rw [if_pos allowed, if_pos (by exact allowed)]
        exact .ok rfl
      · rw [if_neg allowed, if_neg (by exact allowed)]
        exact .error _ _

theorem ClassSet.parallel_bare (set : ClassSet) (flags : Flags) :
    Parallel Eq (set.meaning flags) (set.bare.meaning flags) := by
  induction set with
  | empty span => exact .ok rfl
  | literal single => exact (parallel_checkMember flags single).map _
  | range first last =>
      refine (parallel_checkMember flags first).bind fun _ _ _ => ?_
      exact (parallel_checkMember flags last).bind fun _ _ _ => .ok rfl
  | named span name negated => exact parallel_checkedSet _ _ _ _
  | escape span name negated => exact parallel_checkedSet _ _ _ _
  | property span query negated => exact parallel_propertySet _ _ _ _
  | bracketed span negated body induction =>
      refine induction.bind ?_
      rintro inner _ rfl
      exact parallel_checkedSet _ _ _ _
  | join first rest left right =>
      refine left.bind ?_
      rintro head _ rfl
      refine right.bind ?_
      rintro tail _ rfl
      exact .ok rfl
  | union span items induction => exact induction
  | combine span operator first second left right =>
      refine left.bind ?_
      rintro head _ rfl
      refine right.bind ?_
      rintro tail _ rfl
      exact .ok rfl

theorem parallel_literal (flags : Flags) (literal : Literal) :
    Parallel Eq (literalMeaning flags literal) (literalMeaning flags literal.bare) := by
  have byte := parallel_checkByte flags literal
  unfold literalMeaning
  generalize checkByte flags literal = first at byte ⊢
  generalize checkByte flags literal.bare = second at byte ⊢
  cases byte with
  | ok => exact .ok rfl
  | error => exact .error _ _

theorem parallel_dot (flags : Flags) (span : Span) :
    Parallel Eq (dotMeaning flags span) (dotMeaning flags .nowhere) := by
  unfold dotMeaning
  split
  · exact .ok rfl
  · exact .error _ _

theorem parallel_bracketed (flags : Flags) (span : Span) (negated : Bool) (body : ClassSet) :
    Parallel Eq ((Tree.bracketed span negated body).meaning flags)
      ((Tree.bracketed .nowhere negated body.bare).meaning flags) := by
  refine (body.parallel_bare flags).bind ?_
  rintro inner _ rfl
  exact (parallel_checkedSet flags span negated (flags.fold inner)).bind fun set _ same =>
    .ok (congrArg (fun set => (Expression.ofSet set, flags)) same)

theorem Tree.parallel_bare (tree : Tree) (flags : Flags) :
    Parallel Eq (tree.meaning flags) (tree.bare.meaning flags) := by
  rw [bare]
  induction tree generalizing flags with
  | empty | setFlags | assertion => exact .ok rfl
  | literal single => exact (parallel_literal flags single).map _
  | dot span => exact (parallel_dot flags span).map _
  | escape span name negated => exact (parallel_checkedSet flags _ _ _).map _
  | property span query negated => exact (parallel_propertySet flags _ _ _).map _
  | bracketed span negated body => exact parallel_bracketed flags span negated body
  | repetition span least most greedy body induction =>
      refine (induction flags).bind ?_
      rintro inner _ rfl
      exact .ok rfl
  | capture span index body induction =>
      rw [strip, if_pos rfl]
      refine (induction flags).bind ?_
      rintro inner _ rfl
      exact .ok rfl
  | group span changes body induction =>
      refine (induction _).bind ?_
      rintro inner _ rfl
      exact .ok rfl
  | follow first rest left right =>
      refine (left flags).bind ?_
      rintro head _ rfl
      refine (right head.2).bind ?_
      rintro tail _ rfl
      exact .ok rfl
  | orElse first rest left right =>
      refine (left flags).bind ?_
      rintro head _ rfl
      refine (right head.2).bind ?_
      rintro tail _ rfl
      exact .ok rfl
  | sequence span items induction => exact induction flags
  | alternation span branches induction =>
      refine (induction flags).bind ?_
      rintro inner _ rfl
      exact .ok rfl

theorem Tree.meaning_bare {tree : Tree} {flags after : Flags} {expression : Expression}
    (meant : tree.meaning flags = .ok (expression, after)) :
    tree.bare.meaning flags = .ok (expression, after) := by
  have same := tree.parallel_bare flags
  rw [meant] at same
  obtain ⟨_, found, rfl⟩ := same.of_ok
  exact found

/-! ## Captures left out -/

theorem Tree.captures_plain (tree : Tree) : tree.plain.captures = [] := by
  rw [plain]
  induction tree with
  | follow first rest left right => simp only [strip, captures, left, right, List.append_nil]
  | orElse first rest left right => simp only [strip, captures, left, right, List.append_nil]
  | capture span index body induction =>
      rw [strip, if_neg Bool.false_ne_true]
      exact induction
  | repetition span least most greedy body induction => exact induction
  | group span changes body induction => exact induction
  | sequence span items induction => exact induction
  | alternation span branches induction => exact induction
  | empty | setFlags | literal | dot | assertion | escape | property | bracketed => rfl

def Expression.TakesSame (left right : Expression) : Prop :=
  ∀ text start stop, (left.Way text).Takes start stop ↔ (right.Way text).Takes start stop

theorem Passage.takes_rounds_congr {left right : Passage}
    (same : ∀ start stop, left.Takes start stop ↔ right.Takes start stop) (count start stop : Nat) :
    (left.rounds count).Takes start stop ↔ (right.rounds count).Takes start stop := by
  induction count generalizing start with
  | zero => exact Iff.rfl
  | succ count induction => simp only [rounds, takes_next, same, induction]

namespace Expression.TakesSame

variable {left right otherLeft otherRight : Expression}

theorem append (first : left.TakesSame right) (second : otherLeft.TakesSame otherRight) :
    (left.append otherLeft).TakesSame (right.append otherRight) := by
  intro text start stop
  simp only [way_append, Passage.takes_next, first text, second text]

theorem orElse (first : left.TakesSame right) (second : otherLeft.TakesSame otherRight) :
    (Expression.orElse left otherLeft).TakesSame (.orElse right otherRight) := by
  intro text start stop
  simp only [Passage.Takes, way_orElse, exists_or]
  exact or_congr (first text start stop) (second text start stop)

theorem alternation (same : left.TakesSame right) :
    left.alternation.TakesSame right.alternation := by
  intro text start stop
  rw [way_alternation, way_alternation]
  exact same text start stop

theorem repeated (same : left.TakesSame right) (least : Nat) (most : Option Nat)
    (greedy : Bool) :
    (Expression.repeated least most greedy left).TakesSame (.repeated least most greedy right) := by
  intro text start stop
  simp only [takes_repeated, takes_repetition, Passage.takes_rounds_congr (same text)]

theorem capture (same : left.TakesSame right) (index : Nat) :
    (Expression.capture index left).TakesSame right := by
  intro text start stop
  rw [← same text start stop]
  constructor
  · rintro ⟨_, inner, way, _⟩
    exact ⟨inner, way⟩
  · rintro ⟨inner, way⟩
    exact ⟨_, inner, way, rfl⟩

end Expression.TakesSame

theorem Tree.parallel_plain (tree : Tree) (flags : Flags) :
    Parallel (fun whole plainly => whole.1.TakesSame plainly.1 ∧ whole.2 = plainly.2)
      (tree.meaning flags) (tree.plain.meaning flags) := by
  rw [plain]
  have leaf {left right : Except Fault (Expression × Flags)} (same : Parallel Eq left right) :
      Parallel (fun whole plainly : Expression × Flags =>
        whole.1.TakesSame plainly.1 ∧ whole.2 = plainly.2) left right := by
    cases same with
    | ok equal => exact .ok (equal ▸ ⟨fun _ _ _ => Iff.rfl, rfl⟩)
    | error => exact .error _ _
  induction tree generalizing flags with
  | empty | setFlags | assertion => exact leaf (.ok rfl)
  | literal single => exact leaf ((parallel_literal flags single).map _)
  | dot span => exact leaf ((parallel_dot flags span).map _)
  | escape span name negated => exact leaf ((parallel_checkedSet flags _ _ _).map _)
  | property span query negated => exact leaf ((parallel_propertySet flags _ _ _).map _)
  | bracketed span negated body => exact leaf (parallel_bracketed flags span negated body)
  | repetition span least most greedy body induction =>
      refine (induction flags).bind ?_
      rintro ⟨inner, after⟩ ⟨plainly, _⟩ ⟨same, rfl⟩
      exact .ok ⟨same.repeated least most _, rfl⟩
  | capture span index body induction =>
      rw [strip, if_neg Bool.false_ne_true]
      refine (induction flags).bind ?_
      rintro ⟨inner, after⟩ ⟨plainly, _⟩ ⟨same, rfl⟩
      exact .ok ⟨same.capture index, rfl⟩
  | group span changes body induction =>
      refine (induction _).bind ?_
      rintro ⟨inner, after⟩ ⟨plainly, _⟩ ⟨same, rfl⟩
      exact .ok ⟨same, rfl⟩
  | follow first rest left right =>
      refine (left flags).bind ?_
      rintro ⟨head, middle⟩ ⟨plainHead, _⟩ ⟨sameHead, rfl⟩
      refine (right middle).bind ?_
      rintro ⟨tail, after⟩ ⟨plainTail, _⟩ ⟨sameTail, rfl⟩
      exact .ok ⟨sameHead.append sameTail, rfl⟩
  | orElse first rest left right =>
      refine (left flags).bind ?_
      rintro ⟨head, middle⟩ ⟨plainHead, _⟩ ⟨sameHead, rfl⟩
      refine (right middle).bind ?_
      rintro ⟨tail, after⟩ ⟨plainTail, _⟩ ⟨sameTail, rfl⟩
      exact .ok ⟨sameHead.orElse sameTail, rfl⟩
  | sequence span items induction => exact induction flags
  | alternation span branches induction =>
      refine (induction flags).bind ?_
      rintro ⟨inner, after⟩ ⟨plainly, _⟩ ⟨same, rfl⟩
      exact .ok ⟨same.alternation, rfl⟩

theorem Tree.meaning_plain {tree : Tree} {flags after : Flags} {expression : Expression}
    (meant : tree.meaning flags = .ok (expression, after)) :
    ∃ plainly, tree.plain.meaning flags = .ok (plainly, after) ∧
      expression.TakesSame plainly := by
  have parallel := tree.parallel_plain flags
  rw [meant] at parallel
  obtain ⟨⟨plainly, _⟩, found, same, rfl⟩ := parallel.of_ok
  exact ⟨plainly, found, same⟩

/-- Trees that differ in their captures only are well formed alike and take the same. -/
theorem Tree.meaning_of_plain {tree other : Tree} (equal : other.plain = tree.plain)
    {flags after : Flags} {expression : Expression}
    (meant : tree.meaning flags = .ok (expression, after)) :
    ∃ plainly, other.meaning flags = .ok (plainly, after) ∧ expression.TakesSame plainly := by
  obtain ⟨middle, found, same⟩ := meaning_plain meant
  have parallel := other.parallel_plain flags
  rw [equal, found] at parallel
  obtain ⟨⟨plainly, _⟩, foundToo, sameToo, rfl⟩ := parallel.of_ok_right
  exact ⟨plainly, foundToo, fun text start stop =>
    (same text start stop).trans (sameToo text start stop).symm⟩

end UriDispatch.Regex
