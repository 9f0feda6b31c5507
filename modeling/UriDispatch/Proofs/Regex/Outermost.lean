import UriDispatch.Proofs.Regex.Moves
import UriDispatch.Proofs.Regex.CaptureCount

/-! The outermost captures of a tree. What stands in one of them is a tree of its own: it means the
same by itself if no flags are set around it. -/

namespace UriDispatch.Regex

/-- The bodies of the captures that no other capture holds, in order. Flags that are set outside of
them stand among the bodies as `none`. -/
def Tree.outermost : Tree → List (Option Tree)
  | .capture _ _ body => [some body]
  | .setFlags _ _ => [none]
  | .group _ changes body => if changes = [] then body.outermost else none :: body.outermost
  | .repetition _ _ _ _ body | .sequence _ body | .alternation _ body => body.outermost
  | .follow first rest | .orElse first rest => first.outermost ++ rest.outermost
  | .empty _ | .literal _ | .dot _ | .assertion _ _ | .escape _ _ _ | .property _ _ _
  | .bracketed _ _ _ => []

/-! ## Bodies by themselves -/

theorem Tree.meaning_outermost {tree : Tree} {flags after : Flags} {expression : Expression}
    (noFlags : none ∉ tree.outermost) (meant : tree.meaning flags = .ok (expression, after)) :
    after = flags ∧ ∀ body, some body ∈ tree.outermost → ∃ found, body.meaning flags = .ok found := by
  induction tree generalizing after expression with
  | empty | assertion =>
      cases meant
      exact ⟨rfl, fun _ member => nomatch member⟩
  | setFlags => exact absurd List.mem_cons_self noFlags
  | literal | dot | escape | property | bracketed =>
      rcases meaning_of_isSingle rfl meant with ⟨set, rfl, rfl⟩
      exact ⟨rfl, fun _ member => nomatch member⟩
  | repetition span least most greedy body induction =>
      rcases ok_of_bind meant with ⟨⟨inner, next⟩, found, equal⟩
      cases equal
      exact induction noFlags found
  | capture span index body =>
      rcases ok_of_bind meant with ⟨⟨inner, next⟩, found, equal⟩
      cases equal
      refine ⟨rfl, fun other member => ?_⟩
      cases List.mem_singleton.mp member
      exact ⟨_, found⟩
  | group span changes body induction =>
      rcases ok_of_bind meant with ⟨⟨inner, next⟩, found, equal⟩
      cases equal
      rw [outermost] at noFlags ⊢
      split at noFlags
      · next unchanged =>
          subst unchanged
          exact ⟨rfl, (induction noFlags found).2⟩
      · exact absurd List.mem_cons_self noFlags
  | follow first rest left right =>
      rcases ok_of_bind meant with ⟨⟨head, next⟩, foundHead, others⟩
      rcases ok_of_bind others with ⟨⟨tail, last⟩, foundTail, equal⟩
      cases equal
      rw [outermost, List.mem_append, not_or] at noFlags
      rcases left noFlags.1 foundHead with ⟨rfl, before⟩
      rcases right noFlags.2 foundTail with ⟨rfl, behind⟩
      refine ⟨rfl, fun body member => ?_⟩
      exact (List.mem_append.mp member).elim (before body) (behind body)
  | orElse first rest left right =>
      rcases ok_of_bind meant with ⟨⟨head, next⟩, foundHead, others⟩
      rcases ok_of_bind others with ⟨⟨tail, last⟩, foundTail, equal⟩
      cases equal
      rw [outermost, List.mem_append, not_or] at noFlags
      rcases left noFlags.1 foundHead with ⟨rfl, before⟩
      rcases right noFlags.2 foundTail with ⟨rfl, behind⟩
      refine ⟨rfl, fun body member => ?_⟩
      exact (List.mem_append.mp member).elim (before body) (behind body)
  | sequence span items induction => exact induction noFlags meant
  | alternation span branches induction =>
      rcases ok_of_bind meant with ⟨⟨choice, next⟩, found, equal⟩
      cases equal
      exact induction noFlags found

theorem orElse_eq_none {first second : Option Span} :
    (first <|> second) = none ↔ first = none ∧ second = none := by
  cases first <;> simp

theorem ClassSet.tooDeep?_of_le {set : ClassSet} {depth shallow : Nat} (within : shallow ≤ depth)
    (fits : set.tooDeep? depth = none) : set.tooDeep? shallow = none := by
  induction set generalizing depth shallow with
  | bracketed span negated body induction | union span body induction =>
      rw [tooDeep?] at fits ⊢
      split at fits
      · next room =>
          rw [if_pos (within.trans_lt room)]
          exact induction (Nat.succ_le_succ within) fits
      · cases fits
  | combine span operator first second left right =>
      rw [tooDeep?] at fits ⊢
      split at fits
      · next room =>
          rw [if_pos (within.trans_lt room)]
          rw [orElse_eq_none] at fits ⊢
          exact ⟨left (Nat.succ_le_succ within) fits.1, right (Nat.succ_le_succ within) fits.2⟩
      · cases fits
  | join first rest left right =>
      rw [tooDeep?, orElse_eq_none] at fits ⊢
      exact ⟨left within fits.1, right within fits.2⟩
  | empty | literal | range | named | escape | property => rfl

theorem Tree.tooDeep?_of_le {tree : Tree} {depth shallow : Nat} (within : shallow ≤ depth)
    (fits : tree.tooDeep? depth = none) : tree.tooDeep? shallow = none := by
  induction tree generalizing depth shallow with
  | bracketed span negated body =>
      rw [tooDeep?] at fits ⊢
      split at fits
      · next room =>
          rw [if_pos (within.trans_lt room)]
          exact ClassSet.tooDeep?_of_le (Nat.succ_le_succ within) fits
      · cases fits
  | repetition span least most greedy body induction | capture span index body induction
  | group span changes body induction | sequence span body induction
  | alternation span body induction =>
      rw [tooDeep?] at fits ⊢
      split at fits
      · next room =>
          rw [if_pos (within.trans_lt room)]
          exact induction (Nat.succ_le_succ within) fits
      · cases fits
  | follow first rest left right | orElse first rest left right =>
      rw [tooDeep?, orElse_eq_none] at fits ⊢
      exact ⟨left within fits.1, right within fits.2⟩
  | empty | setFlags | literal | dot | assertion | escape | property => rfl

theorem Tree.tooDeep?_outermost {tree body : Tree} {depth : Nat} (fits : tree.tooDeep? depth = none)
    (member : some body ∈ tree.outermost) : body.tooDeep? depth = none := by
  induction tree generalizing depth with
  | capture span index inner =>
      cases List.mem_singleton.mp member
      rw [tooDeep?] at fits
      split at fits
      · exact tooDeep?_of_le (Nat.le_succ depth) fits
      · cases fits
  | group span changes inner induction =>
      have inside : some body ∈ inner.outermost := by
        rw [outermost] at member
        split at member
        · exact member
        · exact (List.mem_cons.mp member).resolve_left (Option.some_ne_none _)
      rw [tooDeep?] at fits
      split at fits
      · exact tooDeep?_of_le (Nat.le_succ depth) (induction fits inside)
      · cases fits
  | repetition span least most greedy inner induction | sequence span inner induction
  | alternation span inner induction =>
      rw [tooDeep?] at fits
      split at fits
      · exact tooDeep?_of_le (Nat.le_succ depth) (induction fits member)
      · cases fits
  | follow first rest left right | orElse first rest left right =>
      rw [tooDeep?, orElse_eq_none] at fits
      exact (List.mem_append.mp member).elim (left fits.1) (right fits.2)
  | setFlags => exact absurd (List.mem_singleton.mp member) (Option.some_ne_none _)
  | empty | literal | dot | assertion | escape | property | bracketed => cases member

/-! ## States -/

theorem Tree.outermost_ofSequence (span : Span) (items : List Tree) :
    (Tree.ofSequence span items).outermost = items.reverse.flatMap Tree.outermost := by
  match items with
  | [] => rfl
  | [item] => exact (List.flatMap_singleton outermost item).symm
  | last :: second :: earlier => exact collect_foldl (fun _ _ => rfl) (second :: earlier) last

theorem Tree.outermost_ofAlternatives (span : Span) (last : Tree) (earlier : List Tree) :
    (Tree.ofAlternatives span last earlier).outermost =
      (last :: earlier).reverse.flatMap Tree.outermost := by
  cases earlier with
  | nil => exact (List.flatMap_singleton outermost last).symm
  | cons head tail => exact collect_foldl (fun _ _ => rfl) (head :: tail) last

namespace Level

def outermost (level : Level) : List (Option Tree) :=
  level.alternatives.reverse.flatMap Tree.outermost ++ level.items.reverse.flatMap Tree.outermost

theorem outermost_tree (level : Level) (rest : List Char) :
    (level.tree rest).outermost = level.outermost := by
  rw [tree, Tree.outermost_ofAlternatives, List.reverse_cons, List.flatMap_append,
    List.flatMap_singleton, alternative, Tree.outermost_ofSequence]
  rfl

theorem outermost_push (level : Level) (item : Tree) :
    (level.push item).outermost = level.outermost ++ item.outermost := by
  simp [outermost, push]

theorem outermost_nextAlternative (level : Level) (bar afterBar : List Char) :
    (level.nextAlternative bar afterBar).outermost = level.outermost := by
  simp [outermost, nextAlternative, alternative, Tree.outermost_ofSequence]

end Level

def ParserState.outermost (state : ParserState) : List (Option Tree) :=
  state.groups.reverse.flatMap (·.outer.outermost) ++ state.level.outermost

theorem ParserState.outermost_push (state : ParserState) (item : Tree) :
    (state.push item).outermost = state.outermost ++ item.outermost := by
  simp [ParserState.outermost, ParserState.push, Level.outermost_push]

theorem outermost_repeatOperand {state next : ParserState} {input rest : List Char} {count : Count}
    {greedy : Bool} (repeated : repeatOperand state input rest count greedy = .ok next) :
    next.outermost = state.outermost := by
  rcases ok_of_map repeated with ⟨⟨operand, left⟩, taken, rfl⟩
  unfold takeOperand at taken
  split at taken
  · cases taken
  · cases taken
  · cases taken
  · next item others _ _ items =>
      cases taken
      rw [ParserState.outermost_push]
      simp [ParserState.outermost, Level.outermost, Tree.outermost, items]

end UriDispatch.Regex
