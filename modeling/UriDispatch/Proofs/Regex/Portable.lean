import UriDispatch.Proofs.Regex.Anchoring
import UriDispatch.Proofs.Regex.Bare

/-! Expressions that look at nothing but the characters they take. What they match does not depend
on the text around it, so that it can be told from that part of the text alone. -/

namespace UriDispatch.Regex

/-! ## Places in order -/

theorem rounds_forward {body : Passage} (forward : ∀ {start stop captured},
    body start stop captured → start ≤ stop) {count start stop : Nat}
    {captured : List Captured} (way : body.rounds count start stop captured) : start ≤ stop := by
  induction count generalizing start stop captured with
  | zero => exact Nat.le_of_eq way.1
  | succ count induction =>
      rcases way with ⟨middle, _, _, first, rest, _⟩
      exact (forward first).trans (induction rest)

theorem way_forward {text : Array Char} {expression : Expression} {start stop : Nat}
    {captured : List Captured} (way : expression.Way text start stop captured) : start ≤ stop := by
  induction expression generalizing start stop captured with
  | empty => exact Nat.le_of_eq way.1
  | step set =>
      rw [way.2.1]
      exact Nat.le_succ start
  | test condition => exact Nat.le_of_eq way.2.1
  | capture index body induction =>
      rcases way with ⟨inner, through, _⟩
      exact induction through
  | follow first second left right =>
      rcases way with ⟨middle, _, _, before, after, _⟩
      exact (left before).trans (right after)
  | orElse first second left right =>
      rcases way with way | way
      · exact left way
      · exact right way
  | repetition least most greedy body induction =>
      rcases way with ⟨count, _, _, through⟩
      exact rounds_forward induction through

theorem rounds_captured {body : Passage} (nothing : ∀ {start stop captured},
    body start stop captured → captured = []) {count start stop : Nat}
    {captured : List Captured} (way : body.rounds count start stop captured) : captured = [] := by
  induction count generalizing start stop captured with
  | zero => exact way.2
  | succ count induction =>
      rcases way with ⟨middle, before, after, first, rest, rfl⟩
      rw [nothing first, induction rest, List.append_nil]

theorem way_captured {text : Array Char} {expression : Expression}
    (noCaptures : expression.captures = []) {start stop : Nat} {captured : List Captured}
    (way : expression.Way text start stop captured) : captured = [] := by
  induction expression generalizing start stop captured with
  | empty => exact way.2
  | step set => exact way.2.2
  | test condition => exact way.2.2
  | capture index body induction => cases noCaptures
  | follow first second left right =>
      rw [Expression.captures, List.append_eq_nil_iff] at noCaptures
      rcases way with ⟨middle, _, _, before, after, rfl⟩
      rw [left noCaptures.1 before, right noCaptures.2 after, List.append_nil]
  | orElse first second left right =>
      rw [Expression.captures, List.append_eq_nil_iff] at noCaptures
      rcases way with way | way
      · exact left noCaptures.1 way
      · exact right noCaptures.2 way
  | repetition least most greedy body induction =>
      rcases way with ⟨count, _, _, through⟩
      exact rounds_captured (induction noCaptures) through

/-! ## Parts of texts -/

def Alike (text other : Array Char) (start otherStart count : Nat) : Prop :=
  ∀ index < count, text[start + index]? = other[otherStart + index]?

theorem Alike.left {text other : Array Char} {start otherStart first second : Nat}
    (alike : Alike text other start otherStart (first + second)) :
    Alike text other start otherStart first :=
  fun index inside => alike index (Nat.lt_add_right second inside)

theorem Alike.right {text other : Array Char} {start otherStart first second : Nat}
    (alike : Alike text other start otherStart (first + second)) :
    Alike text other (start + first) (otherStart + first) second := by
  intro index inside
  rw [Nat.add_assoc, Nat.add_assoc]
  exact alike (first + index) (Nat.add_lt_add_left inside first)

/-- Whatever can be taken can be taken wherever the same characters stand. -/
def Passage.Portable (passage : Array Char → Passage) : Prop :=
  ∀ (text other : Array Char) (start otherStart count : Nat),
    Alike text other start otherStart count → (passage text).Takes start (start + count) →
      (passage other).Takes otherStart (otherStart + count)

def Passage.Forward (passage : Passage) : Prop :=
  ∀ start stop, passage.Takes start stop → start ≤ stop

namespace Passage.Portable

variable {first second : Array Char → Passage}

theorem next (portable : Portable first) (others : Portable second)
    (forward : ∀ text, (first text).Forward) (othersForward : ∀ text, (second text).Forward) :
    Portable fun text => (first text).next (second text) := by
  intro text other start otherStart count alike takes
  rcases (takes_next ..).mp takes with ⟨middle, before, after⟩
  rcases Nat.exists_eq_add_of_le (forward text _ _ before) with ⟨begun, rfl⟩
  rcases Nat.exists_eq_add_of_le (othersForward text _ _ after) with ⟨left, equal⟩
  have total : count = begun + left := by omega
  subst total
  rw [Nat.add_assoc] at equal
  refine (takes_next ..).mpr ⟨otherStart + begun, portable _ _ _ _ _ alike.left before, ?_⟩
  rw [← Nat.add_assoc] at takes ⊢
  rw [← Nat.add_assoc] at after
  exact others _ _ _ _ _ alike.right after

theorem rounds (portable : Portable first) (forward : ∀ text, (first text).Forward)
    (count : Nat) : Portable fun text => (first text).rounds count := by
  induction count with
  | zero =>
      intro text other start otherStart length alike takes
      have none : length = 0 := by
        have equal := (takes_stay ..).mp takes
        omega
      subst none
      exact (takes_stay ..).mpr rfl
  | succ count induction =>
      refine portable.next induction forward fun text start stop takes => ?_
      rcases takes with ⟨captured, way⟩
      exact rounds_forward (fun step => forward text _ _ ⟨_, step⟩) way

end Passage.Portable

def Expression.Portable (expression : Expression) : Prop :=
  Passage.Portable fun text => expression.Way text

theorem Expression.forward (expression : Expression) (text : Array Char) :
    (expression.Way text).Forward := by
  rintro start stop ⟨captured, way⟩
  exact way_forward way

namespace Expression.Portable

variable {expression other : Expression}

theorem empty : Expression.empty.Portable := by
  intro text another start otherStart count alike takes
  have none : count = 0 := by
    have equal := (Passage.takes_stay ..).mp takes
    omega
  subst none
  exact (Passage.takes_stay ..).mpr rfl

theorem ofSet (set : CharacterSet) : (Expression.ofSet set).Portable := by
  rintro text another start otherStart count alike ⟨captured, inside, length, _⟩
  have one : count = 1 := by omega
  subst one
  refine ⟨[], ?_, rfl, rfl⟩
  have first := alike 0 Nat.one_pos
  rw [Nat.add_zero, Nat.add_zero] at first
  exact first ▸ inside

theorem append (first : expression.Portable) (second : other.Portable) :
    (expression.append other).Portable := by
  intro text another start otherStart count alike takes
  simp only [way_append] at takes ⊢
  exact Passage.Portable.next first second expression.forward other.forward _ _ _ _ _ alike takes

theorem orElse (first : expression.Portable) (second : other.Portable) :
    (Expression.orElse expression other).Portable := by
  rintro text another start otherStart count alike ⟨captured, way | way⟩
  · rcases first _ _ _ _ _ alike ⟨captured, way⟩ with ⟨found, way⟩
    exact ⟨found, .inl way⟩
  · rcases second _ _ _ _ _ alike ⟨captured, way⟩ with ⟨found, way⟩
    exact ⟨found, .inr way⟩

theorem alternation (portable : expression.Portable) : expression.alternation.Portable := by
  intro text another start otherStart count alike takes
  simp only [way_alternation] at takes ⊢
  exact portable _ _ _ _ _ alike takes

theorem repeated (portable : expression.Portable) (least : Nat) (most : Option Nat)
    (greedy : Bool) : (Expression.repeated least most greedy expression).Portable := by
  intro text another start otherStart count alike takes
  rw [takes_repeated, takes_repetition] at takes ⊢
  rcases takes with ⟨rounds, enough, bounded, through⟩
  exact ⟨rounds, enough, bounded,
    Passage.Portable.rounds portable expression.forward rounds _ _ _ _ _ alike through⟩

theorem capture (portable : expression.Portable) (index : Nat) :
    (Expression.capture index expression).Portable := by
  rintro text another start otherStart count alike ⟨captured, inner, way, _⟩
  rcases portable _ _ _ _ _ alike ⟨inner, way⟩ with ⟨found, way⟩
  exact ⟨_, found, way, rfl⟩

end Expression.Portable

def Tree.unconditional : Tree → Bool
  | .assertion _ _ => false
  | .repetition _ _ _ _ body | .capture _ _ body | .group _ _ body | .sequence _ body
  | .alternation _ body => body.unconditional
  | .follow first rest | .orElse first rest => first.unconditional && rest.unconditional
  | _ => true

theorem Tree.portable_meaning {tree : Tree} (unconditional : tree.unconditional)
    {flags after : Flags} {expression : Expression}
    (meant : tree.meaning flags = .ok (expression, after)) : expression.Portable := by
  induction tree generalizing flags after expression with
  | empty | setFlags =>
      cases meant
      exact .empty
  | assertion => cases unconditional
  | literal | dot | escape | property | bracketed =>
      rcases meaning_of_isSingle rfl meant with ⟨set, rfl, rfl⟩
      exact .ofSet set
  | repetition span least most greedy body induction =>
      rcases ok_of_bind meant with ⟨⟨inner, next⟩, found, equal⟩
      cases equal
      exact (induction unconditional found).repeated least most _
  | capture span index body induction =>
      rcases ok_of_bind meant with ⟨⟨inner, next⟩, found, equal⟩
      cases equal
      exact (induction unconditional found).capture index
  | group span changes body induction =>
      rcases ok_of_bind meant with ⟨⟨inner, next⟩, found, equal⟩
      cases equal
      exact induction unconditional found
  | follow first rest left right =>
      simp only [Tree.unconditional, Bool.and_eq_true] at unconditional
      rcases ok_of_bind meant with ⟨⟨head, next⟩, foundHead, found⟩
      rcases ok_of_bind found with ⟨⟨tail, last⟩, foundTail, equal⟩
      cases equal
      exact (left unconditional.1 foundHead).append (right unconditional.2 foundTail)
  | orElse first rest left right =>
      simp only [Tree.unconditional, Bool.and_eq_true] at unconditional
      rcases ok_of_bind meant with ⟨⟨head, next⟩, foundHead, found⟩
      rcases ok_of_bind found with ⟨⟨tail, last⟩, foundTail, equal⟩
      cases equal
      exact (left unconditional.1 foundHead).orElse (right unconditional.2 foundTail)
  | sequence span items induction => exact induction unconditional meant
  | alternation span branches induction =>
      rcases ok_of_bind meant with ⟨⟨choice, next⟩, found, equal⟩
      cases equal
      exact (induction unconditional found).alternation

end UriDispatch.Regex
