import UriDispatch.Proofs.Regex.Bare

/-! Where captures lie. If no flags are set in a tree and all of its captures hold the same, then
whatever is captured on a way through it is something that this takes. -/

namespace UriDispatch.Regex

/-! ## Passages -/

def Passage.Confines (allowed : Nat → Nat → Prop) (passage : Passage) : Prop :=
  ∀ start stop captured, passage start stop captured →
    ∀ capture ∈ captured, allowed capture.start capture.stop

namespace Passage.Confines

variable {allowed : Nat → Nat → Prop} {first second : Passage}

theorem nothing (none : ∀ start stop captured, first start stop captured → captured = []) :
    first.Confines allowed := by
  intro start stop captured way capture member
  rw [none start stop captured way] at member
  cases member

theorem next (before : first.Confines allowed) (after : second.Confines allowed) :
    (first.next second).Confines allowed := by
  rintro start stop _ ⟨middle, early, late, way, other, rfl⟩ capture member
  rcases List.mem_append.mp member with inLate | inEarly
  · exact after _ _ _ other capture inLate
  · exact before _ _ _ way capture inEarly

theorem rounds (each : first.Confines allowed) (count : Nat) :
    (first.rounds count).Confines allowed := by
  induction count with
  | zero => exact nothing fun _ _ _ way => way.2
  | succ count induction => exact each.next induction

end Passage.Confines

/-! ## Expressions -/

def Expression.Confines (allowed : Array Char → Nat → Nat → Prop) (expression : Expression) :
    Prop :=
  ∀ text, (expression.Way text).Confines (allowed text)

namespace Expression.Confines

variable {allowed : Array Char → Nat → Nat → Prop} {expression other : Expression}

theorem empty : Expression.empty.Confines allowed :=
  fun _ => .nothing fun _ _ _ way => way.2

theorem step (set : CharacterSet) : (Expression.step set).Confines allowed :=
  fun _ => .nothing fun _ _ _ way => way.2.2

theorem ofSet (set : CharacterSet) : (Expression.ofSet set).Confines allowed := step set.normal

theorem test (condition : Condition) : (Expression.test condition).Confines allowed :=
  fun _ => .nothing fun _ _ _ way => way.2.2

theorem capture (inside : expression.Confines allowed)
    (takes : ∀ text start stop, (expression.Way text).Takes start stop → allowed text start stop)
    (index : Nat) : (Expression.capture index expression).Confines allowed := by
  rintro text start stop _ ⟨inner, way, rfl⟩ capture member
  rcases List.mem_cons.mp member with rfl | inInner
  · exact takes text start stop ⟨inner, way⟩
  · exact inside text _ _ _ way capture inInner

theorem append (first : expression.Confines allowed) (second : other.Confines allowed) :
    (expression.append other).Confines allowed := by
  intro text
  rw [way_append]
  exact (first text).next (second text)

theorem orElse (first : expression.Confines allowed) (second : other.Confines allowed) :
    (Expression.orElse expression other).Confines allowed := by
  rintro text start stop captured (way | way)
  · exact first text _ _ _ way
  · exact second text _ _ _ way

theorem alternation (choice : expression.Confines allowed) :
    expression.alternation.Confines allowed := by
  intro text
  rw [way_alternation]
  exact choice text

theorem repetition (each : expression.Confines allowed) (least : Nat) (most : Option Nat)
    (greedy : Bool) : (Expression.repetition least most greedy expression).Confines allowed := by
  rintro text start stop captured ⟨count, _, _, way⟩
  exact (each text).rounds count _ _ _ way

theorem repeated (each : expression.Confines allowed) (least : Nat) (most : Option Nat)
    (greedy : Bool) : (Expression.repeated least most greedy expression).Confines allowed := by
  unfold Expression.repeated
  simp only
  split
  · exact .empty
  · exact each
  · exact each.repetition _ _ _

end Expression.Confines

/-! ## Trees -/

def Tree.CapturesOnly : (tree body : Tree) → Prop
  | .setFlags _ _, _ => False
  | .capture _ _ inner, body => inner.bare = body
  | .group _ changes inner, body => changes = [] ∧ inner.CapturesOnly body
  | .repetition _ _ _ _ inner, body | .sequence _ inner, body | .alternation _ inner, body =>
      inner.CapturesOnly body
  | .follow first rest, body | .orElse first rest, body =>
      first.CapturesOnly body ∧ rest.CapturesOnly body
  | .empty _, _ | .literal _, _ | .dot _, _ | .assertion _ _, _ | .escape _ _ _, _
  | .property _ _ _, _ | .bracketed _ _ _, _ => True

namespace Tree

variable {body : Tree}

theorem capturesOnly_bare {tree : Tree} : tree.bare.CapturesOnly body ↔ tree.CapturesOnly body := by
  rw [bare]
  induction tree with
  | capture span index inner =>
      rw [strip, if_pos rfl, CapturesOnly, CapturesOnly, bare_strip]
      rfl
  | repetition span least most greedy inner induction => exact induction
  | group span changes inner induction => exact and_congr_right fun _ => induction
  | follow first rest left right => exact and_congr left right
  | orElse first rest left right => exact and_congr left right
  | sequence span items induction => exact induction
  | alternation span branches induction => exact induction
  | empty | setFlags | literal | dot | assertion | escape | property | bracketed => exact Iff.rfl

theorem capturesOnly_ofSequence {items : List Tree}
    (holds : ∀ item ∈ items, item.CapturesOnly body) (span : Span) :
    (ofSequence span items).CapturesOnly body := by
  match items with
  | [] => trivial
  | [item] => exact holds item (List.mem_singleton_self item)
  | last :: second :: earlier =>
      rw [List.forall_mem_cons] at holds
      exact List.foldlRecOn (motive := (CapturesOnly · body)) _ _ holds.1
        fun rest restHolds item member => ⟨holds.2 item member, restHolds⟩

theorem capturesOnly_ofAlternatives {last : Tree} {earlier : List Tree}
    (lastHolds : last.CapturesOnly body) (holds : ∀ tree ∈ earlier, tree.CapturesOnly body)
    (span : Span) : (ofAlternatives span last earlier).CapturesOnly body := by
  cases earlier with
  | nil => exact lastHolds
  | cons head tail =>
      exact List.foldlRecOn (motive := (CapturesOnly · body)) _ _ lastHolds
        fun rest restHolds branch member => ⟨holds branch member, restHolds⟩

/-- If the body takes what may be captured, nothing else is captured on a way through the tree. -/
theorem confines_meaning {tree : Tree} {flags inner after : Flags} {only expression : Expression}
    {allowed : Array Char → Nat → Nat → Prop} (known : body.meaning flags = .ok (only, inner))
    (inside : only.Confines allowed)
    (takes : ∀ text start stop, (only.Way text).Takes start stop → allowed text start stop)
    (holds : tree.CapturesOnly body) (meant : tree.meaning flags = .ok (expression, after)) :
    after = flags ∧ expression.Confines allowed := by
  induction tree generalizing after expression with
  | empty =>
      cases meant
      exact ⟨rfl, .empty⟩
  | setFlags => cases holds
  | assertion span kind =>
      cases meant
      exact ⟨rfl, .test _⟩
  | literal | dot | escape | property | bracketed =>
      obtain ⟨set, rfl, rfl⟩ := meaning_of_isSingle rfl meant
      exact ⟨rfl, .ofSet set⟩
  | repetition span least most greedy body induction =>
      rcases ok_of_bind meant with ⟨⟨inner, next⟩, found, equal⟩
      cases equal
      obtain ⟨rfl, confines⟩ := induction holds found
      exact ⟨rfl, confines.repeated least most _⟩
  | capture span index body induction =>
      rcases ok_of_bind meant with ⟨⟨inner, next⟩, found, equal⟩
      cases equal
      have same := meaning_bare found
      rw [show body.bare = _ from holds, known] at same
      cases same
      exact ⟨rfl, inside.capture takes index⟩
  | group span changes body induction =>
      rcases ok_of_bind meant with ⟨⟨inner, next⟩, found, equal⟩
      cases equal
      obtain ⟨rfl, holds⟩ := holds
      exact ⟨rfl, (induction holds found).2⟩
  | follow first rest left right =>
      rcases ok_of_bind meant with ⟨⟨head, next⟩, foundHead, others⟩
      rcases ok_of_bind others with ⟨⟨tail, last⟩, foundTail, equal⟩
      cases equal
      obtain ⟨rfl, before⟩ := left holds.1 foundHead
      obtain ⟨rfl, behind⟩ := right holds.2 foundTail
      exact ⟨rfl, before.append behind⟩
  | orElse first rest left right =>
      rcases ok_of_bind meant with ⟨⟨head, next⟩, foundHead, others⟩
      rcases ok_of_bind others with ⟨⟨tail, last⟩, foundTail, equal⟩
      cases equal
      obtain ⟨rfl, before⟩ := left holds.1 foundHead
      obtain ⟨rfl, behind⟩ := right holds.2 foundTail
      exact ⟨rfl, before.orElse behind⟩
  | sequence span items induction => exact induction holds meant
  | alternation span branches induction =>
      rcases ok_of_bind meant with ⟨⟨choice, next⟩, found, equal⟩
      cases equal
      obtain ⟨rfl, confines⟩ := induction holds found
      exact ⟨rfl, confines.alternation⟩

end Tree

end UriDispatch.Regex
