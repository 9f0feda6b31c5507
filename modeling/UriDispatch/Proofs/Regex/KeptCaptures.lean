import UriDispatch.Proofs.Regex.CaptureCount

/-! Trees of which no capture is lost. Alternatives may be merged and what is repeated zero times is
left out, and captures go with them; everywhere else they stay, in their order. -/

namespace UriDispatch.Regex

/-- No captures stand among alternatives or in what is repeated zero times. -/
def Tree.keepsCaptures : Tree → Bool
  | .repetition _ _ most _ body =>
      (most ≠ some 0 || body.captures.isEmpty) && body.keepsCaptures
  | .alternation _ branches => branches.captures.isEmpty
  | .capture _ _ body | .group _ _ body | .sequence _ body => body.keepsCaptures
  | .follow first rest | .orElse first rest => first.keepsCaptures && rest.keepsCaptures
  | _ => true

theorem Tree.keepsCaptures_of_captures {tree : Tree} (none : tree.captures = []) :
    tree.keepsCaptures := by
  induction tree with
  | repetition span least most greedy body induction =>
      rw [keepsCaptures, induction none, Bool.and_true, Bool.or_eq_true, List.isEmpty_iff]
      exact .inr none
  | alternation span branches induction => exact List.isEmpty_iff.mpr none
  | capture span index body induction => cases none
  | group span changes body induction => exact induction none
  | sequence span items induction => exact induction none
  | follow first rest left right =>
      rcases List.append_eq_nil_iff.mp none with ⟨noneFirst, noneRest⟩
      rw [keepsCaptures, left noneFirst, right noneRest, Bool.and_true]
  | orElse first rest left right =>
      rcases List.append_eq_nil_iff.mp none with ⟨noneFirst, noneRest⟩
      rw [keepsCaptures, left noneFirst, right noneRest, Bool.and_true]
  | empty | setFlags | literal | dot | assertion | escape | property | bracketed => rfl

theorem Tree.keepsCaptures_ofSequence {items : List Tree} (span : Span)
    (keep : ∀ item ∈ items, item.keepsCaptures) : (Tree.ofSequence span items).keepsCaptures := by
  cases items with
  | nil => rfl
  | cons last earlier =>
      have joined : ∀ last : Tree, last.keepsCaptures → (∀ item ∈ earlier, item.keepsCaptures) →
          (earlier.foldl (fun rest item => Tree.follow item rest) last).keepsCaptures := by
        clear keep
        induction earlier with
        | nil => exact fun _ own _ => own
        | cons item others induction =>
            intro last own keep
            rw [List.forall_mem_cons] at keep
            apply induction (.follow item last) _ keep.2
            rw [Tree.keepsCaptures, keep.1, own, Bool.and_true]
      rw [List.forall_mem_cons] at keep
      cases earlier with
      | nil => exact keep.1
      | cons second others => exact joined last keep.1 keep.2

theorem Expression.captures_repeated {least : Nat} {most : Option Nat} (some : most ≠ some 0)
    (greedy : Bool) (body : Expression) :
    (Expression.repeated least most greedy body).captures = body.captures := by
  unfold Expression.repeated
  simp only
  split
  · next zero =>
      exfalso
      split at zero
      · have least := Option.some.inj zero
        cases most with
        | none => simp at least
        | some bound =>
            have positive : bound ≠ 0 := fun isZero => some (congrArg Option.some isZero)
            rw [Option.getD_some] at least
            omega
      · exact some zero
  · rfl
  · rfl

theorem captures_meaning_of_captures {tree : Tree} (none : tree.captures = []) {flags after : Flags}
    {expression : Expression} (meant : tree.meaning flags = .ok (expression, after)) :
    expression.captures = [] := by
  have all := captures_meaning meant
  rw [none] at all
  exact List.subset_nil.mp all

theorem captures_meaning_of_keepsCaptures {tree : Tree} (keeps : tree.keepsCaptures)
    {flags after : Flags} {expression : Expression}
    (meant : tree.meaning flags = .ok (expression, after)) :
    expression.captures = tree.captures.map Prod.fst := by
  induction tree generalizing flags after expression with
  | empty | setFlags | assertion =>
      cases meant
      rfl
  | literal | dot | escape | property | bracketed =>
      rcases meaning_of_isSingle rfl meant with ⟨set, rfl, rfl⟩
      rfl
  | repetition span least most greedy body induction =>
      rw [Tree.keepsCaptures, Bool.and_eq_true, Bool.or_eq_true, decide_eq_true_eq,
        List.isEmpty_iff] at keeps
      rcases keeps.1 with some | none
      · rcases ok_of_bind meant with ⟨⟨inner, next⟩, found, equal⟩
        cases equal
        rw [Expression.captures_repeated some, induction keeps.2 found, Tree.captures]
      · have noneAtAll : (Tree.repetition span least most greedy body).captures = [] := none
        rw [captures_meaning_of_captures noneAtAll meant, noneAtAll, List.map_nil]
  | capture span index body induction =>
      rcases ok_of_bind meant with ⟨⟨inner, next⟩, found, equal⟩
      cases equal
      exact congrArg (index :: ·) (induction keeps found)
  | group span changes body induction =>
      rcases ok_of_bind meant with ⟨⟨inner, next⟩, found, equal⟩
      cases equal
      exact induction keeps found
  | follow first rest left right =>
      rw [Tree.keepsCaptures, Bool.and_eq_true] at keeps
      rcases ok_of_bind meant with ⟨⟨head, next⟩, foundHead, found⟩
      rcases ok_of_bind found with ⟨⟨tail, last⟩, foundTail, equal⟩
      cases equal
      rw [Expression.captures_append, left keeps.1 foundHead, right keeps.2 foundTail,
        Tree.captures, List.map_append]
  | orElse first rest left right =>
      rw [Tree.keepsCaptures, Bool.and_eq_true] at keeps
      rcases ok_of_bind meant with ⟨⟨head, next⟩, foundHead, found⟩
      rcases ok_of_bind found with ⟨⟨tail, last⟩, foundTail, equal⟩
      cases equal
      rw [Expression.captures, left keeps.1 foundHead, right keeps.2 foundTail, Tree.captures,
        List.map_append]
  | sequence span items induction => exact induction keeps meant
  | alternation span branches induction =>
      have none : (Tree.alternation span branches).captures = [] := List.isEmpty_iff.mp keeps
      rw [captures_meaning_of_captures none meant, none, List.map_nil]

theorem foldl_max_range' (count : Nat) : (List.range' 1 count).foldl max 0 = count := by
  induction count with
  | zero => rfl
  | succ count induction =>
      rw [List.range'_concat, List.foldl_append, induction, List.foldl_cons, List.foldl_nil]
      omega

end UriDispatch.Regex
