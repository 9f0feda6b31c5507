import UriDispatch.Regex
import UriDispatch.Proofs.Regex.Numbering
import UriDispatch.Proofs.Regex.SimpleForms

/-! The greatest number of a capture is at most the number of captures in the source. Fewer are
left where a capture stands in a part that is never taken. -/

namespace UriDispatch.Regex

def Tree.isSingle : Tree → Bool
  | .literal _ | .dot _ | .escape _ _ _ | .property _ _ _ | .bracketed _ _ _ => true
  | _ => false

theorem meaning_of_isSingle {tree : Tree} (single : tree.isSingle) {flags after : Flags}
    {expression : Expression} (meant : tree.meaning flags = .ok (expression, after)) :
    ∃ set, expression = .ofSet set ∧ after = flags := by
  cases tree with
  | literal literal =>
      obtain ⟨inner, found, equal⟩ := ok_of_map meant
      cases equal
      unfold literalMeaning at found
      split at found
      · cases found
      · cases found
        exact ⟨_, rfl, rfl⟩
  | dot span =>
      obtain ⟨inner, found, equal⟩ := ok_of_map meant
      cases equal
      unfold dotMeaning at found
      split at found
      · cases found
        exact ⟨_, rfl, rfl⟩
      · cases found
  | escape | property =>
      obtain ⟨set, found, equal⟩ := ok_of_map meant
      cases equal
      exact ⟨set, rfl, rfl⟩
  | bracketed span negated body =>
      obtain ⟨inner, _, found⟩ := ok_of_bind meant
      obtain ⟨set, _, equal⟩ := ok_of_bind found
      cases equal
      exact ⟨set, rfl, rfl⟩
  | _ => cases single

/-- The meaning of a tree has no captures but those of the tree. -/
theorem captures_meaning {tree : Tree} {flags after : Flags} {expression : Expression}
    (meant : tree.meaning flags = .ok (expression, after)) :
    expression.captures ⊆ tree.captures.map Prod.fst := by
  induction tree generalizing flags after expression with
  | empty | setFlags | assertion =>
      cases meant
      exact List.nil_subset _
  | literal | dot | escape | property | bracketed =>
      obtain ⟨set, rfl, rfl⟩ := meaning_of_isSingle rfl meant
      exact List.nil_subset _
  | repetition span least most greedy body induction =>
      obtain ⟨⟨inner, next⟩, found, equal⟩ := ok_of_bind meant
      cases equal
      exact List.Subset.trans (Expression.captures_repeated_subset ..) (induction found)
  | capture span index body induction =>
      obtain ⟨⟨inner, next⟩, found, equal⟩ := ok_of_bind meant
      cases equal
      exact List.cons_subset_cons index (induction found)
  | group span changes body induction =>
      obtain ⟨⟨inner, next⟩, found, equal⟩ := ok_of_bind meant
      cases equal
      exact induction found
  | follow first rest left right =>
      obtain ⟨⟨head, next⟩, foundHead, found⟩ := ok_of_bind meant
      obtain ⟨⟨tail, last⟩, foundTail, equal⟩ := ok_of_bind found
      cases equal
      simp only [Expression.captures_append, Tree.captures, List.map_append]
      exact List.append_subset.mpr ⟨List.Subset.trans (left foundHead) (List.subset_append_left _ _),
        List.Subset.trans (right foundTail) (List.subset_append_right _ _)⟩
  | orElse first rest left right =>
      obtain ⟨⟨head, next⟩, foundHead, found⟩ := ok_of_bind meant
      obtain ⟨⟨tail, last⟩, foundTail, equal⟩ := ok_of_bind found
      cases equal
      simp only [Expression.captures, Tree.captures, List.map_append]
      exact List.append_subset.mpr ⟨List.Subset.trans (left foundHead) (List.subset_append_left _ _),
        List.Subset.trans (right foundTail) (List.subset_append_right _ _)⟩
  | sequence span items induction => exact induction meant
  | alternation span branches induction =>
      obtain ⟨⟨choice, next⟩, found, equal⟩ := ok_of_bind meant
      cases equal
      exact List.Subset.trans (Expression.captures_alternation_subset choice) (induction found)

theorem foldl_max_le {bound start : Nat} {values : List Nat} (startLe : start ≤ bound)
    (bounded : ∀ value ∈ values, value ≤ bound) : values.foldl max start ≤ bound := by
  induction values generalizing start with
  | nil => exact startLe
  | cons head tail induction =>
      exact induction (Nat.max_le.mpr ⟨startLe, bounded head List.mem_cons_self⟩)
        fun value member => bounded value (List.mem_cons_of_mem head member)

theorem captureCount_le {regex : Regex} {tree : Tree} {flags after : Flags}
    (parsed : parse regex.source.toList = .ok tree)
    (meant : tree.meaning flags = .ok (regex.expression, after)) :
    regex.captureCount ≤ tree.captures.length := by
  obtain ⟨places, numbered, _⟩ := captures_parse parsed
  have indices : tree.captures.map Prod.fst = List.range' 1 places.length := by
    rw [numbered, List.map_fst_zip (by simp)]
  have count : tree.captures.length = places.length := by
    rw [← List.length_map, indices, List.length_range']
  refine foldl_max_le (Nat.zero_le _) fun index member => ?_
  have inTree := captures_meaning meant member
  rw [indices, List.mem_range'_1] at inTree
  omega

end UriDispatch.Regex
