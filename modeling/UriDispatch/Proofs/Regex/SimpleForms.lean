import Mathlib.Data.List.SplitBy
import UriDispatch.Regex.Expression

/-! The captures of expressions in simple form. Putting expressions together may drop captures or
merge parts that are alike, but it never adds a capture. -/

namespace UriDispatch.Regex

namespace Expression

/-! ## Chains and choices -/

theorem captures_append (first second : Expression) :
    (first.append second).captures = first.captures ++ second.captures := by
  fun_induction append first second with
  | case1 => rfl
  | case2 first rest second induction => simp only [captures, induction, List.append_assoc]
  | case3 => exact (List.append_nil _).symm
  | case4 => rfl

theorem captures_repeated_subset (least : Nat) (most : Option Nat) (greedy : Bool)
    (body : Expression) : (repeated least most greedy body).captures ⊆ body.captures := by
  simp only [repeated]
  split
  · exact List.nil_subset _
  · exact List.Subset.refl _
  · exact List.Subset.refl _

theorem flatMap_captures_parts (expression : Expression) :
    expression.parts.flatMap captures = expression.captures := by
  induction expression with
  | follow first second left right => simp only [parts, List.flatMap_append, left, right, captures]
  | empty => rfl
  | step | test | capture | orElse | repetition => exact List.append_nil _

theorem flatMap_captures_branches (expression : Expression) :
    expression.branches.flatMap captures = expression.captures := by
  induction expression with
  | orElse first second left right =>
      simp only [branches, List.flatMap_append, left, right, captures]
  | empty => rfl
  | step | test | capture | follow | repetition => exact List.append_nil _

theorem captures_ofParts (parts : List Expression) :
    (ofParts parts).captures = parts.flatMap captures := by
  induction parts with
  | nil => rfl
  | cons head tail induction =>
      rw [List.flatMap_cons, ← induction]
      exact captures_append head _

theorem captures_ofBranches (branches : List Expression) :
    (ofBranches branches).captures = branches.flatMap captures := by
  induction branches with
  | nil => rfl
  | cons first rest induction =>
      cases rest with
      | nil => exact (List.append_nil _).symm
      | cons second others =>
          rw [List.flatMap_cons, ← induction]
          rfl

theorem flatten_units (expression : Expression) : expression.units.flatten = expression.parts :=
  List.flatten_splitBy _ _

theorem captures_choose_subset (choice : List Expression) :
    (choose choice).captures ⊆ choice.flatMap captures := by
  unfold choose merged?
  split
  · exact List.nil_subset _
  · rw [Option.getD_none, captures_ofBranches]
    exact List.Subset.refl _

/-! ## What alternatives have in common -/

theorem commonStart_prefix (left right : List (List Expression)) :
    commonStart left right <+: left ∧ commonStart left right <+: right := by
  fun_induction commonStart left right with
  | case1 head leftRest rightRest induction =>
      exact ⟨List.cons_prefix_cons.mpr ⟨rfl, induction.1⟩,
        List.cons_prefix_cons.mpr ⟨rfl, induction.2⟩⟩
  | case2 => exact ⟨List.nil_prefix, List.nil_prefix⟩
  | case3 => exact ⟨List.nil_prefix, List.nil_prefix⟩

theorem foldl_commonStart_prefix (rest : List (List (List Expression)))
    (first : List (List Expression)) :
    rest.foldl commonStart first <+: first ∧
      ∀ units ∈ rest, rest.foldl commonStart first <+: units := by
  induction rest generalizing first with
  | nil => exact ⟨List.prefix_refl _, fun _ member => nomatch member⟩
  | cons head tail induction =>
      have common := commonStart_prefix first head
      have inside := induction (commonStart first head)
      refine ⟨inside.1.trans common.1, fun units member => ?_⟩
      rcases List.mem_cons.mp member with rfl | inTail
      · exact inside.1.trans common.2
      · exact inside.2 units inTail

theorem sharedStart_prefix {alternatives : List (List (List Expression))}
    {units : List (List Expression)} (member : units ∈ alternatives) :
    sharedStart alternatives <+: units := by
  unfold sharedStart
  split
  · cases member
  · next first rest =>
      split
      · have common := foldl_commonStart_prefix rest first
        rcases List.mem_cons.mp member with rfl | inRest
        · exact common.1
        · exact common.2 units inRest
      · exact List.nil_prefix

theorem branches_ne_nil (expression : Expression) : expression.branches ≠ [] := by
  induction expression with
  | orElse first second left right => simp [branches, left]
  | empty | step | test | capture | follow | repetition => simp [branches]

/-- An alternation is one merged step, the choice as it is, or what all alternatives begin with
before a choice between what is left of them. -/
theorem alternation_cases (choice : Expression) :
    merged? choice.branches = some choice.alternation ∨
      choice.alternation = ofBranches choice.branches ∨
      ∃ (shared : List Expression) (rests : List (List Expression)),
        choice.branches.map parts = rests.map (shared ++ ·) ∧
        choice.alternation =
          (ofParts shared).append (choose (rests.flatMap fun rest => (ofParts rest).branches)) := by
  unfold alternation
  split
  · next single merged => exact .inl merged
  · simp only
    split
    · exact .inr (.inl rfl)
    · have shared (branch : Expression) (member : branch ∈ choice.branches) :=
        sharedStart_prefix (List.mem_map_of_mem (f := units) member)
      generalize sharedStart (choice.branches.map units) = start at shared ⊢
      refine .inr (.inr ⟨start.flatten,
        choice.branches.map fun branch => (branch.units.drop start.length).flatten, ?_, ?_⟩)
      · rw [List.map_map]
        refine List.map_congr_left fun branch member => ?_
        obtain ⟨rest, equal⟩ := shared branch member
        rw [Function.comp_apply, ← flatten_units branch, ← equal, List.drop_left,
          List.flatten_append]
      · rw [List.flatMap_map, List.flatMap_map]

theorem captures_alternation_subset (choice : Expression) :
    (alternation choice).captures ⊆ choice.captures := by
  rcases alternation_cases choice with merged | same | ⟨shared, rests, parts, equal⟩
  · unfold merged? at merged
    split at merged
    · rw [← Option.some.inj merged]
      exact List.nil_subset _
    · cases merged
  · rw [same, captures_ofBranches, flatMap_captures_branches]
    exact List.Subset.refl _
  · have whole : rests.flatMap (fun rest => (shared ++ rest).flatMap captures) =
        choice.captures := by
      rw [← flatMap_captures_branches, ← List.flatMap_map (shared ++ ·) (List.flatMap captures),
        ← parts, List.flatMap_map]
      exact List.flatMap_congr fun branch _ => flatMap_captures_parts branch
    rw [equal, captures_append, captures_ofParts, ← whole]
    refine List.append_subset.mpr ⟨fun index inShared => ?_, fun index inChoice => ?_⟩
    · cases rests with
      | nil =>
          exact absurd (List.map_eq_nil_iff.mp parts) (branches_ne_nil choice)
      | cons rest others =>
          rw [List.flatMap_cons, List.flatMap_append]
          exact List.mem_append_left _ (List.mem_append_left _ inShared)
    · obtain ⟨branch, inBranches, inBranch⟩ :=
        List.mem_flatMap.mp (captures_choose_subset _ inChoice)
      obtain ⟨rest, inRests, inRest⟩ := List.mem_flatMap.mp inBranches
      refine List.mem_flatMap.mpr ⟨rest, inRests, ?_⟩
      rw [List.flatMap_append, ← captures_ofParts rest, ← flatMap_captures_branches]
      exact List.mem_append_right _ (List.mem_flatMap.mpr ⟨branch, inRest, inBranch⟩)

end Expression

end UriDispatch.Regex
