import UriDispatch.Proofs.Pattern.Language
import UriDispatch.Proofs.Regex.MarkedRuns

/-! What demotion does to the texts that a fragment matches. It goes through the fragment by rules of
its own, which are simpler than those of regular expressions. Where it marks only parentheses that open
a capture, the fragment matches the same texts as before. -/

namespace UriDispatch.Fragment

open Regex (Expression Marks Place)

/-! ## Marked places -/

def marksFrom : Context → List Char → List Place
  | _, [] => []
  | _, ['\\'] => []
  | context, '\\' :: _ :: rest =>
      marksFrom (if context = .outside then .outside else .inClass) rest
  | .outside, '[' :: rest => marksFrom .classStart rest
  | .outside, '(' :: rest =>
      if rest.head? = some '?' then marksFrom .outside rest
      else (rest.length + 1) :: marksFrom .outside rest
  | .outside, _ :: rest => marksFrom .outside rest
  | .classStart, '^' :: rest => marksFrom .afterNegation rest
  | .inClass, ']' :: rest => marksFrom .outside rest
  | _, _ :: rest => marksFrom .inClass rest

theorem marks_of_demoteFrom {depth : Nat} {context : Context} {input demoted : List Char}
    (demotes : demoteFrom depth context input = some demoted) :
    Marks (· ∈ marksFrom context input) input demoted := by
  fun_induction demoteFrom depth context input generalizing demoted with
  | case1 =>
      cases demotes
      exact .nil
  | case2 => cases demotes
  | case3 =>
      cases demotes
      exact .cons _ .nil
  | case4 => cases demotes
  | case5 depth context escaped rest =>
      rename_i induction
      obtain ⟨others, found, rfl⟩ := Option.map_eq_some_iff.mp demotes
      rw [marksFrom]
      exact .cons _ (.cons _ (induction found))
  | case6 depth rest induction =>
      obtain ⟨others, found, rfl⟩ := Option.map_eq_some_iff.mp demotes
      rw [marksFrom]
      exact .cons _ (induction found)
  | case7 depth rest mark =>
      rename_i induction
      obtain ⟨others, found, rfl⟩ := Option.map_eq_some_iff.mp demotes
      rw [marksFrom]
      by_cases marked : rest.head? = some '?'
      · simp only [mark, if_pos marked]
        exact .cons _ (induction found)
      · simp only [mark, if_neg marked]
        exact .mark List.mem_cons_self
          ((induction found).mono fun _ _ member => List.mem_cons_of_mem _ member)
  | case8 => cases demotes
  | case9 rest depth induction =>
      obtain ⟨others, found, rfl⟩ := Option.map_eq_some_iff.mp demotes
      rw [marksFrom]
      · exact .cons _ (induction found)
      all_goals simp
  | case10 depth character rest notLast notEscape notBracket notOpening notClosing induction =>
      obtain ⟨others, found, rfl⟩ := Option.map_eq_some_iff.mp demotes
      rw [marksFrom]
      · exact .cons _ (induction found)
      all_goals assumption
  | case11 depth rest induction =>
      obtain ⟨others, found, rfl⟩ := Option.map_eq_some_iff.mp demotes
      rw [marksFrom]
      exact .cons _ (induction found)
  | case12 depth rest induction =>
      obtain ⟨others, found, rfl⟩ := Option.map_eq_some_iff.mp demotes
      rw [marksFrom]
      exact .cons _ (induction found)
  | case13 depth context character rest =>
      rename_i induction
      obtain ⟨others, found, rfl⟩ := Option.map_eq_some_iff.mp demotes
      rw [marksFrom]
      · exact .cons _ (induction found)
      all_goals assumption

/-- Each parenthesis that gets a mark opens a capture without a name, as regular expressions are read.
None is a member of a class, for instance. -/
def MarksOpenings (fragment : List Char) : Prop :=
  ∀ place ∈ marksFrom .outside fragment, place ∈ Regex.openings (.initial fragment) fragment

instance (fragment : List Char) : Decidable (MarksOpenings fragment) :=
  inferInstanceAs (Decidable (∀ place ∈ marksFrom .outside fragment,
    place ∈ Regex.openings (.initial fragment) fragment))

/-! ## Meanings -/

/-- A fragment that is marked at openings only is well formed after demotion as well, and matches the
same texts from end to end. -/
theorem matches_demoted {fragment demoted : List Char} {expression : Expression}
    (meant : Regex.meaning fragment = .ok expression) (demotes : demote fragment = some demoted)
    (agrees : MarksOpenings fragment) :
    ∃ other, Regex.meaning demoted = .ok other ∧
      ∀ text, (other.whole.find? text).isSome ↔ (expression.whole.find? text).isSome := by
  have marks : Marks (· ∈ Regex.openings (.initial fragment) fragment) fragment demoted :=
    (marks_of_demoteFrom demotes).mono fun place _ => agrees place
  obtain ⟨other, meantToo, same⟩ := Regex.meaning_marks marks meant
  refine ⟨other, meantToo, fun text => ?_⟩
  rw [Pattern.isSome_find?_whole, Pattern.isSome_find?_whole]
  exact (same text.toArray 0 text.length).symm

theorem matches_demoted_of_choice : ∃ expression,
    Regex.meaning "((a)|b)[(]".toList = .ok expression ∧
    demote "((a)|b)[(]".toList = some "(?:(?:a)|b)[(]".toList ∧
    MarksOpenings "((a)|b)[(]".toList ∧
    ∃ other, Regex.meaning "(?:(?:a)|b)[(]".toList = .ok other ∧
      ∀ text, (other.whole.find? text).isSome ↔ (expression.whole.find? text).isSome := by
  have meant : Regex.meaning "((a)|b)[(]".toList = .ok
      (.follow
        (.capture 1 (.orElse (.capture 2 (.step (.singleton 'a'))) (.step (.singleton 'b'))))
        (.step (.singleton '('))) := by decide +kernel
  have demotes : demote "((a)|b)[(]".toList = some "(?:(?:a)|b)[(]".toList := by decide +kernel
  have agrees : MarksOpenings "((a)|b)[(]".toList := by decide +kernel
  exact ⟨_, meant, demotes, agrees, matches_demoted meant demotes agrees⟩

/-- A class may hold another one, behind which demotion takes its parentheses for a group. The mark
adds a question mark and a colon to the class. -/
theorem nested_class_widened :
    demote "[[a](b)]".toList = some "[[a](?:b)]".toList ∧
    (Regex.meaning "[[a](b)]".toList).toOption.map
      (fun expression => (expression.whole.find? "?".toList).isSome) = some false ∧
    (Regex.meaning "[[a](?:b)]".toList).toOption.map
      (fun expression => (expression.whole.find? "?".toList).isSome) = some true := by
  refine ⟨?_, ?_, ?_⟩ <;> decide +kernel

end UriDispatch.Fragment
