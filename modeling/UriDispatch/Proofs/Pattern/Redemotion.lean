import UriDispatch.Proofs.Maps
import UriDispatch.Proofs.Pattern.Grammar
import UriDispatch.Proofs.Pattern.Translation

/-! Demotion once more. A fragment that has been demoted stays as it is, so a pattern is compiled to
the same with it as with the fragment that it came from. -/

namespace UriDispatch.Fragment

/-! ## Demoted fragments -/

theorem Derives.head?_eq {region : Region} {text marked : List Char}
    (derives : Derives region text marked) : marked.head? = text.head? := by
  cases derives with
  | nothing | character | escape | backslash | unclosed => rfl
  | bracketed isClass => cases isClass; rfl
  | @group _ body =>
      unfold opening
      split <;> rfl

theorem Derives.demoted {region : Region} {text marked : List Char}
    (derives : Derives region text marked) : Derives region marked marked := by
  induction derives with
  | nothing region => exact .nothing region
  | character ordinary more induction => exact .character ordinary induction
  | escape letter more induction => exact .escape letter induction
  | backslash => exact .backslash
  | bracketed isClass more induction => exact .bracketed isClass induction
  | unclosed neverCloses => exact .unclosed neverCloses
  | @group region body inside rest marked within more inner outer =>
      by_cases hasMark : body.head? = some '?'
      · have keeps : opening inside = ['('] := by rw [opening, within.head?_eq, if_pos hasMark]
        have whole := Derives.group inner outer
        rw [keeps] at whole
        rwa [opening, if_pos hasMark]
      · have begins : Derives .inGroup ('?' :: ':' :: inside) ('?' :: ':' :: inside) :=
          .character rfl (.character rfl inner)
        rw [opening, if_neg hasMark]
        exact .group begins outer

theorem demote_demoted {fragment demoted : List Char} (demotes : demote fragment = some demoted) :
    demote demoted = some demoted := by
  rw [demote_eq_some_iff] at demotes ⊢
  exact demotes.demoted

end UriDispatch.Fragment

namespace UriDispatch.Pattern

/-! ## Replaced fragments -/

def Predemoted (fragments others : Fragments) : Prop :=
  ∀ name, others.get? name = fragments.get? name ∨
    ∃ fragment demoted, fragments.get? name = some fragment ∧
      Fragment.demote fragment.toList = some demoted ∧
        others.get? name = some (String.ofList demoted)

namespace Predemoted

variable {fragments others : Fragments} (predemoted : Predemoted fragments others)

include predemoted

theorem groupBody_eq (name : String) : groupBody others name = groupBody fragments name := by
  rcases predemoted name with same | ⟨fragment, demoted, given, demotes, replaced⟩
  · rw [groupBody, groupBody, same]
  · have again := Fragment.demote_demoted demotes
    rw [groupBody, groupBody, given, replaced]
    simp only [String.toList_ofList, demotes, again]

theorem keys_eq : others.keys = fragments.keys := by
  apply SortedMap.keys_congr
  intro name
  rcases predemoted name with same | ⟨fragment, demoted, given, _, replaced⟩
  · rw [same]
  · rw [given, replaced]
    rfl

theorem compile_eq (pattern : String) : compile pattern others = compile pattern fragments := by
  have sources : source pattern others = source pattern fragments :=
    source_of_groupBody fun name _ => predemoted.groupBody_eq name
  unfold compile undeclared
  rw [sources, predemoted.keys_eq]

end Predemoted

theorem predemoted_insert {fragments : Fragments} {name fragment : String} {demoted : List Char}
    (given : fragments.get? name = some fragment)
    (demotes : Fragment.demote fragment.toList = some demoted) :
    Predemoted fragments (fragments.insert name (String.ofList demoted)) := by
  intro other
  rw [SortedMap.get?_insert]
  by_cases same : other = name
  · subst same
    rw [if_pos rfl]
    exact .inr ⟨fragment, demoted, given, demotes, rfl⟩
  · rw [if_neg same]
    exact .inl rfl

/-- Demotion changes nothing in a fragment that it has been through, and compiling a pattern, with
all that is reported on the way, does not tell one that has been from one that has not. -/
theorem compile_predemoted {fragments : Fragments} {name fragment : String} {demoted : List Char}
    (given : fragments.get? name = some fragment)
    (demotes : Fragment.demote fragment.toList = some demoted) (pattern : String) :
    Fragment.demote demoted = some demoted ∧
    compile pattern (fragments.insert name (String.ofList demoted)) = compile pattern fragments ∧
    ∀ others, Predemoted fragments others →
      compile pattern others = compile pattern fragments := by
  refine ⟨Fragment.demote_demoted demotes, ?_, ?_⟩
  · exact (predemoted_insert given demotes).compile_eq pattern
  · intro others predemoted
    exact predemoted.compile_eq pattern

theorem compile_predemoted_of_group :
    (SortedMap.ofList [("a", "(x|[^](]y)")]).get? "a" = some "(x|[^](]y)" ∧
    Fragment.demote "(x|[^](]y)".toList = some "(?:x|[^](]y)".toList ∧
    Fragment.demote "(?:x|[^](]y)".toList = some "(?:x|[^](]y)".toList ∧
    compile "/<a>" ((SortedMap.ofList [("a", "(x|[^](]y)")]).insert "a" "(?:x|[^](]y)") =
      compile "/<a>" (.ofList [("a", "(x|[^](]y)")]) := by
  have given : (SortedMap.ofList [("a", "(x|[^](]y)")]).get? "a" = some "(x|[^](]y)" := by
    decide +kernel
  have demotes : Fragment.demote "(x|[^](]y)".toList = some "(?:x|[^](]y)".toList := by
    decide +kernel
  have outcome := compile_predemoted given demotes "/<a>"
  rw [String.ofList_toList] at outcome
  exact ⟨given, demotes, outcome.1, outcome.2.1⟩

end UriDispatch.Pattern
