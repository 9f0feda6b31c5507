import UriDispatch.Pattern.Compile
import UriDispatch.Proofs.Regex.Rests

/-! What is known of a pattern that has been compiled. -/

namespace UriDispatch.Pattern

structure CompilesBy (pattern : String) (fragments : Fragments) (compiled : CompiledPattern)
    (tree : Regex.Tree) : Prop where
  pattern_eq : compiled.pattern = pattern
  built : source pattern fragments = .ok (compiled.regex.source, compiled.names)
  parsed : Regex.parse compiled.regex.source.toList = .ok tree
  meant : ∃ after, tree.meaning {} = .ok (compiled.regex.expression, after)
  counted : compiled.regex.captureCount = compiled.names.length

theorem regex_compile_ok {source : String} {regex : Regex}
    (compiled : Regex.compile source = .ok regex) :
    regex.source = source ∧ ∃ tree, Regex.parse source.toList = .ok tree ∧
      ∃ after, tree.meaning {} = .ok (regex.expression, after) := by
  unfold Regex.compile at compiled
  split at compiled
  · cases compiled
  · next expression meant =>
      split at compiled
      · cases compiled
      · cases compiled
        refine ⟨rfl, ?_⟩
        unfold Regex.meaning at meant
        split at meant
        · cases meant
        · next tree parsed =>
            obtain ⟨⟨found, after⟩, whole, equal⟩ := Regex.ok_of_map meant
            cases equal
            exact ⟨tree, parsed, after, whole⟩

theorem compilesBy_of_build {pattern : String} {fragments : Fragments} {text : String}
    {names : List String} {compiled : CompiledPattern}
    (built : source pattern fragments = .ok (text, names))
    (succeeds : build pattern text names = .ok compiled) :
    ∃ tree, CompilesBy pattern fragments compiled tree := by
  unfold build at succeeds
  split at succeeds
  · cases succeeds
  · next regex regexCompiled =>
      split at succeeds
      · next counted =>
          cases succeeds
          obtain ⟨rfl, tree, parsed, meant⟩ := regex_compile_ok regexCompiled
          exact ⟨tree, rfl, built, parsed, meant, counted⟩
      · cases succeeds

theorem compilesBy_of_compile {pattern : String} {fragments : Fragments}
    {compiled : CompiledPattern} (succeeds : (compile pattern fragments).value = .ok compiled) :
    ∃ tree, CompilesBy pattern fragments compiled tree := by
  unfold compile at succeeds
  split at succeeds
  · cases succeeds
  · next text names built =>
      rw [Logged.value_bind] at succeeds
      split at succeeds
      · cases succeeds
      · next found succeedsBuild =>
          cases succeeds
          exact compilesBy_of_build built succeedsBuild

end UriDispatch.Pattern
