import UriDispatch.Capture
import UriDispatch.Proofs.Pattern.Compiled
import UriDispatch.Proofs.Regex.Anchoring

/-! What the anchors around a source bind. They are written next to the text of the pattern, not
around a group, so that they may belong to a part of it only. -/

namespace UriDispatch.Pattern

theorem source_anchored {pattern : String} {fragments : Fragments} {text : String}
    {names : List String} (built : source pattern fragments = .ok (text, names)) :
    ∃ body, text.toList = '^' :: body ++ ['$'] := by
  rcases Regex.ok_of_map built with ⟨⟨body, all⟩, _, equal⟩
  cases equal
  exact ⟨body, String.toList_ofList⟩

/-- The source of a pattern is anchored at both ends, but what it finds in a URI covers the URI just
if the expression finds the same when it is anchored as a whole; for all URIs at once, just if both
find the same in each. It does so if all alternatives are seen to be anchored. -/
theorem exec_spans_iff {pattern : String} {fragments : Fragments} {capture : Capture}
    (succeeds : (Capture.compile pattern fragments).value = .ok capture) :
    (∃ body, capture.source.toList = '^' :: body ++ ['$'] ∧
      Regex.meaning ('^' :: body ++ ['$']) = .ok capture.compiled.regex.expression) ∧
    (∀ uri params, (capture.exec uri).value = some params →
      ∃ found, capture.compiled.regex.find? uri.toList = some found ∧
        (found.Spans uri.toList ↔
          capture.compiled.regex.expression.whole.find? uri.toList = some found)) ∧
    ((∀ uri found, capture.compiled.regex.find? uri = some found → found.Spans uri) ↔
      ∀ uri, capture.compiled.regex.find? uri =
        capture.compiled.regex.expression.whole.find? uri) ∧
    (capture.compiled.regex.expression.startsAtText →
      capture.compiled.regex.expression.endsAtText →
        ∀ uri found, capture.compiled.regex.find? uri = some found → found.Spans uri) := by
  refine ⟨?_, ?_, Regex.spans_iff_whole_everywhere _, ?_⟩
  · simp only [Capture.compile, Logged.value_bind, Logged.value_pure] at succeeds
    rcases Regex.ok_of_map succeeds with ⟨compiled, compiles, rfl⟩
    rcases compilesBy_of_compile compiles with ⟨tree, compilation⟩
    rcases source_anchored compilation.built with ⟨body, anchored⟩
    rcases compilation.meant with ⟨after, meant⟩
    refine ⟨body, anchored, ?_⟩
    rw [← anchored, Regex.meaning, compilation.parsed]
    simp only [meant]
    rfl
  · intro uri params executed
    unfold Capture.exec at executed
    split at executed
    · cases executed
    · next found success => exact ⟨found, success, Regex.spans_iff_whole success⟩
  · intro starts ends uri found success
    exact Regex.spans_of_anchored success starts ends

theorem exec_spans_iff_of_bar : (∃ capture,
    (Capture.compile "/a|/b" .empty).value = .ok capture ∧
    (∃ body, capture.source.toList = '^' :: body ++ ['$'] ∧
      Regex.meaning ('^' :: body ++ ['$']) = .ok capture.compiled.regex.expression) ∧
    (∀ uri params, (capture.exec uri).value = some params →
      ∃ found, capture.compiled.regex.find? uri.toList = some found ∧
        (found.Spans uri.toList ↔
          capture.compiled.regex.expression.whole.find? uri.toList = some found)) ∧
    ((∀ uri found, capture.compiled.regex.find? uri = some found → found.Spans uri) ↔
      ∀ uri, capture.compiled.regex.find? uri =
        capture.compiled.regex.expression.whole.find? uri) ∧
    (capture.compiled.regex.expression.startsAtText →
      capture.compiled.regex.expression.endsAtText →
        ∀ uri found, capture.compiled.regex.find? uri = some found → found.Spans uri)) ∧
    ∃ capture,
      (Capture.compile "/<foo>(/<bar>)" (.ofList [("foo", "x+"), ("bar", "y")])).value =
        .ok capture ∧
      capture.compiled.regex.expression.startsAtText ∧
      capture.compiled.regex.expression.endsAtText ∧
      (capture.exec "/xx/y").value.isSome ∧
      ∀ uri found, capture.compiled.regex.find? uri = some found → found.Spans uri := by
  have bar : (Capture.compile "/a|/b" .empty).value = .ok
      { compiled :=
          { pattern := "/a|/b"
            regex := ⟨"^/a|/b$", .orElse
              (.follow (.test .startOfText)
                (.follow (.step (.singleton '/')) (.step (.singleton 'a'))))
              (.follow (.step (.singleton '/'))
                (.follow (.step (.singleton 'b')) (.test .endOfText)))⟩
            names := [] }
        defaults := .empty } := by decide +kernel
  have anchored :
      (Capture.compile "/<foo>(/<bar>)" (.ofList [("foo", "x+"), ("bar", "y")])).value = .ok
      { compiled :=
          { pattern := "/<foo>(/<bar>)"
            regex := ⟨"^/(x+)(?:/(y))?$", .follow (.test .startOfText)
              (.follow (.step (.singleton '/')) (.follow
                (.capture 1 (.repetition 1 none true (.step (.singleton 'x'))))
                (.follow
                  (.repetition 0 (some 1) true
                    (.follow (.step (.singleton '/')) (.capture 2 (.step (.singleton 'y')))))
                  (.test .endOfText))))⟩
            names := ["foo", "bar"] }
        defaults := .empty } := by decide +kernel
  have spans := (exec_spans_iff anchored).2.2.2 (by decide) (by decide)
  exact ⟨⟨_, bar, exec_spans_iff bar⟩,
    _, anchored, by decide, by decide, by decide +kernel, spans⟩

/-- A bar takes the anchor at the end away from the alternatives before it. -/
theorem bar_leaves_rest :
    (Capture.compile "/a|/b" .empty).value.toOption.map (fun capture =>
        (capture.compiled.regex.find? "/axx".toList, (capture.exec "/axx").value.isSome,
          capture.compiled.regex.expression.whole.find? "/axx".toList)) =
      some (some ⟨0, 2, []⟩, true, none) ∧
    ¬Regex.Match.Spans ⟨0, 2, []⟩ "/axx".toList := by
  refine ⟨?_, ?_⟩ <;> decide +kernel

end UriDispatch.Pattern
