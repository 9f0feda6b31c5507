import UriDispatch.Proofs.Maps
import UriDispatch.Proofs.Pattern.Origins
import UriDispatch.Proofs.Regex.Portable
import UriDispatch.Proofs.Regex.Search

/-! What defaults do to the parameters of a match, after any number of changes. The last defaults
count. They neither help a URI to match nor keep it from that, and stand only where no group has
text. -/

namespace UriDispatch

/-! ## Captured parts -/

namespace Regex

def Captured.Within (size : Nat) (capture : Captured) : Prop :=
  capture.start ≤ capture.stop ∧ capture.stop ≤ size

theorem rounds_within {body : Passage} {size : Nat}
    (each : ∀ {start stop captured}, body start stop captured → start ≤ size →
      stop ≤ size ∧ ∀ capture ∈ captured, capture.Within size)
    {count start stop : Nat} {captured : List Captured}
    (way : body.rounds count start stop captured) (fits : start ≤ size) :
    ∀ capture ∈ captured, capture.Within size := by
  induction count generalizing start captured with
  | zero =>
      rw [way.2]
      exact List.forall_mem_nil _
  | succ count induction =>
      rcases way with ⟨middle, before, after, first, rest, rfl⟩
      have inFirst := each first fits
      rw [List.forall_mem_append]
      exact ⟨induction rest inFirst.1, inFirst.2⟩

theorem captured_within {text : Array Char} {expression : Expression} {start stop : Nat}
    {captured : List Captured} (way : expression.Way text start stop captured)
    (fits : start ≤ text.size) : ∀ capture ∈ captured, capture.Within text.size := by
  induction expression generalizing start stop captured with
  | empty =>
      rw [way.2]
      exact List.forall_mem_nil _
  | step set =>
      rw [way.2.2]
      exact List.forall_mem_nil _
  | test condition =>
      rw [way.2.2]
      exact List.forall_mem_nil _
  | capture index body induction =>
      rcases way with ⟨inner, through, rfl⟩
      rw [List.forall_mem_cons]
      exact ⟨⟨way_forward through, way_le through fits⟩, induction through fits⟩
  | follow first second left right =>
      rcases way with ⟨middle, before, after, through, rest, rfl⟩
      rw [List.forall_mem_append]
      exact ⟨right rest (way_le through fits), left through fits⟩
  | orElse first second left right =>
      rcases way with way | way
      · exact left way fits
      · exact right way fits
  | repetition least most greedy body induction =>
      rcases way with ⟨count, _, _, through⟩
      apply rounds_within _ through fits
      intro start stop captured step inside
      exact ⟨way_le step inside, induction step inside⟩

theorem capture?_within {regex : Regex} {text : List Char} {found : Match}
    (success : regex.find? text = some found) {index start stop : Nat}
    (captured : found.capture? index = some (start, stop)) :
    start ≤ stop ∧ stop ≤ text.length := by
  rcases Option.map_eq_some_iff.mp captured with ⟨capture, first, equal⟩
  cases equal
  have sound := find?_sound success
  exact captured_within sound.2 sound.1 capture (List.mem_of_find?_eq_some first)

end Regex

/-! ## Overlays -/

def Stands (text : List Char) (start stop : Nat) (part : List Char) : Prop :=
  ∃ front back, text = front ++ part ++ back ∧
    start = front.length ∧ stop = front.length + part.length

theorem stands_take_drop {text : List Char} {start stop : Nat} (forward : start ≤ stop)
    (within : stop ≤ text.length) :
    Stands text start stop ((text.drop start).take (stop - start)) := by
  refine ⟨text.take start, (text.drop start).drop (stop - start), ?_, ?_, ?_⟩
  · rw [List.append_assoc, List.take_append_drop, List.take_append_drop]
  · rw [List.length_take]
    omega
  · rw [List.length_take, List.length_take, List.length_drop]
    omega

namespace Capture

/-- The parameters of a match under defaults. The group of a declared name is the one with the
number of the name, where numbers begin with one. -/
structure Overlays (capture : Capture) (defaults : Defaults) (uri : List Char)
    (found : Regex.Match) (params : Params) : Prop where
  mem_keys_iff : ∀ name, name ∈ params.keys ↔ name ∈ capture.names ∨ name ∈ defaults.keys
  took_part : ∀ index name, capture.names[index]? = some name →
    ∀ start stop, found.capture? (index + 1) = some (start, stop) →
      ∃ text : String, Stands uri start stop text.toList ∧ params.get? name = some (some text)
  left_out : ∀ index name, capture.names[index]? = some name →
    found.capture? (index + 1) = none → params.get? name = some (defaults.get? name)
  passed_on : ∀ name, name ∉ capture.names →
    params.get? name = (defaults.get? name).map some
  any_order : ∀ order : List (String × String), order.Perm defaults.entries →
    ((Params.absent capture.names).insertMany
      (order.map fun entry => (entry.1, some entry.2))).insertMany
        (capture.captured uri found) = params

theorem foldl_setDefaults (capture : Capture) (history : List Defaults) :
    history.foldl setDefaults capture =
      capture.setDefaults (history.getLast?.getD capture.defaults) := by
  induction history generalizing capture with
  | nil => rfl
  | cons defaults later induction =>
      rw [List.foldl_cons, induction, List.getLast?_cons]
      rfl

theorem overlay_of_perm {defaults : Defaults} {order : List (String × String)}
    (perm : order.Perm defaults.entries) (params : Params) :
    params.insertMany (order.map fun entry => (entry.1, some entry.2)) =
      params.overlay defaults := by
  apply SortedMap.insertMany_perm params (perm.map _)
  rw [List.map_map]
  exact defaults.nodup_keys

theorem overlays_params {capture : Capture} (distinct : capture.names.Nodup)
    (defaults : Defaults) {uri : List Char} {found : Regex.Match}
    (success : capture.compiled.regex.find? uri = some found) :
    Overlays capture defaults uri found ((capture.setDefaults defaults).params uri found) := by
  have distinctAfter : (capture.setDefaults defaults).names.Nodup := distinct
  have ofName {index : Nat} {name : String} (named : capture.names[index]? = some name) :
      ((capture.setDefaults defaults).params uri found).get? name =
        some ((textOf? uri found (index + 1)).or (defaults.get? name)) :=
    get?_params_of_name distinctAfter named
  have ofOther {name : String} (other : name ∉ capture.names) :
      ((capture.setDefaults defaults).params uri found).get? name =
        (defaults.get? name).map some :=
    get?_params_of_other distinctAfter other
  constructor
  · intro name
    rw [SortedMap.mem_keys_iff, SortedMap.mem_keys_iff]
    by_cases declared : name ∈ capture.names
    · rcases List.mem_iff_getElem?.mp declared with ⟨index, named⟩
      rw [ofName named]
      exact iff_of_true rfl (.inl declared)
    · rw [ofOther declared, Option.isSome_map]
      exact (or_iff_right declared).symm
  · intro index name named start stop captured
    have within := Regex.capture?_within success captured
    refine ⟨String.ofList ((uri.drop start).take (stop - start)), ?_, ?_⟩
    · rw [String.toList_ofList]
      exact stands_take_drop within.1 within.2
    · rw [ofName named, textOf?, captured]
      rfl
  · intro index name named leftOut
    rw [ofName named, textOf?, leftOut]
    rfl
  · intro name other
    exact ofOther other
  · intro order perm
    rw [overlay_of_perm perm]
    rfl

structure Defaulted (capture after : Capture) (defaults : Defaults) (uri : String) : Prop where
  isSome_iff : (after.exec uri).value.isSome ↔ after.isMatch uri
  isMatch_eq : after.isMatch uri = capture.isMatch uri
  overlays : ∀ params, (after.exec uri).value = some params →
    ∃ found, capture.compiled.regex.find? uri.toList = some found ∧
      Overlays capture defaults uri.toList found params

/-- Whatever defaults are set one after the other, a URI matches or not as it does without them.
The parameters of a match are the text of the groups that took part, over the last defaults, over
nothing for each other declared name. -/
theorem exec_overlays {pattern : String} {fragments : Fragments} {capture : Capture}
    (succeeds : (compile pattern fragments).value = .ok capture) (history : List Defaults)
    (uri : String) :
    Defaulted capture (history.foldl setDefaults capture) (history.getLast?.getD .empty) uri := by
  rw [value_compile] at succeeds
  rcases Regex.ok_of_map succeeds with ⟨compiled, compiles, rfl⟩
  rcases Pattern.compilesBy_of_compile compiles with ⟨tree, compilation⟩
  have distinct : (Capture.names ⟨compiled, .empty⟩).Nodup :=
    (Pattern.source_trace compilation.built).2.2
  rw [foldl_setDefaults]
  let after := Capture.setDefaults ⟨compiled, .empty⟩ (history.getLast?.getD .empty)
  have executes : (after.exec uri).value =
      (compiled.regex.find? uri.toList).map (after.params uri.toList) :=
    value_exec after uri
  constructor
  · rw [executes, Option.isSome_map]
    rfl
  · rfl
  · intro params executed
    rw [executes] at executed
    rcases Option.map_eq_some_iff.mp executed with ⟨found, success, rfl⟩
    exact ⟨found, success, overlays_params distinct _ success⟩

theorem exec_overlays_of_section : ∃ capture params,
    (compile "/<foo>(/<bar>)" (.ofList [("foo", "x*")])).value = .ok capture ∧
    let history : List Defaults :=
      [.ofList [("lang", "en")], .ofList [("foo", "y"), ("bar", "z"), ("page", "1")]]
    let after := history.foldl setDefaults capture
    (after.exec "/").value = some params ∧
    params.entries = [("bar", some "z"), ("foo", some ""), ("page", some "1")] ∧
    Defaulted capture after (history.getLast?.getD .empty) "/" := by
  let history : List Defaults :=
    [.ofList [("lang", "en")], .ofList [("foo", "y"), ("bar", "z"), ("page", "1")]]
  have result : (compile "/<foo>(/<bar>)" (.ofList [("foo", "x*")])).value.toOption.map
      (fun capture => ((history.foldl setDefaults capture).exec "/").value.map (·.entries)) =
        some (some [("bar", some "z"), ("foo", some ""), ("page", some "1")]) := by
    decide +kernel
  cases succeeds : (compile "/<foo>(/<bar>)" (.ofList [("foo", "x*")])).value with
  | error error =>
      rw [succeeds] at result
      cases result
  | ok capture =>
      rw [succeeds] at result
      rcases Option.map_eq_some_iff.mp (Option.some.inj result) with ⟨params, executed, entries⟩
      exact ⟨capture, params, rfl, executed, entries, exec_overlays succeeds history "/"⟩

end Capture

end UriDispatch
