import UriDispatch.Proofs.Parameters
import UriDispatch.Proofs.Pattern.OutlineWays

/-! What patterns of plain text, names and sections match: the texts that are written by taking or
leaving each section and by a text for each name that its fragment matches. -/

namespace UriDispatch.Pattern

open Regex (Captured Passage)

/-! ## What an outline writes -/

def Accepts (fragments : Fragments) (name : String) (value : List Char) : Prop :=
  ∃ expression, Regex.meaning (fragmentFor fragments name) = .ok expression ∧
    (expression.whole.find? value).isSome

namespace Outline

inductive Writes (accepts : String → List Char → Prop) :
    Outline → (values : List (String × List Char)) → (text : List Char) → Prop where
  | done : Writes accepts .done [] []
  | literal {character : Char} {plain : isLiteral character = true} {rest : Outline}
      {values : List (String × List Char)} {text : List Char}
      (others : Writes accepts rest values text) :
      Writes accepts (.literal character plain rest) values (character :: text)
  | token {letters value : List Char} {rest : Outline} {values : List (String × List Char)}
      {text : List Char} (accepted : accepts (String.ofList letters) value)
      (others : Writes accepts rest values text) :
      Writes accepts (.token letters rest) ((String.ofList letters, value) :: values)
        (value ++ text)
  | skipped {body rest : Outline} {values : List (String × List Char)} {text : List Char}
      (others : Writes accepts rest values text) :
      Writes accepts (.optional body rest) values text
  | taken {body rest : Outline} {inner values : List (String × List Char)}
      {before text : List Char} (inside : Writes accepts body inner before)
      (others : Writes accepts rest values text) :
      Writes accepts (.optional body rest) (inner ++ values) (before ++ text)

end Outline

/-! ## Parts of a text -/

def slice (text : List Char) (start stop : Nat) : List Char := (text.drop start).take (stop - start)

theorem slice_self (text : List Char) (place : Nat) : slice text place place = [] := by
  rw [slice, Nat.sub_self, List.take_zero]

theorem slice_append (text : List Char) {start middle stop : Nat} (first : start ≤ middle)
    (second : middle ≤ stop) :
    slice text start middle ++ slice text middle stop = slice text start stop := by
  have sizes : stop - start = (middle - start) + (stop - middle) := by omega
  rw [slice, slice, slice, sizes, List.take_add, List.drop_drop, Nat.add_sub_cancel' first]

theorem slice_succ {text : List Char} {place : Nat} {character : Char}
    (stands : text[place]? = some character) : slice text place (place + 1) = [character] := by
  rcases List.getElem?_eq_some_iff.mp stands with ⟨inside, rfl⟩
  rw [slice, Nat.add_sub_cancel_left, List.drop_eq_getElem_cons inside]
  rfl

theorem slice_of_append {front part back : List Char} :
    slice (front ++ (part ++ back)) front.length (front.length + part.length) = part := by
  rw [slice, Nat.add_sub_cancel_left, List.drop_left, List.take_left]

theorem length_slice {text : List Char} {start stop : Nat} (within : stop ≤ text.length) :
    (slice text start stop).length = stop - start := by
  rw [slice, List.length_take, List.length_drop]
  omega

theorem getElem?_slice {text : List Char} {start stop index : Nat} (inside : index < stop - start) :
    (slice text start stop)[index]? = text[start + index]? := by
  rw [slice, List.getElem?_take_of_lt inside, List.getElem?_drop]

/-! ## Fragments -/

theorem isSome_find?_whole (expression : Regex.Expression) (text : List Char) :
    (expression.whole.find? text).isSome ↔
      (expression.Way text.toArray).Takes 0 text.length := by
  constructor
  · intro success
    rcases Option.isSome_iff_exists.mp success with ⟨found, success⟩
    have way := Regex.find?_sound success
    rcases (Regex.way_whole way.1).mp way.2 with ⟨begins, ends, through⟩
    rw [begins, ends] at through
    exact ⟨_, through⟩
  · rintro ⟨captured, through⟩
    exact Regex.find?_complete (Nat.zero_le _)
      ((Regex.way_whole (Nat.zero_le _)).mpr ⟨rfl, rfl, through⟩)

/-- Within a text, the expression of a fragment goes just over the parts that the fragment by itself
matches. -/
def Agrees (fragments : Fragments) (uri : List Char) (name : String) : Prop :=
  ∀ start stop, start ≤ stop → stop ≤ uri.length →
    (((expressionFor fragments name).Way uri.toArray).Takes start stop ↔
      Accepts fragments name (slice uri start stop))

theorem Fits.agrees {fragments : Fragments} {name : String} (fits : Fits fragments name)
    (written : groupBody fragments name = .ok (groupText fragments name)) (uri : List Char) :
    Agrees fragments uri name := by
  intro start stop forward within
  rcases fits.tree with ⟨_, after, meant⟩
  have portable := Regex.Tree.portable_meaning (fits.unconditional written) meant
  have alike : Regex.Alike uri.toArray (slice uri start stop).toArray start 0 (stop - start) := by
    intro index inside
    rw [List.getElem?_toArray, List.getElem?_toArray, Nat.zero_add, getElem?_slice inside]
  have here : start + (stop - start) = stop := Nat.add_sub_cancel' forward
  have accepted : Accepts fragments name (slice uri start stop) ↔
      ((expressionFor fragments name).Way (slice uri start stop).toArray).Takes 0
        (0 + (stop - start)) := by
    rw [Nat.zero_add, ← length_slice within, ← isSome_find?_whole]
    constructor
    · rintro ⟨expression, found, success⟩
      rw [fits.meaning] at found
      cases found
      exact success
    · exact fun success => ⟨_, fits.meaning, success⟩
  rw [accepted]
  constructor
  · intro takes
    rw [← here] at takes
    exact portable _ _ _ _ _ alike takes
  · intro takes
    have back := portable _ _ _ _ _ (fun index inside => (alike index inside).symm) takes
    rwa [here] at back

namespace Outline

def valueOf (names : List String) (uri : List Char) (captured : Captured) : String × List Char :=
  (names[captured.index - 1]?.getD "", slice uri captured.start captured.stop)

/-- A way through an outline writes the part of the text that it takes, with the parts that are
captured as values. -/
theorem writes_of_passage {fragments : Fragments} {uri : List Char} {outline : Outline}
    (agrees : ∀ name ∈ outline.names, Agrees fragments uri name) {names earlier later : List String}
    {before : Nat} (count : earlier.length = before)
    (equal : names = earlier ++ (outline.names ++ later)) {start stop : Nat}
    {captured : List Captured} (within : start ≤ uri.length)
    (way : outline.passage fragments before uri.toArray start stop captured) :
    start ≤ stop ∧ stop ≤ uri.length ∧
      outline.Writes (Accepts fragments) (captured.reverse.map (valueOf names uri))
        (slice uri start stop) ∧
      (captured.reverse.map Captured.index).Sublist
        (List.range' (before + 1) outline.names.length) := by
  induction outline generalizing before earlier later start stop captured with
  | done =>
      rcases way with ⟨rfl, rfl⟩
      rw [slice_self]
      exact ⟨Nat.le_refl _, within, .done, List.nil_sublist _⟩
  | literal character plain rest induction =>
      rcases way with ⟨_, _, after, ⟨stands, rfl, rfl⟩, others, rfl⟩
      rw [List.getElem?_toArray] at stands
      have inside : start < uri.length := (List.getElem?_eq_some_iff.mp stands).1
      rcases induction agrees count equal inside others with ⟨forward, fits, writes, indices⟩
      rw [List.append_nil, ← slice_append uri (Nat.le_succ start) forward, slice_succ stands]
      exact ⟨Nat.le_of_succ_le forward, fits, .literal writes, indices⟩
  | token letters rest induction =>
      rw [Outline.names, List.forall_mem_cons] at agrees
      rcases way with ⟨middle, _, after, ⟨takes, rfl⟩, others, rfl⟩
      have begun : start ≤ middle := Regex.Expression.forward _ _ _ _ takes
      have inside : middle ≤ uri.length := by
        rcases takes with ⟨inner, through⟩
        exact Regex.way_le through within
      have accepted := (agrees.1 start middle begun inside).mp takes
      have equalRest : names = (earlier ++ [String.ofList letters]) ++ (rest.names ++ later) := by
        rw [equal, Outline.names, List.append_assoc]
        rfl
      have countRest : (earlier ++ [String.ofList letters]).length = before + 1 := by
        rw [List.length_append, count]
        rfl
      have own : valueOf names uri ⟨before + 1, start, middle⟩ =
          (String.ofList letters, slice uri start middle) := by
        rw [valueOf, Nat.add_sub_cancel, equal, ← count,
          List.getElem?_append_right (Nat.le_refl _), Nat.sub_self]
        rfl
      rcases induction agrees.2 countRest equalRest inside others with
        ⟨forward, fits, writes, indices⟩
      rw [List.reverse_append, List.map_append, List.map_append, ← slice_append uri begun forward]
      refine ⟨begun.trans forward, fits, ?_, indices.cons_cons _⟩
      change Outline.Writes _ _ (valueOf names uri ⟨before + 1, start, middle⟩ :: _) _
      rw [own]
      exact .token accepted writes
  | optional body rest inner outer =>
      rw [Outline.names, List.forall_mem_append] at agrees
      rcases way with ⟨middle, first, after, through, others, rfl⟩
      have equalBody : names = earlier ++ (body.names ++ (rest.names ++ later)) := by
        rw [equal, Outline.names, List.append_assoc]
      have equalRest : names = (earlier ++ body.names) ++ (rest.names ++ later) := by
        rw [equalBody, List.append_assoc]
      have countRest : (earlier ++ body.names).length = before + body.names.length := by
        rw [List.length_append, count]
      have all : List.range' (before + 1) (body.names ++ rest.names).length =
          List.range' (before + 1) body.names.length ++
            List.range' (before + body.names.length + 1) rest.names.length := by
        rw [List.length_append, ← List.range'_append_1, Nat.add_right_comm]
      rw [Outline.names, all]
      rcases through with ⟨rfl, rfl⟩ | through
      · rcases outer agrees.2 countRest equalRest within others with
          ⟨forward, fits, writes, indices⟩
        rw [List.append_nil]
        exact ⟨forward, fits, .skipped writes, indices.trans (List.sublist_append_right _ _)⟩
      · rcases inner agrees.1 count equalBody within through with
          ⟨begun, inside, taken, early⟩
        rcases outer agrees.2 countRest equalRest inside others with
          ⟨forward, fits, writes, late⟩
        rw [List.reverse_append, List.map_append, List.map_append, ← slice_append uri begun forward]
        exact ⟨begun.trans forward, fits, .taken taken writes, early.append late⟩

theorem passage_of_writes {fragments : Fragments} {uri : List Char} {outline : Outline}
    (agrees : ∀ name ∈ outline.names, Agrees fragments uri name)
    {values : List (String × List Char)} {text : List Char}
    (writes : outline.Writes (Accepts fragments) values text) (before : Nat)
    {front back : List Char} (equal : uri = front ++ (text ++ back)) :
    ∃ captured, outline.passage fragments before uri.toArray front.length
      (front.length + text.length) captured := by
  induction writes generalizing before front back with
  | done => exact ⟨[], rfl, rfl⟩
  | @literal character plain rest values text others induction =>
      have equalRest : uri = (front ++ [character]) ++ (text ++ back) := by
        rw [equal, List.append_assoc]
        rfl
      rcases induction agrees before equalRest with ⟨captured, way⟩
      rw [List.length_append] at way
      refine ⟨captured, front.length + 1, [], captured, ⟨?_, rfl, rfl⟩, ?_, (List.append_nil _).symm⟩
      · rw [equal, List.getElem?_toArray, List.getElem?_append_right (Nat.le_refl _), Nat.sub_self]
        rfl
      · rw [List.length_cons, Nat.add_comm text.length, ← Nat.add_assoc]
        exact way
  | @token letters value rest values text accepted others induction =>
      rw [Outline.names, List.forall_mem_cons] at agrees
      rw [List.append_assoc] at equal
      have equalRest : uri = (front ++ value) ++ (text ++ back) := by
        rw [equal, List.append_assoc]
      rcases induction agrees.2 (before + 1) equalRest with ⟨captured, way⟩
      rw [List.length_append] at way
      have within : front.length + value.length ≤ uri.length := by
        rw [equal, List.length_append, List.length_append]
        omega
      have takes := (agrees.1 front.length (front.length + value.length) (Nat.le_add_right _ _)
        within).mpr (by rwa [equal, slice_of_append])
      refine ⟨_, front.length + value.length, _, captured, ⟨takes, rfl⟩, ?_, rfl⟩
      rw [List.length_append, ← Nat.add_assoc]
      exact way
  | @skipped body rest values text others induction =>
      rw [Outline.names, List.forall_mem_append] at agrees
      rcases induction agrees.2 (before + body.names.length) equal with ⟨captured, way⟩
      exact ⟨captured, front.length, [], captured, .inl ⟨rfl, rfl⟩, way, (List.append_nil _).symm⟩
  | @taken body rest inner values early text inside others inductionBody inductionRest =>
      rw [Outline.names, List.forall_mem_append] at agrees
      rw [List.append_assoc] at equal
      have equalRest : uri = (front ++ early) ++ (text ++ back) := by
        rw [equal, List.append_assoc]
      rcases inductionBody agrees.1 before equal with ⟨first, through⟩
      rcases inductionRest agrees.2 (before + body.names.length) equalRest with ⟨second, way⟩
      rw [List.length_append] at way
      refine ⟨second ++ first, front.length + early.length, first, second, .inr through, ?_, rfl⟩
      rw [List.length_append, ← Nat.add_assoc]
      exact way

theorem Writes.names_sublist {accepts : String → List Char → Prop} {outline : Outline}
    {values : List (String × List Char)} {text : List Char}
    (writes : outline.Writes accepts values text) :
    (values.map Prod.fst).Sublist outline.names := by
  induction writes with
  | done => exact List.nil_sublist _
  | literal _ induction => exact induction
  | token _ _ induction => exact induction.cons_cons _
  | skipped _ induction => exact induction.trans (List.sublist_append_right _ _)
  | taken _ _ first second =>
      rw [List.map_append]
      exact first.append second

end Outline

/-! ## Parameters -/

theorem find?_reverse {Value : Type} {values : List Value} {condition : Value → Bool}
    (unique : ∀ value ∈ values, ∀ other ∈ values, condition value → condition other →
      value = other) : values.reverse.find? condition = values.find? condition := by
  cases found : values.find? condition with
  | none =>
      rw [List.find?_eq_none] at found ⊢
      exact fun value member => found value (List.mem_reverse.mp member)
  | some value =>
      cases foundReverse : values.reverse.find? condition with
      | none =>
          rw [List.find?_eq_none] at foundReverse
          exact absurd (List.find?_some found)
            (foundReverse value (List.mem_reverse.mpr (List.mem_of_find?_eq_some found)))
      | some other =>
          refine congrArg some (unique other ?_ value ?_ ?_ ?_)
          · exact List.mem_reverse.mp (List.mem_of_find?_eq_some foundReverse)
          · exact List.mem_of_find?_eq_some found
          · exact List.find?_some foundReverse
          · exact List.find?_some found

theorem filterMap_names {Value : Type} (value : String → Captured → Value) {names : List String}
    {offset : Nat} {captures : List Captured}
    (indices : (captures.map Captured.index).Sublist (List.range' (offset + 1) names.length)) :
    ((names.zipIdx offset).filterMap fun pair =>
        (captures.find? (·.index = pair.2 + 1)).map (value pair.1)) =
      captures.map fun capture => value (names[capture.index - 1 - offset]?.getD "") capture := by
  induction names generalizing offset captures with
  | nil =>
      have none : captures = [] := List.map_eq_nil_iff.mp (List.sublist_nil.mp indices)
      rw [none]
      rfl
  | cons name rest induction =>
      rw [List.length_cons, List.range'_succ, List.sublist_cons_iff] at indices
      have later {others : List Captured} (beyond : (others.map Captured.index).Sublist
          (List.range' (offset + 1 + 1) rest.length)) : ∀ capture ∈ others,
            offset + 1 < capture.index ∧
              (name :: rest)[capture.index - 1 - offset]? =
                rest[capture.index - 1 - (offset + 1)]? := by
        intro capture member
        have inRange := List.mem_range'_1.mp (beyond.subset (List.mem_map_of_mem member))
        have step : capture.index - 1 - offset = capture.index - 1 - (offset + 1) + 1 := by omega
        rw [step, List.getElem?_cons_succ]
        exact ⟨inRange.1, rfl⟩
      rw [List.zipIdx_cons]
      rcases indices with beyond | ⟨others, equal, beyond⟩
      · have missing : captures.find? (·.index = offset + 1) = none := by
          rw [List.find?_eq_none]
          intro capture member
          have past := (later beyond capture member).1
          simp only [decide_eq_true_eq]
          omega
        refine Eq.trans (List.filterMap_cons_none ?_) ?_
        · exact congrArg (Option.map (value name)) missing
        rw [induction beyond]
        exact List.map_congr_left fun capture member => by rw [(later beyond capture member).2]
      · rcases List.map_eq_cons_iff.mp equal with ⟨first, tail, rfl, index, rfl⟩
        have found : (first :: tail).find? (·.index = offset + 1) = some first :=
          List.find?_cons_of_pos (by rw [decide_eq_true_eq, index])
        have here : first.index - 1 - offset = 0 := by omega
        rw [List.map_cons, here]
        refine Eq.trans (List.filterMap_cons_some ?_) (congrArg (value name first :: ·) ?_)
        · exact congrArg (Option.map (value name)) found
        have behind : ∀ pair ∈ rest.zipIdx (offset + 1),
            ((first :: tail).find? (·.index = pair.2 + 1)).map (value pair.1) =
              (tail.find? (·.index = pair.2 + 1)).map (value pair.1) := by
          intro pair member
          have bound := List.le_snd_of_mem_zipIdx member
          have notFirst : ¬first.index = pair.2 + 1 := by omega
          rw [List.find?_cons_of_neg (by rw [decide_eq_true_eq]; exact notFirst)]
        rw [List.filterMap_congr behind, induction beyond]
        exact List.map_congr_left fun capture member => by rw [(later beyond capture member).2]

theorem captured_eq {capture : Capture} {uri : List Char} {found : Regex.Match}
    (indices : (found.captured.reverse.map Captured.index).Sublist
      (List.range' 1 capture.names.length)) :
    capture.captured uri found =
      (found.captured.reverse.map (Outline.valueOf capture.names uri)).map fun pair =>
        (pair.1, some (String.ofList pair.2)) := by
  have distinct := indices.nodup List.nodup_range'
  have backwards (index : Nat) : found.capture? index =
      (found.captured.reverse.find? (·.index = index)).map fun capture =>
        (capture.start, capture.stop) := by
    rw [Regex.Match.capture?, find?_reverse]
    intro first firstMember second secondMember isFirst isSecond
    rw [decide_eq_true_eq] at isFirst isSecond
    exact List.inj_on_of_nodup_map distinct (List.mem_reverse.mpr firstMember)
      (List.mem_reverse.mpr secondMember) (isFirst.trans isSecond.symm)
  rw [List.map_map]
  refine Eq.trans ?_ (filterMap_names (fun name capture =>
    (name, some (String.ofList (slice uri capture.start capture.stop)))) indices)
  refine List.filterMap_congr fun (name, index) _ => ?_
  change (found.capture? (index + 1)).map _ = _
  rw [backwards, Option.map_map]
  rfl

theorem get?_params {capture : Capture} (noDefaults : capture.defaults = .empty)
    (distinct : capture.names.Nodup) {uri : List Char} {found : Regex.Match}
    {values : List (String × List Char)} (within : (values.map Prod.fst).Sublist capture.names)
    (captured : capture.captured uri found =
      values.map fun pair => (pair.1, some (String.ofList pair.2))) (name : String) :
    (capture.params uri found).get? name =
      if name ∈ capture.names then some ((values.lookup name).map String.ofList) else none := by
  rw [Capture.get?_params distinct, captured,
    SortedMap.lookup_map (fun value => some (String.ofList value)), noDefaults,
    SortedMap.get?_empty, Option.map_none, Option.none_or]
  split
  · cases values.lookup name <;> rfl
  · next undeclared =>
      have missing : values.lookup name = none := by
        rw [SortedMap.lookup_eq_none_iff]
        intro member
        exact undeclared (within.subset member)
      rw [missing]
      rfl

/-! ## Matches -/

theorem isPlain_default : Fragment.isPlain Fragment.default := by decide

theorem exists_of_isOk {Error Value : Type} {result : Except Error Value} (known : result.isOk) :
    ∃ value, result = .ok value := by
  cases result with
  | error => cases known
  | ok value => exact ⟨value, rfl⟩

theorem meaning_default : ∃ expression, Regex.meaning Fragment.default = .ok expression :=
  exists_of_isOk (by decide +kernel)

theorem fits_of_given {fragments : Fragments} {name : String}
    (given : ∀ fragment, fragments.get? name = some fragment →
      Fragment.isPlain fragment.toList ∧
        ∃ expression, Regex.meaning fragment.toList = .ok expression) : Fits fragments name := by
  cases found : fragments.get? name with
  | none =>
      have default : fragmentFor fragments name = Fragment.default := by
        rw [fragmentFor, found]
        rfl
      constructor
      · rw [default]
        exact isPlain_default
      · rw [default]
        exact meaning_default
  | some fragment =>
      have own : fragmentFor fragments name = fragment.toList := by
        rw [fragmentFor, found]
        rfl
      have known := given fragment found
      constructor
      · rw [own]
        exact known.1
      · rw [own]
        exact known.2

theorem writes_of_find? {pattern : String} {fragments : Fragments} {outline : Outline}
    {compiled : CompiledPattern} {tree : Regex.Tree}
    (meant : pieces pattern.toList = outline.pieces)
    (fits : ∀ name ∈ outline.names, Fits fragments name)
    (compilation : CompilesBy pattern fragments compiled tree) {uri : List Char}
    {found : Regex.Match} (success : compiled.regex.find? uri = some found) :
    outline.Writes (Accepts fragments)
        (found.captured.reverse.map (Outline.valueOf compiled.names uri)) uri ∧
      (found.captured.reverse.map Captured.index).Sublist
        (List.range' 1 compiled.names.length) := by
  rcases Outline.source_text meant compilation.built with ⟨_, names, _, bodies⟩
  have way := Regex.find?_sound success
  rcases (Outline.way_expression meant fits compilation way.1).mp way.2 with
    ⟨begins, ends, through⟩
  rw [begins, ends] at through
  have equal : compiled.names = [] ++ (outline.names ++ []) := by
    rw [names, List.nil_append, List.append_nil]
  have agrees : ∀ name ∈ outline.names, Agrees fragments uri name :=
    fun name member => (fits name member).agrees (bodies name member) uri
  rcases Outline.writes_of_passage agrees List.length_nil equal (Nat.zero_le _) through with
    ⟨_, _, writes, indices⟩
  have whole : slice uri 0 uri.toArray.size = uri := by
    rw [slice, List.drop_zero, List.size_toArray, Nat.sub_zero, List.take_length]
  rw [whole] at writes
  rw [← names] at indices
  exact ⟨writes, indices⟩

/-- A pattern of plain text, names and sections, with plain fragments for the names, matches just
the URIs that its outline writes, and the parameters are the values by which it does so. -/
theorem exec_iff_writes {pattern : String} {fragments : Fragments} {outline : Outline}
    (meant : pieces pattern.toList = outline.pieces)
    (given : ∀ name ∈ outline.names, ∀ fragment, fragments.get? name = some fragment →
      Fragment.isPlain fragment.toList ∧
        ∃ expression, Regex.meaning fragment.toList = .ok expression)
    {capture : Capture} (succeeds : (Capture.compile pattern fragments).value = .ok capture)
    (uri : String) :
    ((capture.exec uri).value.isSome ↔
      ∃ values, outline.Writes (Accepts fragments) values uri.toList) ∧
    ∀ params, (capture.exec uri).value = some params →
      ∃ values, outline.Writes (Accepts fragments) values uri.toList ∧
        ∀ name, params.get? name =
          if name ∈ outline.names then some ((values.lookup name).map String.ofList) else none := by
  rw [Capture.value_compile] at succeeds
  rcases Regex.ok_of_map succeeds with ⟨compiled, compiles, rfl⟩
  rcases compilesBy_of_compile compiles with ⟨tree, compilation⟩
  rcases Outline.source_text meant compilation.built with ⟨_, names, distinct, bodies⟩
  have fits : ∀ name ∈ outline.names, Fits fragments name :=
    fun name member => fits_of_given (given name member)
  refine ⟨⟨?_, ?_⟩, ?_⟩
  · intro executed
    rw [Capture.value_exec, Option.isSome_map] at executed
    rcases Option.isSome_iff_exists.mp executed with ⟨found, success⟩
    exact ⟨_, (writes_of_find? meant fits compilation success).1⟩
  · rintro ⟨values, writes⟩
    have agrees : ∀ name ∈ outline.names, Agrees fragments uri.toList name :=
      fun name member => (fits name member).agrees (bodies name member) uri.toList
    have stands : uri.toList = [] ++ (uri.toList ++ []) := (List.append_nil _).symm
    rcases Outline.passage_of_writes agrees writes 0 stands with ⟨captured, through⟩
    rw [List.length_nil, Nat.zero_add] at through
    rw [Capture.value_exec, Option.isSome_map]
    exact Regex.find?_complete (Nat.zero_le _)
      ((Outline.way_expression meant fits compilation (Nat.zero_le _)).mpr ⟨rfl, rfl, through⟩)
  · intro params executed
    rw [Capture.value_exec] at executed
    rcases Option.map_eq_some_iff.mp executed with ⟨found, success, rfl⟩
    rcases writes_of_find? meant fits compilation success with ⟨writes, indices⟩
    refine ⟨_, writes, fun name => ?_⟩
    have within := writes.names_sublist
    have distinctNames : (Capture.names ⟨compiled, .empty⟩).Nodup := distinct
    rw [← names] at within ⊢
    exact get?_params rfl distinctNames within (captured_eq indices) name

theorem exec_iff_writes_of_section : ∃ (outline : Outline) (capture : Capture),
    pieces "/x(/<id>)".toList = outline.pieces ∧
    (Capture.compile "/x(/<id>)" (.ofList [("id", "(a|b)+")])).value = .ok capture ∧
    ((capture.exec "/x/ab").value.isSome ↔
      ∃ values, outline.Writes (Accepts (.ofList [("id", "(a|b)+")])) values "/x/ab".toList) ∧
    ∀ params, (capture.exec "/x/ab").value = some params →
      ∃ values, outline.Writes (Accepts (.ofList [("id", "(a|b)+")])) values "/x/ab".toList ∧
        ∀ name, params.get? name =
          if name ∈ outline.names then some ((values.lookup name).map String.ofList) else none := by
  let outline : Outline :=
    .literal '/' rfl (.literal 'x' rfl
      (.optional (.literal '/' rfl (.token ['i', 'd'] .done)) .done))
  have meant : pieces "/x(/<id>)".toList = outline.pieces := by decide +kernel
  have given : ∀ name ∈ outline.names, ∀ fragment,
      (SortedMap.ofList [("id", "(a|b)+")]).get? name = some fragment →
        Fragment.isPlain fragment.toList ∧
          ∃ expression, Regex.meaning fragment.toList = .ok expression := by
    intro name member fragment found
    have only : name = "id" := List.mem_singleton.mp member
    have own : (SortedMap.ofList [("id", "(a|b)+")]).get? "id" = some "(a|b)+" := by decide
    rw [only, own] at found
    cases found
    exact ⟨by decide, exists_of_isOk (by decide +kernel)⟩
  have compiles : (Capture.compile "/x(/<id>)" (.ofList [("id", "(a|b)+")])).value.isOk := by
    decide +kernel
  rcases exists_of_isOk compiles with ⟨capture, succeeds⟩
  exact ⟨outline, capture, meant, succeeds, exec_iff_writes meant given succeeds "/x/ab"⟩

end UriDispatch.Pattern
