import UriDispatch.Proofs.Pattern.Scanning
import UriDispatch.Proofs.Unicode.PropertyNames

/-! Classes in fragments. A class is read alike wherever it stands, and it ends where the fragment is
taken to be outside of classes again. -/

namespace UriDispatch.Regex

open Fragment (isPlainFrom demoteFrom behindClass Passes Within)

/-! ## Members -/

theorem itemOf_bare {primitive other : Primitive} {item : ClassSet}
    (found : itemOf primitive = .ok item) (same : other.bare = primitive.bare) :
    ∃ moved, itemOf other = .ok moved ∧ moved.bare = item.bare := by
  cases primitive with
  | literal single =>
      cases found
      cases other with
      | literal moved => exact ⟨_, rfl, congrArg ClassSet.literal (Primitive.literal.inj same)⟩
      | dot | assertion | escape | property => cases same
  | escape span name negated =>
      cases found
      cases other with
      | escape moved name negated =>
          cases same
          exact ⟨_, rfl, rfl⟩
      | dot | assertion | literal | property => cases same
  | property span query negated =>
      cases found
      cases other with
      | property moved query negated =>
          cases same
          exact ⟨_, rfl, rfl⟩
      | dot | assertion | literal | escape => cases same
  | dot span => cases found
  | assertion span kind => cases found

theorem letters_itemOf {primitive : Primitive} {item : ClassSet}
    (found : itemOf primitive = .ok item) : primitive.letters = item.letters := by
  cases primitive with
  | literal | escape | property =>
      cases found
      rfl
  | dot | assertion => cases found

theorem boundaryOf_bare {primitive other : Primitive} {literal : Literal}
    (found : boundaryOf primitive = .ok literal) (same : other.bare = primitive.bare) :
    ∃ moved, boundaryOf other = .ok moved ∧ moved.bare = literal.bare := by
  cases primitive with
  | literal single =>
      cases found
      cases other with
      | literal moved => exact ⟨_, rfl, Primitive.literal.inj same⟩
      | dot | assertion | escape | property => cases same
  | dot | assertion | escape | property => cases found

theorem letters_boundaryOf {primitive : Primitive} {literal : Literal}
    (found : boundaryOf primitive = .ok literal) : primitive.letters = [] := by
  cases primitive with
  | literal => rfl
  | dot | assertion | escape | property => cases found

theorem not_assertion_of_itemOf {primitive : Primitive} {item : ClassSet}
    (found : itemOf primitive = .ok item) (span : Span) (kind : Assertion) :
    primitive ≠ .assertion span kind := by
  rintro rfl
  cases found

theorem not_assertion_of_boundaryOf {primitive : Primitive} {literal : Literal}
    (found : boundaryOf primitive = .ok literal) (span : Span) (kind : Assertion) :
    primitive ≠ .assertion span kind := by
  rintro rfl
  cases found

theorem Member.append {input rest : List Char} {primitive : Primitive}
    (member : Member false input primitive rest) (open' : input.head? ≠ some ']')
    (notAssertion : ∀ span kind, primitive ≠ .assertion span kind) :
    ∃ taken, input = taken ++ rest ∧ taken ≠ [] ∧
      ((∀ character ∈ primitive.letters, isInert character) → Within .inClass .inClass taken) ∧
      ∀ other, ∃ moved, moved.bare = primitive.bare ∧ Member false (taken ++ other) moved other := by
  cases member with
  | escape read =>
      rcases read.shape with ⟨letter, inside, rfl⟩
      have notBoundary : letter ≠ 'b' := by
        rintro rfl
        rcases read.toBoundary.assertion with ⟨span, kind, isAssertion⟩
        exact notAssertion span kind isAssertion
      rcases read.append notBoundary with ⟨taken, equal, allInert, again⟩
      refine ⟨'\\' :: letter :: taken, congrArg ('\\' :: letter :: ·) equal,
        List.cons_ne_nil _ _, fun inert => ?_, fun other => ?_⟩
      · exact (Within.escape (by decide) letter).append (Within.inClass (allInert inert))
      · rcases again other with ⟨moved, same, escape⟩
        exact ⟨moved, same, .escape escape⟩
  | @literal character rest notBackslash =>
      have notClosing : character ≠ ']' := fun equal => open' (congrArg some equal)
      refine ⟨[character], rfl, List.cons_ne_nil _ _,
        fun _ => Within.member notBackslash notClosing, fun other => ?_⟩
      exact ⟨.literal ⟨.head (character :: other), character, false⟩, rfl, .literal notBackslash⟩

structure BeginsAlike (rest other : List Char) : Prop where
  first : other.head? = rest.head?
  second : rest.head? = some '-' → other.tail.head? = rest.tail.head?

theorem character_of_bare {literal other : Literal} (same : literal.bare = other.bare) :
    literal.character = other.character := by
  change literal.bare.character = other.bare.character
  rw [same]

theorem Itemizes.append {input rest : List Char} {item : ClassSet}
    (itemizes : Itemizes false input item rest) (open' : input.head? ≠ some ']') :
    ∃ taken, input = taken ++ rest ∧ taken ≠ [] ∧
      ((∀ character ∈ item.letters, isInert character) → Within .inClass .inClass taken) ∧
      ∀ other, BeginsAlike rest other →
        ∃ moved, moved.bare = item.bare ∧ Itemizes false (taken ++ other) moved other := by
  have member {text left : List Char} {primitive : Primitive}
      (reads : Reads (readMember false text) primitive left) : Member false text primitive left := by
    rcases reads with ⟨reading, found, rfl, rfl⟩
    exact member_of_readMember found
  cases itemizes with
  | @single _ _ _ _ behind first skipped ends itemFound =>
      rw [skip_false] at skipped
      subst skipped
      rw [← letters_itemOf itemFound]
      rcases (member first).append open' (not_assertion_of_itemOf itemFound) with
        ⟨taken, equal, some, within, again⟩
      refine ⟨taken, equal, some, within, fun other alike => ?_⟩
      rcases List.head?_eq_some_iff.mp alike.first with ⟨others, rfl⟩
      rcases again (_ :: others) with ⟨primitive, same, reads⟩
      rcases itemOf_bare itemFound same with ⟨moved, movedFound, bareEqual⟩
      refine ⟨moved, bareEqual, .single (readMember_of_member reads) rfl ?_ movedFound⟩
      intro hyphen
      have second := alike.second (congrArg Option.some hyphen)
      change others.head? = behind.head? at second
      change others.head? = Option.some ']' ∨ others.head? = Option.some '-'
      rw [second]
      exact ends hyphen
  | @range _ _ low high least greatest next middle _ first hyphenSkipped goesOn skipped second
      foundLow foundHigh ordered =>
      rw [skip_false] at hyphenSkipped skipped
      subst hyphenSkipped skipped
      change ¬(some next = some ']' ∨ some next = some '-') at goesOn
      have noLetters {primitive : Primitive} {literal : Literal}
          (bound : boundaryOf primitive = .ok literal) :
          ∀ character ∈ primitive.letters, isInert character := by
        rw [letters_boundaryOf bound]
        exact fun _ => List.not_mem_nil.elim
      rcases (member first).append open' (not_assertion_of_boundaryOf foundLow) with
        ⟨before, equal, some, within, again⟩
      have hyphen : Within .inClass .inClass ['-'] := .member (by decide) (by decide)
      rcases (member second).append (fun closing => goesOn (.inl closing))
        (not_assertion_of_boundaryOf foundHigh) with
        ⟨after, equalMiddle, someAfter, withinAfter, againAfter⟩
      refine ⟨before ++ '-' :: after, ?_, ?_, fun _ => ?_, fun other _ => ?_⟩
      · rw [equal, List.append_assoc]
        exact congrArg (before ++ '-' :: ·) equalMiddle
      · exact List.append_ne_nil_of_left_ne_nil some _
      · exact (within (noLetters foundLow)).append
          (hyphen.append (withinAfter (noLetters foundHigh)))
      · rcases List.exists_cons_of_ne_nil someAfter with ⟨head, tail, rfl⟩
        cases (List.cons.inj equalMiddle).1
        rcases again ('-' :: next :: (tail ++ other)) with ⟨lower, sameLow, readsLow⟩
        rcases againAfter other with ⟨higher, sameHigh, readsHigh⟩
        rcases boundaryOf_bare foundLow sameLow with ⟨least', foundLow', bareLow⟩
        rcases boundaryOf_bare foundHigh sameHigh with ⟨greatest', foundHigh', bareHigh⟩
        refine ⟨.range least' greatest', ?_, ?_⟩
        · simp only [ClassSet.bare, bareLow, bareHigh]
        · rw [List.append_assoc]
          refine .range (readMember_of_member readsLow) rfl goesOn rfl
            (readMember_of_member readsHigh) foundLow' foundHigh' ?_
          rw [character_of_bare bareLow, character_of_bare bareHigh]
          exact ordered

/-! ## Bodies -/

structure OpenClass.Alike (class' other : OpenClass) : Prop where
  negated : other.negated = class'.negated
  pending : other.pending.map (fun waiting => (waiting.1, waiting.2.bare)) =
    class'.pending.map (fun waiting => (waiting.1, waiting.2.bare))
  items : other.items.reversed.map ClassSet.bare = class'.items.reversed.map ClassSet.bare

namespace OpenClass.Alike

variable {class' other : OpenClass}

theorem body (alike : class'.Alike other) : other.body.bare = class'.body.bare := by
  have right : (ClassSet.ofItems other.items.span other.items.reversed).bare =
      (ClassSet.ofItems class'.items.span class'.items.reversed).bare := by
    rw [ClassSet.bare_ofItems, ClassSet.bare_ofItems, alike.items]
  have waiting := alike.pending
  unfold OpenClass.body
  cases own : class'.pending with
  | none =>
      rw [own] at waiting
      rw [Option.map_eq_none_iff.mp waiting]
      exact right
  | some pair =>
      rw [own] at waiting
      rcases Option.map_eq_some_iff.mp waiting with ⟨otherPair, found, equal⟩
      rw [found]
      simp only [ClassSet.bare, right]
      rcases Prod.ext_iff.mp equal with ⟨sameOperator, sameLeft⟩
      change otherPair.1 = pair.1 at sameOperator
      change otherPair.2.bare = pair.2.bare at sameLeft
      rw [sameOperator, sameLeft]

theorem push (alike : class'.Alike other) {item moved : ClassSet}
    (same : moved.bare = item.bare) : (class'.push item).Alike (other.push moved) where
  negated := alike.negated
  pending := alike.pending
  items := by
    change moved.bare :: other.items.reversed.map ClassSet.bare = _
    rw [same, alike.items]
    rfl

theorem applyOperator (alike : class'.Alike other) (operator : SetOperator)
    (rest otherRest : List Char) :
    (class'.applyOperator operator rest).Alike (other.applyOperator operator otherRest) where
  negated := alike.negated
  pending := by
    change some (operator, other.body.bare) = some (operator, class'.body.bare)
    rw [alike.body]
  items := rfl

theorem bracketed (alike : class'.Alike other) (span otherSpan : Span) :
    (ClassSet.bracketed otherSpan other.negated other.body).bare =
      (ClassSet.bracketed span class'.negated class'.body).bare := by
  simp only [ClassSet.bare, alike.negated, alike.body]

end OpenClass.Alike

def ClosedClass.Alike (closed other : ClosedClass) : Prop :=
  other.negated = closed.negated ∧ other.body.bare = closed.body.bare

theorem setOperator?_congr {text other : List Char} (first : other.head? = text.head?)
    (second : other.tail.head? = text.tail.head?) : setOperator? other = setOperator? text := by
  match text, other with
  | [], [] => rfl
  | [], _ :: _ => cases first
  | _ :: _, [] => cases first
  | [_], [_] => cases first; rfl
  | [_], _ :: _ :: _ => cases second
  | _ :: _ :: _, [_] => cases second
  | head :: next :: rest, _ :: _ :: others =>
      cases first
      cases second
      unfold setOperator?
      split <;> split <;> simp_all

theorem head?_append_mark (first second other another : List Char) :
    (first ++ (second ++ ']' :: other)).head? = (first ++ (second ++ ']' :: another)).head? := by
  cases first with
  | cons head tail => rfl
  | nil =>
      cases second with
      | cons head tail => rfl
      | nil => rfl

theorem beginsAlike_append {taken inside : List Char} (rest other : List Char)
    (end' : inside = taken ++ [']']) : BeginsAlike (inside ++ rest) (inside ++ other) := by
  subst end'
  cases taken with
  | nil => exact ⟨rfl, fun hyphen => absurd hyphen (by simp)⟩
  | cons head tail =>
      cases tail with
      | nil => exact ⟨rfl, fun _ => rfl⟩
      | cons second others => exact ⟨rfl, fun _ => rfl⟩

/-! ## Names of classes -/

theorem exists_first_bracket (text : List Char) :
    ∃ front, ']' ∉ front ∧ ∀ rest, ∃ behind, text ++ ']' :: rest = front ++ ']' :: behind := by
  induction text with
  | nil => exact ⟨[], List.not_mem_nil, fun rest => ⟨rest, rfl⟩⟩
  | cons head tail induction =>
      by_cases bracket : head = ']'
      · subst bracket
        exact ⟨[], List.not_mem_nil, fun rest => ⟨tail ++ ']' :: rest, rfl⟩⟩
      · rcases induction with ⟨front, none, ends⟩
        refine ⟨head :: front, List.not_mem_cons_of_ne_of_not_mem (Ne.symm bracket) none,
          fun rest => ?_⟩
        rcases ends rest with ⟨behind, equal⟩
        exact ⟨behind, congrArg (head :: ·) equal⟩

theorem takeWhile_front {front : List Char} (none : ']' ∉ front) (rest : List Char) :
    (front ++ ']' :: rest).takeWhile (· ≠ ']') = front := by
  have apart : ∀ letter ∈ front, decide (letter ≠ ']') = true := by
    intro letter member
    refine decide_eq_true ?_
    rintro rfl
    exact none member
  rw [List.takeWhile_append_of_pos apart, List.takeWhile_cons_of_neg (by decide), List.append_nil]

/-- Whether a bracket begins a named class is seen before the first bracket that closes one. -/
theorem readNamedClass?_append {text rest : List Char}
    (unknown : readNamedClass? (text ++ ']' :: rest) = none) (other : List Char) :
    readNamedClass? (text ++ ']' :: other) = none := by
  by_contra known
  rcases Option.ne_none_iff_exists'.mp known with ⟨reading, found⟩
  rcases text_of_readNamedClass? found with ⟨negated, name, kind, _, knownName, shape, _⟩
  rcases exists_first_bracket text with ⟨front, none, ends⟩
  rcases ends other with ⟨behind, equal⟩
  rcases ends rest with ⟨behindRest, equalRest⟩
  have letters := alphabetic_of_ofName? knownName
  rw [String.toList_ofList] at letters
  let lead := '[' :: ':' :: ((if negated then ['^'] else []) ++ name ++ [':'])
  have noneLead : ']' ∉ lead := by
    have noneName : ']' ∉ name := fun member => absurd (letters _ member) (by decide)
    cases negated <;> simp [lead, noneName]
  have named (after : List Char) : namedText negated name ++ after = lead ++ ']' :: after := by
    simp [namedText, lead]
  have same : front = lead := by
    rw [← takeWhile_front none behind, ← equal, shape, named, takeWhile_front noneLead]
  rcases readNamedClass?_of_text negated knownName behindRest with ⟨_, _, again⟩
  rw [equalRest, same, ← named, again] at unknown
  cases unknown

/-! ## Openings -/

def Items.Alike (items other : Items) : Prop :=
  other.reversed.map ClassSet.bare = items.reversed.map ClassSet.bare

theorem Items.Alike.push {items other : Items} (alike : items.Alike other) {item moved : ClassSet}
    (same : moved.bare = item.bare) : (items.push item).Alike (other.push moved) := by
  change moved.bare :: other.reversed.map ClassSet.bare = _
  rw [same, alike]
  rfl

theorem Hyphens.append {items result : Items} {input rest : List Char}
    (hyphens : Hyphens false items input result rest) :
    ∃ count, input = List.replicate count '-' ++ rest ∧
      (count = 0 → result = items) ∧ (count ≠ 0 → result.reversed ≠ [] ∧ rest ≠ []) ∧
      ∀ moved other, items.Alike moved → other.head? = rest.head? →
        ∃ again, result.Alike again ∧
          Hyphens false moved (List.replicate count '-' ++ other) again other := by
  induction hyphens with
  | none noHyphen =>
      refine ⟨0, rfl, fun _ => rfl, fun some => absurd rfl some, fun moved other alike begins =>
        ⟨moved, alike, .none ?_⟩⟩
      rwa [List.replicate_zero, List.nil_append, begins]
  | @more _ _ _ _ rest shape goesOn _ induction =>
      rw [skip_false] at shape
      subst shape
      rcases induction with ⟨count, rfl, none, many, again⟩
      have someRest : rest ≠ [] := by
        by_cases zero : count = 0
        · subst zero
          exact goesOn
        · exact (many zero).2
      refine ⟨count + 1, rfl, fun zero => absurd zero (Nat.succ_ne_zero _), fun _ => ⟨?_, someRest⟩,
        fun moved other alike begins => ?_⟩
      · by_cases zero : count = 0
        · rw [none zero]
          exact List.cons_ne_nil _ _
        · exact (many zero).1
      · rcases again (moved.push (.literal ⟨.head ('-' :: (List.replicate count '-' ++ other)), '-',
          false⟩)) other (alike.push rfl) begins with ⟨result, same, read⟩
        refine ⟨result, same, .more rfl (fun nothing => ?_) read⟩
        rw [(List.append_eq_nil_iff.mp nothing).2] at begins
        exact someRest (List.head?_eq_none_iff.mp begins.symm)

/-- The part behind the bracket that opens a class: what begins as given is in the class after
it. -/
structure Enters (part rest : List Char) : Prop where
  demotes : ∀ depth other, other.head? = rest.head? →
    demoteFrom depth .outside ('[' :: part ++ other) =
      (demoteFrom depth .inClass other).map ('[' :: part ++ ·)
  plain : ∀ other, other.head? = rest.head? → isPlainFrom .outside ('[' :: part ++ other) →
    isPlainFrom .inClass other
  behind : ∀ other left, other.head? = rest.head? →
    behindClass .classStart (part ++ other) = some left → behindClass .inClass other = some left

theorem Enters.of_within {part rest : List Char} {context : Fragment.Context}
    (within : Within .classStart context part) (inside : context ≠ .outside) (nonempty : rest ≠ [])
    (notNegation : context = .classStart → rest.head? ≠ some '^')
    (notClosing : context = .inClass ∨ rest.head? ≠ some ']') : Enters part rest := by
  have start {other : List Char} (begins : other.head? = rest.head?) :
      (∀ depth, demoteFrom depth context other = demoteFrom depth .inClass other) ∧
        isPlainFrom context other = isPlainFrom .inClass other ∧
        behindClass context other = behindClass .inClass other := by
    rcases List.exists_cons_of_ne_nil nonempty with ⟨head, tail, rfl⟩
    rcases List.head?_eq_some_iff.mp begins with ⟨others, rfl⟩
    rcases notClosing with rfl | notClosing
    · exact ⟨fun _ => rfl, rfl, rfl⟩
    · have notMark (first : context = .classStart) : head ≠ '^' :=
        fun equal => notNegation first (congrArg some equal)
      have open' : head ≠ ']' := fun equal => notClosing (congrArg some equal)
      exact ⟨fun depth => Fragment.demoteFrom_start inside notMark open' depth others,
        Fragment.isPlainFrom_start inside notMark open' others,
        Fragment.behindClass_start inside others notMark open'⟩
  have passes := Passes.bracket.append within.toPasses
  refine ⟨fun depth other begins => ?_, fun other begins plain => ?_,
    fun other left begins known => ?_⟩
  · exact (passes.demotes depth other).trans (by rw [(start begins).1]; rfl)
  · rw [← (start begins).2.1]
    exact passes.plain other plain
  · rw [← (start begins).2.2]
    exact within.behind other left known

theorem Negation.append {input rest : List Char} {negated : Bool}
    (negation : Negation false input negated rest) :
    ∃ part context, input = part ++ rest ∧ Within .classStart context part ∧
      (context = .classStart ∨ context = .afterNegation) ∧
      (context = .classStart → rest.head? ≠ some '^') ∧
      ∀ other, other ≠ [] → other.head? = rest.head? →
        Negation false (part ++ other) negated other := by
  cases negation with
  | caret shape =>
      rw [skip_false] at shape
      subst shape
      exact ⟨['^'], .afterNegation, rfl, Within.negation, .inr rfl, (fun first => nomatch first),
        fun other goesOn _ => .caret (skip_false other) goesOn⟩
  | none noCaret =>
      refine ⟨[], .classStart, rfl, Within.nothing _, .inl rfl, fun _ => noCaret,
        fun other _ begins => .none ?_⟩
      rwa [List.nil_append, begins]

theorem Items.Alike.nil_iff {items moved : Items} (alike : items.Alike moved) :
    moved.reversed = [] ↔ items.reversed = [] := by
  rw [← List.map_eq_nil_iff, alike, List.map_eq_nil_iff]

theorem FirstBracket.append {items result : Items} {input rest : List Char}
    (firstBracket : FirstBracket false items input result rest) :
    ∃ part, input = part ++ rest ∧
      ((part = [] ∧ (items.reversed = [] → rest.head? ≠ some ']')) ∨
        (part = [']'] ∧ items.reversed = [])) ∧
      ∀ moved other, items.Alike moved → other ≠ [] → other.head? = rest.head? →
        ∃ again, result.Alike again ∧ FirstBracket false moved (part ++ other) again other := by
  cases firstBracket with
  | member shape _ first =>
      rw [skip_false] at shape
      subst shape
      refine ⟨[']'], rfl, .inr ⟨rfl, first⟩, fun moved other alike goesOn _ => ?_⟩
      refine ⟨_, ?_, .member (skip_false other) goesOn (alike.nil_iff.mpr first)⟩
      exact alike.push rfl
  | none noMember =>
      refine ⟨[], rfl, .inl ⟨rfl, noMember⟩, fun moved other alike _ begins =>
        ⟨moved, alike, .none fun first => ?_⟩⟩
      rw [List.nil_append, begins]
      exact noMember (alike.nil_iff.mp first)

theorem head?_append_congr (part : List Char) {rest other : List Char}
    (begins : other.head? = rest.head?) : (part ++ other).head? = (part ++ rest).head? := by
  rw [List.head?_append, List.head?_append, begins]

theorem ClassOpening.append {tail rest : List Char} {opened : OpenClass}
    (opening : ClassOpening false ('[' :: tail) opened rest) (nonempty : rest ≠ []) :
    ∃ taken, tail = taken ++ rest ∧ Enters taken rest ∧
      ∀ other, other.head? = rest.head? → ∃ moved, opened.Alike moved ∧
        ClassOpening false ('[' :: (taken ++ other)) moved other := by
  cases opening with
  | @intro _ _ inside members behind _ negated hyphens items shape _ negation someHyphens
      firstBracket =>
  rw [skip_false] at shape
  subst shape
  rcases firstBracket.append with ⟨bracket, rfl, bracketCases, bracketAgain⟩
  rcases someHyphens.append with ⟨count, rfl, none, many, hyphensAgain⟩
  rcases negation.append with
    ⟨caret, context, rfl, caretWithin, contextCases, notNegation, caretAgain⟩
  refine ⟨caret ++ (List.replicate count '-' ++ bracket), by simp, ?_, fun other begins => ?_⟩
  · have inside : context ≠ .outside := by
      rcases contextCases with rfl | rfl <;> decide
    by_cases zero : count = 0
    · subst zero
      rcases bracketCases with ⟨rfl, notFirst⟩ | ⟨rfl, noItems⟩
      · rw [List.replicate_zero, List.append_nil, List.append_nil]
        refine .of_within caretWithin inside nonempty (fun first => notNegation first)
          (.inr (notFirst ?_))
        rw [none rfl]
        rfl
      · have closing : Within context .inClass [']'] :=
          .first inside (by decide) (fun _ => by decide)
            (by rcases contextCases with rfl | rfl <;> decide)
        rw [List.replicate_zero, List.nil_append]
        exact .of_within (caretWithin.append closing) (by decide) nonempty
          (fun first => nomatch first) (.inl rfl)
    · rcases bracketCases with ⟨rfl, _⟩ | ⟨rfl, noItems⟩
      · rw [List.append_nil]
        exact .of_within (caretWithin.append (Within.hyphens inside zero)) (by decide) nonempty
          (fun first => nomatch first) (.inl rfl)
      · exact absurd noItems (many zero).1
  · have goesOn : other ≠ [] := by
      rintro rfl
      exact nonempty (List.head?_eq_none_iff.mp begins.symm)
    have goesOn' := List.append_ne_nil_of_right_ne_nil bracket goesOn
    have goesOn'' := List.append_ne_nil_of_right_ne_nil (List.replicate count '-') goesOn'
    have begins' := head?_append_congr bracket begins
    have begins'' := head?_append_congr (List.replicate count '-') begins'
    rcases hyphensAgain (.startingAt (List.replicate count '-' ++ (bracket ++ other))) _ rfl begins'
      with ⟨movedHyphens, hyphensAlike, hyphensMoved⟩
    rcases bracketAgain movedHyphens other hyphensAlike goesOn begins with
      ⟨movedItems, itemsAlike, bracketMoved⟩
    rw [List.append_assoc, List.append_assoc]
    refine ⟨_, ?_, .intro (skip_false _) (List.append_ne_nil_of_right_ne_nil caret goesOn'')
      (caretAgain _ goesOn'' begins'') hyphensMoved bracketMoved⟩
    exact ⟨rfl, rfl, itemsAlike⟩

/-! ## Classes -/

/-- A class is read alike wherever it stands, within as many classes as before. If it holds no other
one, demotion sees its end as well. -/
theorem ClassBody.append {current : OpenClass} {outer : List OpenClass} {input rest : List Char}
    {closed : ClosedClass} (body : ClassBody false current outer input closed rest) :
    ∃ inside, input = inside ++ ']' :: rest ∧
      (∀ left, outer = [] → behindClass .inClass input = some left →
        (∀ character ∈ closed.body.letters, isInert character) →
          Within .inClass .inClass inside) ∧
      ∀ moved movedOuter other, current.Alike moved →
        List.Forall₂ OpenClass.Alike outer movedOuter → ∃ again, closed.Alike again ∧
          ClassBody false moved movedOuter (inside ++ ']' :: other) again other := by
  induction body with
  | closing shape =>
      refine ⟨[], shape, fun _ _ _ _ => Within.nothing _, fun moved _ other alike outside => ?_⟩
      cases outside
      exact ⟨_, ⟨alike.negated, alike.body⟩, .closing rfl⟩
  | inner shape _ induction =>
      rw [skip_false] at shape
      subst shape
      rcases induction with ⟨inside, rfl, _, again⟩
      refine ⟨']' :: inside, rfl, fun _ alone => (nomatch alone),
        fun moved _ other alike outside => ?_⟩
      cases outside with
      | cons parentAlike others =>
          rcases again _ _ other (parentAlike.push (alike.bracketed _ _)) others with
            ⟨closed, same, body⟩
          exact ⟨closed, same, .inner rfl body⟩
  | @named _ _ _ _ _ reading _ shape known _ induction =>
      rw [skip_false] at shape
      subst shape
      rcases text_of_readNamedClass? known with ⟨negated, name, kind, span, knownName, text, value⟩
      rcases induction with ⟨inside, behind, _, again⟩
      refine ⟨namedText negated name ++ inside, ?_, fun _ _ flat => (nomatch flat),
        fun moved movedOuter other alike outside => ?_⟩
      · rw [text, behind, List.append_assoc]
      · rcases readNamedClass?_of_text negated knownName (inside ++ ']' :: other) with
          ⟨movedSpan, shorter, read⟩
        have sameName : (ClassSet.named movedSpan kind negated).bare = reading.value.bare := by
          rw [value]
          rfl
        rcases again _ _ other (alike.push sameName) outside with ⟨closed, same, body⟩
        rw [List.append_assoc]
        exact ⟨closed, same, .named rfl read body⟩
  | @nested _ _ _ _ _ _ rest _ shape unknown opening body induction =>
      rw [skip_false] at shape
      subst shape
      have nonempty := body.nonempty
      rw [skip_false] at nonempty
      rcases induction with ⟨inside, rfl, _, again⟩
      rcases opening.append nonempty with ⟨taken, rfl, _, openAgain⟩
      refine ⟨'[' :: taken ++ inside, by simp, fun _ _ flat => (nomatch flat),
        fun moved movedOuter other alike outside => ?_⟩
      rcases openAgain (inside ++ ']' :: other) (head?_append_mark [] inside other rest) with
        ⟨inner, innerAlike, opened⟩
      rcases again inner (moved :: movedOuter) other innerAlike (.cons alike outside) with
        ⟨closed, same, body⟩
      have unnamed : readNamedClass? ('[' :: taken ++ inside ++ ']' :: rest) = none := by
        rw [List.append_assoc]
        exact unknown
      have unnamedThere := readNamedClass?_append unnamed other
      rw [List.append_assoc] at unnamedThere ⊢
      exact ⟨closed, same, .nested rfl unnamedThere opened body⟩
  | @operator current _ _ tail rest mark operator closed shape known _ induction =>
      rw [skip_false] at shape
      subst shape
      have stays : Within .inClass .inClass [mark] := by
        rcases doubled_of_setOperator? known with ⟨_, _, equal, isMark⟩
        cases equal
        exact .member (by rintro rfl; simp at isMark) (by rintro rfl; simp at isMark)
      have within := stays.append stays
      rcases induction with ⟨inside, rfl, others, again⟩
      refine ⟨mark :: mark :: inside, rfl, fun left alone flat inert => ?_,
        fun moved movedOuter other alike outside => ?_⟩
      · exact within.append (others left alone (within.behind _ _ flat) inert)
      · rcases again (moved.applyOperator operator (inside ++ ']' :: other)) movedOuter other
          (alike.applyOperator ..) outside with ⟨closed, same, body⟩
        refine ⟨closed, same, .operator rfl ?_ body⟩
        rw [← known]
        exact setOperator?_congr rfl rfl
  | @item current _ _ tail next rest head item closed shape noBracket noOperator read behind
      induction =>
      rw [skip_false] at shape
      subst shape
      rcases read.append (fun closing => noBracket.1 (Option.some.inj closing)) with
        ⟨taken, whole, some, within, items⟩
      rcases induction with ⟨inside, rfl, others, again⟩
      refine ⟨taken ++ inside, ?_, fun left alone flat inert => ?_,
        fun moved movedOuter other alike outside => ?_⟩
      · rw [List.append_assoc]
        exact whole
      · have itemInert : ∀ character ∈ item.letters, isInert character := fun character inItem =>
          inert character
            (behind.letters List.mem_cons_self (OpenClass.letters_push _ (.inr inItem)))
        have front := within itemInert
        exact front.append (others left alone (front.behind _ _ (whole ▸ flat)) inert)
      · have begins : BeginsAlike (inside ++ ']' :: rest) (inside ++ ']' :: other) := by
          have ends : BeginsAlike (inside ++ [']'] ++ rest) (inside ++ [']'] ++ other) :=
            beginsAlike_append rest other rfl
          rwa [List.append_assoc, List.append_assoc] at ends
        rcases items _ begins with ⟨movedItem, itemSame, itemRead⟩
        rcases again (moved.push movedItem) movedOuter other (alike.push itemSame) outside with
          ⟨closed, same, body⟩
        rcases List.exists_cons_of_ne_nil some with ⟨first, more, rfl⟩
        rcases List.cons.inj whole with ⟨rfl, wholeTail⟩
        refine ⟨closed, same, ?_⟩
        rw [List.append_assoc]
        refine .item rfl noBracket ?_ itemRead body
        rw [← noOperator]
        refine setOperator?_congr rfl ?_
        change (more ++ (inside ++ ']' :: other)).head? = tail.head?
        rw [wholeTail, List.append_eq]
        exact head?_append_mark more inside other _

theorem ClassForm.append {tail rest : List Char} {tree : Tree}
    (form : ClassForm false ('[' :: tail) tree rest) :
    ∃ taken, tail = taken ++ rest ∧
      (∀ left, behindClass .classStart tail = some left →
        (∀ character ∈ tree.letters, isInert character) →
          rest = left ∧ Passes .outside .outside ('[' :: taken)) ∧
      ∀ other, ∃ moved, moved.bare = tree.bare ∧
        ClassForm false ('[' :: (taken ++ other)) moved other := by
  cases form with
  | @intro behind _ opened closed opening body =>
  have nonempty : behind ≠ [] := by
    rintro rfl
    exact body.nonempty rfl
  rcases opening.append nonempty with ⟨part, rfl, enters, openAgain⟩
  rcases body.append with ⟨inside, rfl, stays, bodyAgain⟩
  have begins (other : List Char) :
      (inside ++ ']' :: other).head? = (inside ++ ']' :: rest).head? :=
    head?_append_mark [] inside other rest
  refine ⟨part ++ (inside ++ [']']), by simp, fun left flat inert => ?_, fun other => ?_⟩
  · have flatBody := enters.behind _ left rfl flat
    have through := (stays left rfl flatBody inert).append Within.closing
    refine ⟨?_, fun depth other => ?_, fun other plain => ?_⟩
    · have ends := through.behind rest left (by simpa using flatBody)
      rw [Fragment.behindClass_outside] at ends
      exact Option.some.inj ends
    · have outer := enters.demotes depth (inside ++ ']' :: other) (begins other)
      have inner := through.demotes depth other
      rw [List.append_assoc, List.singleton_append] at inner
      rw [inner, Option.map_map] at outer
      simpa [Function.comp_def] using outer
    · refine through.plain other ?_
      rw [List.append_assoc]
      refine enters.plain _ (begins other) ?_
      simpa using plain
  · rcases openAgain _ (begins other) with ⟨moved, alike, openingMoved⟩
    rcases bodyAgain moved [] other alike .nil with ⟨again, same, bodyMoved⟩
    have shape : part ++ (inside ++ [']']) ++ other = part ++ (inside ++ ']' :: other) := by simp
    rw [shape]
    refine ⟨_, ?_, .intro openingMoved bodyMoved⟩
    change Tree.bracketed .nowhere again.negated again.body.bare = _
    rw [same.1, same.2]
    rfl

end UriDispatch.Regex
