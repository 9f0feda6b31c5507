import UriDispatch.Proofs.Regex.Forms

/-! The ways to write a class and its parts: what opens it, its members and items, and how it goes on
up to the bracket that closes it. -/

namespace UriDispatch.Regex

/-! ## Openings -/

inductive Negation (verbose : Bool) : List Char → Bool → List Char → Prop where
  | caret {tail rest : List Char} (shape : skip verbose tail = rest) (goesOn : rest ≠ []) :
      Negation verbose ('^' :: tail) true rest
  | none {input : List Char} (noCaret : input.head? ≠ some '^') : Negation verbose input false input

theorem negation_of_readNegation {verbose : Bool} {opening input : List Char} {negated : Bool}
    {rest : { rest : List Char // rest.length ≤ input.length }}
    (found : readNegation verbose opening input = .ok (negated, rest)) :
    Negation verbose input negated rest.val := by
  unfold readNegation at found
  split at found
  · split at found
    · cases found
    · next shape =>
        cases found
        exact .caret shape (List.cons_ne_nil _ _)
  · next noCaret =>
      cases found
      refine .none fun caret => ?_
      rcases List.head?_eq_some_iff.mp caret with ⟨tail, equal⟩
      exact noCaret tail equal

theorem readNegation_of_negation {verbose : Bool} {input rest : List Char} {negated : Bool}
    (negation : Negation verbose input negated rest) (opening : List Char) :
    Leaves (readNegation verbose opening input) negated rest := by
  cases negation with
  | caret shape goesOn =>
      rw [readNegation]
      split
      · next equal => exact absurd (shape.symm.trans equal) goesOn
      · next equal =>
          cases shape.symm.trans equal
          exact ⟨_, rfl⟩
  | none noCaret =>
      unfold readNegation
      split
      · exact absurd rfl noCaret
      · exact ⟨_, rfl⟩

inductive Hyphens (verbose : Bool) : Items → List Char → Items → List Char → Prop where
  | none {items : Items} {input : List Char} (noHyphen : input.head? ≠ some '-') :
      Hyphens verbose items input items input
  | more {items result : Items} {tail next rest : List Char} (shape : skip verbose tail = next)
      (goesOn : next ≠ [])
      (behind : Hyphens verbose (items.push (.literal ⟨.head ('-' :: tail), '-', false⟩)) next
        result rest) :
      Hyphens verbose items ('-' :: tail) result rest

theorem hyphens_of_readHyphens {verbose : Bool} {opening : List Char} {items result : Items}
    {input : List Char} {rest : { rest : List Char // rest.length ≤ input.length }}
    (found : readHyphens verbose opening items input = .ok (result, rest)) :
    Hyphens verbose items input result rest.val := by
  fun_induction readHyphens verbose opening items input generalizing result with
  | case1 => cases found
  | case2 => cases found
  | case3 items tail bound next others shape _ result rest fits read =>
      rename_i induction
      cases found
      exact .more shape (List.cons_ne_nil _ _) (induction read)
  | case4 items input noHyphen =>
      cases found
      refine .none fun hyphen => ?_
      rcases List.head?_eq_some_iff.mp hyphen with ⟨tail, equal⟩
      exact noHyphen tail equal

theorem readHyphens_of_hyphens {verbose : Bool} {items result : Items} {input rest : List Char}
    (hyphens : Hyphens verbose items input result rest) (opening : List Char) :
    Leaves (readHyphens verbose opening items input) result rest := by
  induction hyphens with
  | none noHyphen =>
      refine ⟨Nat.le_refl _, ?_⟩
      rw [readHyphens]
      rintro tail rfl
      exact noHyphen rfl
  | more shape goesOn _ induction =>
      rcases induction with ⟨fits, read⟩
      rw [readHyphens]
      split
      · next equal => exact absurd (shape.symm.trans equal) goesOn
      · next equal =>
          cases shape.symm.trans equal
          simp only [read]
          exact ⟨_, rfl⟩

inductive FirstBracket (verbose : Bool) (items : Items) :
    List Char → Items → List Char → Prop where
  | member {tail rest : List Char} (shape : skip verbose tail = rest) (goesOn : rest ≠ [])
      (first : items.reversed = []) :
      FirstBracket verbose items (']' :: tail)
        (items.push (.literal ⟨.head (']' :: tail), ']', false⟩)) rest
  | none {input : List Char} (noMember : items.reversed = [] → input.head? ≠ some ']') :
      FirstBracket verbose items input items input

theorem firstBracket_of_readFirstBracket {verbose : Bool} {opening : List Char}
    {items result : Items} {input : List Char}
    {rest : { rest : List Char // rest.length ≤ input.length }}
    (found : readFirstBracket verbose opening items input = .ok (result, rest)) :
    FirstBracket verbose items input result rest.val := by
  unfold readFirstBracket at found
  split at found
  · split at found
    · next first =>
        split at found
        · cases found
        · next shape =>
            cases found
            exact .member shape (List.cons_ne_nil _ _) (List.isEmpty_iff.mp first)
    · next notFirst =>
        cases found
        exact .none fun first => absurd (List.isEmpty_iff.mpr first) notFirst
  · next noBracket =>
      cases found
      refine .none fun _ bracket => ?_
      rcases List.head?_eq_some_iff.mp bracket with ⟨tail, equal⟩
      exact noBracket tail equal

theorem readFirstBracket_of_firstBracket {verbose : Bool} {items result : Items}
    {input rest : List Char} (firstBracket : FirstBracket verbose items input result rest)
    (opening : List Char) : Leaves (readFirstBracket verbose opening items input) result rest := by
  cases firstBracket with
  | member shape goesOn first =>
      rw [readFirstBracket, if_pos (List.isEmpty_iff.mpr first)]
      split
      · next equal => exact absurd (shape.symm.trans equal) goesOn
      · next equal =>
          cases shape.symm.trans equal
          exact ⟨_, rfl⟩
  | none noMember =>
      refine ⟨Nat.le_refl _, ?_⟩
      unfold readFirstBracket
      split
      · exact if_neg fun first => noMember (List.isEmpty_iff.mp first) rfl
      · rfl

inductive ClassOpening (verbose : Bool) : List Char → OpenClass → List Char → Prop where
  | intro {bracket : Char} {tail inside members behind rest : List Char} {negated : Bool}
      {hyphens items : Items} (shape : skip verbose tail = inside) (goesOn : inside ≠ [])
      (negation : Negation verbose inside negated members)
      (someHyphens : Hyphens verbose (.startingAt members) members hyphens behind)
      (firstBracket : FirstBracket verbose hyphens behind items rest) :
      ClassOpening verbose (bracket :: tail)
        ⟨.between (bracket :: tail) rest, negated, none, items⟩ rest

theorem opening_of_openClass {verbose : Bool} {input : List Char}
    {reading : Reading input OpenClass} (found : openClass verbose input = .ok reading) :
    ClassOpening verbose input reading.value reading.rest := by
  unfold openClass at found
  split at found
  · cases found
  · split at found
    · cases found
    · next shape =>
        split at found
        · cases found
        · next negation =>
            split at found
            · cases found
            · next hyphens =>
                split at found
                · cases found
                · next firstBracket =>
                    cases found
                    exact .intro shape (List.cons_ne_nil _ _) (negation_of_readNegation negation)
                      (hyphens_of_readHyphens hyphens)
                      (firstBracket_of_readFirstBracket firstBracket)

theorem openClass_of_opening {verbose : Bool} {input rest : List Char} {opened : OpenClass}
    (opening : ClassOpening verbose input opened rest) :
    Reads (openClass verbose input) opened rest := by
  cases opening with
  | @intro bracket tail _ _ _ _ _ _ _ shape goesOn negation hyphens firstBracket =>
      rcases readNegation_of_negation negation (bracket :: tail) with ⟨_, negation⟩
      rcases readHyphens_of_hyphens hyphens (bracket :: tail) with ⟨_, hyphens⟩
      rcases readFirstBracket_of_firstBracket firstBracket (bracket :: tail) with ⟨_, firstBracket⟩
      unfold openClass
      simp only
      split
      · next equal => exact absurd (shape.symm.trans equal) goesOn
      · next equal =>
          cases shape.symm.trans equal
          simp only [negation, hyphens, firstBracket]
          exact ⟨_, rfl, rfl, rfl⟩

/-! ## Named classes -/

def namedText (negated : Bool) (name : List Char) : List Char :=
  '[' :: ':' :: ((if negated then ['^'] else []) ++ name ++ [':', ']'])

theorem alphabetic_of_ofName? {name : String} {kind : NamedClass}
    (known : NamedClass.ofName? name = some kind) : ∀ letter ∈ name.toList, letter.isAlpha := by
  unfold NamedClass.ofName? at known
  split at known
  case h_15 => cases known
  all_goals exact List.all_eq_true.mp (by decide)

theorem text_of_readNamedClass? {reading : Reading input ClassSet}
    (found : readNamedClass? input = some reading) :
    ∃ negated name kind span, NamedClass.ofName? (String.ofList name) = some kind ∧
      input = namedText negated name ++ reading.rest ∧
        reading.value = .named span kind negated := by
  unfold readNamedClass? at found
  split at found
  · next rest =>
      simp only at found
      split at found
      · next last equal =>
          rcases Option.map_eq_some_iff.mp found with ⟨kind, known, rfl⟩
          refine ⟨_, _, kind, _, known, ?_, rfl⟩
          have whole := List.takeWhile_append_dropWhile (p := (· ≠ ':'))
            (l := if rest.head? = some '^' then rest.drop 1 else rest)
          rw [equal] at whole
          by_cases caret : rest.head? = some '^'
          · rcases List.head?_eq_some_iff.mp caret with ⟨behind, rfl⟩
            rw [if_pos caret, List.drop_one, List.tail_cons] at whole
            simpa [namedText] using whole.symm
          · rw [if_neg caret] at whole
            simpa [namedText, caret] using whole.symm
      · cases found
  · cases found

theorem readNamedClass?_of_text (negated : Bool) {name : List Char} {kind : NamedClass}
    (known : NamedClass.ofName? (String.ofList name) = some kind) (rest : List Char) :
    ∃ span shorter, readNamedClass? (namedText negated name ++ rest) =
      some ⟨.named span kind negated, rest, shorter⟩ := by
  have letters := alphabetic_of_ofName? known
  rw [String.toList_ofList] at letters
  have apart : ∀ letter ∈ name, decide (letter ≠ ':') = true := by
    intro letter member
    refine decide_eq_true ?_
    rintro rfl
    exact absurd (letters _ member) (by decide)
  have ends : (name ++ ':' :: ']' :: rest).dropWhile (· ≠ ':') = ':' :: ']' :: rest := by
    rw [List.dropWhile_append_of_pos apart]
    rfl
  have starts : (name ++ ':' :: ']' :: rest).takeWhile (· ≠ ':') = name := by
    rw [List.takeWhile_append_of_pos apart, List.takeWhile_cons_of_neg (by decide), List.append_nil]
  have notCaret : (name ++ ':' :: ']' :: rest).head? ≠ some '^' := by
    cases name with
    | nil => exact fun caret => nomatch caret
    | cons first others =>
        intro caret
        cases caret
        exact absurd (letters '^' List.mem_cons_self) (by decide)
  obtain ⟨text, shape, isNegated, stripped⟩ : ∃ text,
      namedText negated name ++ rest = '[' :: ':' :: text ∧
        decide (text.head? = some '^') = negated ∧
        (if text.head? = some '^' then text.drop 1 else text) = name ++ ':' :: ']' :: rest := by
    cases negated with
    | true => exact ⟨'^' :: (name ++ ':' :: ']' :: rest), by simp [namedText], by simp, by simp⟩
    | false => exact ⟨name ++ ':' :: ']' :: rest, by simp [namedText], decide_eq_false notCaret,
        if_neg notCaret⟩
  have shorter : rest.length < (namedText negated name ++ rest).length := by
    simp only [namedText, List.length_append, List.length_cons]
    omega
  rw [shape] at shorter ⊢
  unfold readNamedClass?
  simp only
  split
  · next last equal =>
      rw [stripped, ends] at equal
      cases equal
      simp only [stripped, starts, known, isNegated, Option.map_some]
      exact ⟨_, shorter, rfl⟩
  · next notEnd =>
      rw [stripped, ends] at notEnd
      exact (notEnd _ rfl).elim

/-! ## Members and items -/

inductive Member (verbose : Bool) : List Char → Primitive → List Char → Prop where
  | escape {tail rest : List Char} {primitive : Primitive}
      (read : Escape verbose ('\\' :: tail) primitive rest) :
      Member verbose ('\\' :: tail) primitive rest
  | literal {character : Char} {rest : List Char} (notBackslash : character ≠ '\\') :
      Member verbose (character :: rest) (.literal ⟨.head (character :: rest), character, false⟩)
        rest

theorem member_of_readMember {verbose : Bool} {input : List Char}
    {reading : Reading input Primitive} (found : readMember verbose input = .ok reading) :
    Member verbose input reading.value reading.rest := by
  unfold readMember at found
  split at found
  · cases found
  · exact .escape (escape_of_readEscape found)
  · next notBackslash =>
      cases found
      exact .literal fun equal => notBackslash equal

theorem readMember_of_member {verbose : Bool} {input rest : List Char} {primitive : Primitive}
    (member : Member verbose input primitive rest) :
    Reads (readMember verbose input) primitive rest := by
  cases member with
  | escape read => exact readEscape_of_escape read
  | literal notBackslash =>
      rw [readMember]
      · exact ⟨_, rfl, rfl, rfl⟩
      · exact notBackslash

/-- The ways to write an item: a member before something that makes no range with it, or two members
with a hyphen between them. -/
inductive Itemizes (verbose : Bool) : List Char → ClassSet → List Char → Prop where
  | single {input afterFirst : List Char} {member : Primitive} {item : ClassSet} {next : Char}
      {rest : List Char} (first : Reads (readMember verbose input) member afterFirst)
      (skipped : skip verbose afterFirst = next :: rest)
      (ends : next = '-' → peekAfterHyphen verbose rest = some ']' ∨
        peekAfterHyphen verbose rest = some '-')
      (found : itemOf member = .ok item) : Itemizes verbose input item (next :: rest)
  | range {input afterFirst afterHyphen : List Char} {low high : Primitive}
      {least greatest : Literal} {next : Char} {middle rest : List Char}
      (first : Reads (readMember verbose input) low afterFirst)
      (hyphen : skip verbose afterFirst = '-' :: afterHyphen)
      (goesOn : ¬(peekAfterHyphen verbose afterHyphen = some ']' ∨
        peekAfterHyphen verbose afterHyphen = some '-'))
      (skipped : skip verbose afterHyphen = next :: middle)
      (second : Reads (readMember verbose (next :: middle)) high rest)
      (foundLow : boundaryOf low = .ok least) (foundHigh : boundaryOf high = .ok greatest)
      (ordered : least.character ≤ greatest.character) :
      Itemizes verbose input (.range least greatest) rest

theorem itemizes_of_readItem {verbose : Bool} {unclosed : Fault} {input : List Char}
    {reading : Reading input ClassSet} (found : readItem verbose unclosed input = .ok reading) :
    Itemizes verbose input reading.value reading.rest := by
  unfold readItem at found
  split at found
  · cases found
  · next member afterFirst shorter read =>
      split at found
      · cases found
      · next rest hyphen =>
          split at found
          · next ends =>
              rcases ok_of_map found with ⟨item, itemFound, rfl⟩
              exact .single ⟨_, read, rfl, rfl⟩ hyphen (fun _ => ends) itemFound
          · next goesOn =>
              split at found
              · cases found
              · next next tail skipped =>
                  split at found
                  · cases found
                  · next last after shorter' readLast =>
                      split at found
                      · next low high foundLow foundHigh =>
                          split at found
                          · next ordered =>
                              cases found
                              exact .range ⟨_, read, rfl, rfl⟩ hyphen goesOn skipped
                                ⟨_, readLast, rfl, rfl⟩ foundLow foundHigh ordered
                          · cases found
                      · cases found
                      · cases found
      · next next rest notHyphen skipped =>
          rcases ok_of_map found with ⟨item, itemFound, rfl⟩
          exact .single ⟨_, read, rfl, rfl⟩ skipped (fun equal => absurd equal notHyphen) itemFound

theorem readItem_of_itemizes {verbose : Bool} {input rest : List Char} {item : ClassSet}
    (unclosed : Fault) (itemizes : Itemizes verbose input item rest) :
    Reads (readItem verbose unclosed input) item rest := by
  cases itemizes with
  | @single _ _ _ _ rest first skipped ends found =>
      rcases first with ⟨⟨member, _, shorter⟩, read, rfl, rfl⟩
      unfold readItem
      simp only [read]
      split
      · next equal => cases skipped.symm.trans equal
      · next equal =>
          cases skipped.symm.trans equal
          rw [if_pos (ends rfl), found]
          exact ⟨_, rfl, rfl, rfl⟩
      · next equal =>
          cases skipped.symm.trans equal
          rw [found]
          exact ⟨_, rfl, rfl, rfl⟩
  | range first hyphen goesOn skipped second foundLow foundHigh ordered =>
      rcases first with ⟨⟨member, _, shorter⟩, read, rfl, rfl⟩
      rcases second with ⟨⟨last, _, shorter'⟩, readLast, rfl, rfl⟩
      unfold readItem
      simp only [read]
      split
      · next equal => cases hyphen.symm.trans equal
      · next equal =>
          cases hyphen.symm.trans equal
          rw [if_neg goesOn]
          split
          · next equal => cases skipped.symm.trans equal
          · next equal =>
              cases skipped.symm.trans equal
              simp only [readLast, foundLow, foundHigh, if_pos ordered]
              exact ⟨_, rfl, rfl, rfl⟩
      · next notHyphen equal =>
          cases hyphen.symm.trans equal
          exact (notHyphen rfl).elim

/-! ## Bodies -/

theorem doubled_of_setOperator? {input : List Char} {operator : SetOperator}
    (found : setOperator? input = some operator) :
    ∃ mark rest, input = mark :: mark :: rest ∧ mark ∈ ['&', '-', '~'] := by
  unfold setOperator? at found
  split at found
  · exact ⟨_, _, rfl, by decide⟩
  · exact ⟨_, _, rfl, by decide⟩
  · exact ⟨_, _, rfl, by decide⟩
  · cases found

/-- What comes next in a class: its bracket, a class within it, an operator or an item. Classes that
are open around it are closed after it. -/
inductive ClassBody (verbose : Bool) :
    OpenClass → List OpenClass → List Char → ClosedClass → List Char → Prop where
  | closing {current : OpenClass} {input rest : List Char}
      (shape : skip verbose input = ']' :: rest) :
      ClassBody verbose current [] input
        ⟨⟨current.opening.start, rest.length⟩, current.negated, current.body⟩ rest
  | inner {current parent : OpenClass} {others : List OpenClass} {input tail rest : List Char}
      {closed : ClosedClass} (shape : skip verbose input = ']' :: tail)
      (behind : ClassBody verbose (parent.push (.bracketed
        ⟨current.opening.start, tail.length⟩ current.negated current.body)) others tail closed
          rest) :
      ClassBody verbose current (parent :: others) input closed rest
  | named {current : OpenClass} {outer : List OpenClass} {input tail rest : List Char}
      {reading : Reading ('[' :: tail) ClassSet} {closed : ClosedClass}
      (shape : skip verbose input = '[' :: tail)
      (known : readNamedClass? ('[' :: tail) = some reading)
      (behind : ClassBody verbose (current.push reading.value) outer reading.rest closed rest) :
      ClassBody verbose current outer input closed rest
  | nested {current inner : OpenClass} {outer : List OpenClass}
      {input tail inside rest : List Char} {closed : ClosedClass}
      (shape : skip verbose input = '[' :: tail) (unknown : readNamedClass? ('[' :: tail) = none)
      (opening : ClassOpening verbose ('[' :: tail) inner inside)
      (behind : ClassBody verbose inner (current :: outer) inside closed rest) :
      ClassBody verbose current outer input closed rest
  | operator {current : OpenClass} {outer : List OpenClass} {input tail rest : List Char}
      {mark : Char} {operator : SetOperator} {closed : ClosedClass}
      (shape : skip verbose input = mark :: mark :: tail)
      (known : setOperator? (mark :: mark :: tail) = some operator)
      (behind : ClassBody verbose (current.applyOperator operator tail) outer tail closed rest) :
      ClassBody verbose current outer input closed rest
  | item {current : OpenClass} {outer : List OpenClass} {input tail next rest : List Char}
      {head : Char} {item : ClassSet} {closed : ClosedClass}
      (shape : skip verbose input = head :: tail) (noBracket : head ≠ ']' ∧ head ≠ '[')
      (noOperator : setOperator? (head :: tail) = none)
      (read : Itemizes verbose (head :: tail) item next)
      (behind : ClassBody verbose (current.push item) outer next closed rest) :
      ClassBody verbose current outer input closed rest

theorem ClassBody.nonempty {verbose : Bool} {current : OpenClass} {outer : List OpenClass}
    {input rest : List Char} {closed : ClosedClass}
    (body : ClassBody verbose current outer input closed rest) : skip verbose input ≠ [] := by
  cases body with
  | closing shape | inner shape | named shape | nested shape | operator shape | item shape =>
      rw [shape]
      exact List.cons_ne_nil _ _

theorem body_of_readBody {verbose : Bool} {current : OpenClass} {outer : List OpenClass}
    {input : List Char} {closed : ClosedClass}
    {rest : { rest : List Char // rest.length ≤ input.length }}
    (found : readBody verbose current outer input = .ok (closed, rest)) :
    ClassBody verbose current outer input closed rest.val := by
  fun_induction readBody verbose current outer input with
  | case1 => cases found
  | case2 current input bound tail shape span negated body closes =>
      cases found
      cases closes
      exact .closing shape
  | case3 => cases found
  | case4 current input bound tail shape span negated body closes parent others _ _ _ read
      induction =>
      cases found
      cases closes
      exact .inner shape (induction read)
  | case5 => cases found
  | case6 current outer input bound head tail _ shape named next shorter namedRead _ _ _ read
      induction =>
      cases found
      split at namedRead
      · next bracket =>
          subst bracket
          exact .named shape namedRead (induction read)
      · cases namedRead
  | case7 => cases found
  | case8 => cases found
  | case9 current outer input bound tail inner inside _ _ _ read _ shape notNamed _ opened
      induction =>
      cases found
      rw [dif_pos rfl] at notNamed
      exact .nested shape notNamed (opening_of_openClass opened) (induction read)
  | case10 => cases found
  | case11 current outer input bound head tail _ shape _ _ operator operates _ _ _ _ read =>
      rename_i induction
      cases found
      rcases doubled_of_setOperator? operates with ⟨mark, rest, equal, _⟩
      cases equal
      exact .operator shape operates (induction read)
  | case12 => cases found
  | case13 => cases found
  | case14 current outer input _ head tail notClosing shape _ notBracket noOperator item next
      shorter itemRead _ _ within read induction =>
      cases found
      exact .item shape ⟨notClosing, notBracket⟩ noOperator (itemizes_of_readItem itemRead)
        (induction read)

theorem readBody_of_body {verbose : Bool} {current : OpenClass} {outer : List OpenClass}
    {input rest : List Char} {closed : ClosedClass}
    (body : ClassBody verbose current outer input closed rest) :
    Leaves (readBody verbose current outer input) closed rest := by
  induction body with
  | closing shape =>
      rw [readBody]
      split
      · next equal => cases shape.symm.trans equal
      · next equal =>
          cases shape.symm.trans equal
          exact ⟨_, rfl⟩
      · next notClosing equal =>
          cases shape.symm.trans equal
          exact (notClosing rfl).elim
  | inner shape _ induction =>
      rcases induction with ⟨fits, read⟩
      rw [readBody]
      split
      · next equal => cases shape.symm.trans equal
      · next equal =>
          cases shape.symm.trans equal
          simp only [OpenClass.close, read]
          exact ⟨_, rfl⟩
      · next notClosing equal =>
          cases shape.symm.trans equal
          exact (notClosing rfl).elim
  | named shape known _ induction =>
      rcases induction with ⟨fits, read⟩
      rw [readBody]
      split
      · next equal => cases shape.symm.trans equal
      · next equal => cases shape.symm.trans equal
      · next equal =>
          cases shape.symm.trans equal
          simp only [if_true, known, read]
          exact ⟨_, rfl⟩
  | nested shape unknown opening _ induction =>
      rcases openClass_of_opening opening with ⟨⟨inner, inside, shorter⟩, opened, rfl, rfl⟩
      rcases induction with ⟨fits, read⟩
      rw [readBody]
      split
      · next equal => cases shape.symm.trans equal
      · next equal => cases shape.symm.trans equal
      · next equal =>
          cases shape.symm.trans equal
          simp only [if_true, unknown, opened, read]
          exact ⟨_, rfl⟩
  | @operator current _ _ tail rest mark operator closed shape known _ induction =>
      have noBracket : mark ≠ ']' ∧ mark ≠ '[' := by
        constructor <;> rintro rfl <;> cases known
      rcases induction with ⟨fits, read⟩
      rw [readBody]
      split
      · next equal => cases shape.symm.trans equal
      · next equal =>
          cases shape.symm.trans equal
          exact absurd rfl noBracket.1
      · next equal =>
          cases shape.symm.trans equal
          have behind : readBody verbose (current.applyOperator operator ((mark :: tail).drop 1)) _
              ((mark :: tail).drop 1) = .ok (closed, ⟨rest, fits⟩) := read
          simp only [if_neg noBracket.2, known, behind]
          exact ⟨_, rfl⟩
  | @item current _ _ _ _ _ _ _ _ shape noBracket noOperator itemizes _ induction =>
      rcases readItem_of_itemizes ⟨.classUnclosed, current.opening, none⟩ itemizes with
        ⟨⟨item, next, shorter⟩, member, rfl, rfl⟩
      rcases induction with ⟨fits, read⟩
      rw [readBody]
      split
      · next equal => cases shape.symm.trans equal
      · next equal =>
          cases shape.symm.trans equal
          exact absurd rfl noBracket.1
      · next equal =>
          cases shape.symm.trans equal
          simp only [if_neg noBracket.2, noOperator, member, read]
          exact ⟨_, rfl⟩

inductive ClassForm (verbose : Bool) : List Char → Tree → List Char → Prop where
  | intro {input inside rest : List Char} {opened : OpenClass} {closed : ClosedClass}
      (opening : ClassOpening verbose input opened inside)
      (body : ClassBody verbose opened [] inside closed rest) :
      ClassForm verbose input (.bracketed closed.span closed.negated closed.body) rest

theorem ClassForm.bracketed {verbose : Bool} {input rest : List Char} {tree : Tree}
    (form : ClassForm verbose input tree rest) :
    ∃ span negated body, tree = .bracketed span negated body := by
  cases form with
  | intro => exact ⟨_, _, _, rfl⟩

theorem class_of_readClass {verbose : Bool} {input : List Char} {reading : Reading input Tree}
    (found : readClass verbose input = .ok reading) :
    ClassForm verbose input reading.value reading.rest := by
  unfold readClass at found
  split at found
  · cases found
  · next opened =>
      split at found
      · cases found
      · next read =>
          cases found
          exact .intro (opening_of_openClass opened) (body_of_readBody read)

theorem readClass_of_class {verbose : Bool} {input rest : List Char} {tree : Tree}
    (form : ClassForm verbose input tree rest) : Reads (readClass verbose input) tree rest := by
  cases form with
  | intro opening body =>
      rcases openClass_of_opening opening with ⟨⟨opened, inside, shorter⟩, openRead, rfl, rfl⟩
      rcases readBody_of_body body with ⟨fits, bodyRead⟩
      unfold readClass
      simp only [openRead, bodyRead]
      exact ⟨_, rfl, rfl, rfl⟩

end UriDispatch.Regex
