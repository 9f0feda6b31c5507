import UriDispatch.Proofs.Pattern.FragmentClasses
import UriDispatch.Proofs.Regex.Marks

/-! Classes before marks. A class that has no mark inside is read alike, however classes nest in it,
and no mark after it makes it go on or end elsewhere. -/

namespace UriDispatch.Regex

variable {allowed : Place → Prop} {input marked : List Char}

/-! ## Openings -/

theorem Negation.marks {verbose negated : Bool} {rest : List Char}
    (negation : Negation verbose input negated rest) (marks : Marks allowed input marked) :
    ∃ behind, Negation verbose marked negated behind ∧ Marks allowed rest behind := by
  cases negation with
  | caret shape goesOn =>
      subst shape
      rcases marks.uncons (by decide) with ⟨others, rfl, tailMarks⟩
      have skipped := tailMarks.skip verbose
      exact ⟨_, .caret rfl (skipped.ne_nil goesOn), skipped⟩
  | none noCaret => exact ⟨marked, .none (marks.head? ▸ noCaret), marks⟩

theorem Hyphens.marks {verbose : Bool} {items result : Items} {rest : List Char}
    (hyphens : Hyphens verbose items input result rest) (marks : Marks allowed input marked)
    {moved : Items} (alike : items.Alike moved) :
    ∃ again behind, Hyphens verbose moved marked again behind ∧ result.Alike again ∧
      Marks allowed rest behind := by
  induction hyphens generalizing marked moved with
  | none noHyphen => exact ⟨moved, marked, .none (marks.head? ▸ noHyphen), alike, marks⟩
  | @more items _ tail _ _ shape goesOn _ induction =>
      subst shape
      rcases marks.uncons (by decide) with ⟨others, rfl, tailMarks⟩
      have skipped := tailMarks.skip verbose
      have pushed : (items.push (.literal ⟨.head ('-' :: tail), '-', false⟩)).Alike
          (moved.push (.literal ⟨.head ('-' :: others), '-', false⟩)) := alike.push rfl
      rcases induction skipped pushed with ⟨again, behind, hyphensMarked, same, restMarks⟩
      exact ⟨again, behind, .more rfl (skipped.ne_nil goesOn) hyphensMarked, same, restMarks⟩

theorem FirstBracket.marks {verbose : Bool} {items result : Items} {rest : List Char}
    (firstBracket : FirstBracket verbose items input result rest)
    (marks : Marks allowed input marked) {moved : Items} (alike : items.Alike moved) :
    ∃ again behind, FirstBracket verbose moved marked again behind ∧ result.Alike again ∧
      Marks allowed rest behind := by
  cases firstBracket with
  | member shape goesOn first =>
      subst shape
      rcases marks.uncons (by decide) with ⟨others, rfl, tailMarks⟩
      have skipped := tailMarks.skip verbose
      refine ⟨_, _, .member rfl (skipped.ne_nil goesOn) (alike.nil_iff.mpr first), ?_, skipped⟩
      exact alike.push rfl
  | none noMember =>
      exact ⟨moved, marked, .none fun first => marks.head? ▸ noMember (alike.nil_iff.mp first),
        alike, marks⟩

theorem ClassOpening.marks {tail rest : List Char} {verbose : Bool} {opened : OpenClass}
    (opening : ClassOpening verbose ('[' :: tail) opened rest)
    (marks : Marks allowed ('[' :: tail) marked) :
    ∃ others moved behind, marked = '[' :: others ∧
      ClassOpening verbose ('[' :: others) moved behind ∧ opened.Alike moved ∧
        Marks allowed rest behind := by
  rcases marks.uncons (by decide) with ⟨others, rfl, tailMarks⟩
  have skipped := tailMarks.skip verbose
  cases opening with
  | intro shape goesOn negation hyphens firstBracket =>
      subst shape
      rcases negation.marks skipped with ⟨members, negationMarked, memberMarks⟩
      have starts : (Items.startingAt _).Alike (.startingAt members) := rfl
      rcases hyphens.marks memberMarks starts with ⟨_, _, hyphensMarked, hyphensAlike, hyphenMarks⟩
      rcases firstBracket.marks hyphenMarks hyphensAlike with
        ⟨_, behind, bracketMarked, itemsAlike, restMarks⟩
      refine ⟨others, _, behind, rfl, .intro rfl (skipped.ne_nil goesOn) negationMarked
        hyphensMarked bracketMarked, ?_, restMarks⟩
      exact ⟨rfl, rfl, itemsAlike⟩

/-! ## Named classes -/

theorem namedText_plain (negated : Bool) {name : List Char} {kind : NamedClass}
    (known : NamedClass.ofName? (String.ofList name) = some kind) :
    '(' ∉ namedText negated name := by
  have letters := alphabetic_of_ofName? known
  rw [String.toList_ofList] at letters
  have notInName : '(' ∉ name := fun member => absurd (letters _ member) (by decide)
  cases negated <;> simp [namedText, notInName]

theorem readNamedClass?_marks (marks : Marks allowed input marked)
    {reading : Reading input ClassSet} (found : readNamedClass? input = some reading) :
    ∃ value behind shorter, readNamedClass? marked = some ⟨value, behind, shorter⟩ ∧
      value.bare = reading.value.bare ∧ Marks allowed reading.rest behind := by
  rcases text_of_readNamedClass? found with ⟨negated, name, kind, span, known, equal, value⟩
  rw [equal] at marks
  rcases marks.drop_of_not_mem (namedText_plain negated known) with ⟨behind, rfl, restMarks⟩
  rcases readNamedClass?_of_text negated known behind with ⟨moved, shorter, read⟩
  refine ⟨_, behind, shorter, read, ?_, restMarks⟩
  rw [value]
  rfl

theorem readNamedClass?_none (marks : Marks allowed input marked)
    (noClass : readNamedClass? input = none) : readNamedClass? marked = none := by
  cases found : readNamedClass? marked with
  | none => rfl
  | some reading =>
      rcases text_of_readNamedClass? found with ⟨negated, name, kind, span, known, equal, _⟩
      rw [equal] at marks
      rcases marks.of_not_mem (namedText_plain negated known) with ⟨rest, rfl, _⟩
      rcases readNamedClass?_of_text negated known rest with ⟨_, _, read⟩
      rw [read] at noClass
      cases noClass

/-! ## Items -/

theorem find?_marks (condition : Char → Bool) (finds : condition '(')
    (marks : Marks allowed input marked) : marked.find? condition = input.find? condition := by
  induction marks with
  | nil => rfl
  | cons head _ induction => rw [List.find?_cons, List.find?_cons, induction]
  | mark => rw [List.find?_cons_of_pos finds, List.find?_cons_of_pos finds]

theorem peekAfterHyphen_marks (marks : Marks allowed input marked) (verbose : Bool) :
    peekAfterHyphen verbose marked = peekAfterHyphen verbose input := by
  cases verbose with
  | false => exact marks.head?
  | true =>
      have dropped := marks.dropWhile (by decide : Unicode.isBlank '(' = false)
      have start := marks.head?
      simp only [peekAfterHyphen, if_true, start]
      generalize input.dropWhile Unicode.isBlank = left at dropped
      generalize marked.dropWhile Unicode.isBlank = right at dropped
      cases dropped with
      | nil => rfl
      | mark => rfl
      | cons head rest =>
          by_cases comment : head = '#'
          · subst comment
            simp only [find?_marks (!Unicode.isBlank ·) (by decide) rest]
          · simp [comment]

theorem setOperator?_of_marks (marks : Marks allowed input marked) :
    setOperator? marked = setOperator? input := by
  cases marks with
  | nil => rfl
  | cons head rest => exact setOperator?_congr rfl rest.head?
  | mark => rfl

section Bounded

variable {bound : Nat} (after : ∀ place, allowed place → place ≤ bound)

include after

theorem Member.marks {verbose : Bool} {primitive : Primitive} {rest : List Char}
    (member : Member verbose input primitive rest) (marks : Marks allowed input marked)
    (fits : bound ≤ rest.length) :
    ∃ moved behind, Member verbose marked moved behind ∧ moved.bare = primitive.bare ∧
      Marks allowed rest behind := by
  cases member with
  | escape read =>
      rcases read.marks after marks fits with ⟨others, moved, behind, rfl, escape, same⟩
      exact ⟨moved, behind, .escape escape, same⟩
  | @literal character _ notBackslash =>
      rcases marks.uncons_before after fits with ⟨others, rfl, restMarks⟩
      exact ⟨_, others, .literal notBackslash, rfl, restMarks⟩

theorem Itemizes.marks {verbose : Bool} {item : ClassSet} {rest : List Char}
    (itemizes : Itemizes verbose input item rest) (marks : Marks allowed input marked)
    (fits : bound ≤ rest.length) :
    ∃ moved behind, Itemizes verbose marked moved behind ∧ moved.bare = item.bare ∧
      Marks allowed rest behind := by
  have member {text textMarked left : List Char} {primitive : Primitive}
      (reads : Reads (readMember verbose text) primitive left)
      (textMarks : Marks allowed text textMarked) (within : bound ≤ left.length) :
      ∃ moved behind, Reads (readMember verbose textMarked) moved behind ∧
        moved.bare = primitive.bare ∧ Marks allowed left behind := by
    rcases reads with ⟨reading, found, rfl, rfl⟩
    rcases (member_of_readMember found).marks after textMarks within with
      ⟨moved, behind, memberMarked, same⟩
    exact ⟨moved, behind, readMember_of_member memberMarked, same⟩
  cases itemizes with
  | @single afterFirst _ _ next rest first skipped ends found =>
      have within := (suffix_of_skip skipped).length_le
      rcases member first marks (fits.trans within) with ⟨low, behind, reads, same, behindMarks⟩
      have skippedMarks := behindMarks.skip verbose
      rw [skipped] at skippedMarks
      rcases List.head?_eq_some_iff.mp skippedMarks.head? with ⟨tail, skippedMarked⟩
      rcases itemOf_bare found same with ⟨moved, movedFound, bareEqual⟩
      rw [skippedMarked] at skippedMarks
      refine ⟨moved, next :: tail, .single reads skippedMarked ?_ movedFound, bareEqual,
        skippedMarks⟩
      rintro rfl
      rcases skippedMarks.uncons (by decide) with ⟨_, equal, tailMarks⟩
      cases equal
      rw [peekAfterHyphen_marks tailMarks]
      exact ends rfl
  | @range afterFirst afterHyphen _ _ least greatest next middle rest first hyphen goesOn skipped
      second foundLow foundHigh ordered =>
      have behindSecond : rest <:+ next :: middle := by
        rcases second with ⟨reading, found, _, rfl⟩
        exact (member_of_readMember found).suffix
      have within := (behindSecond.trans ((suffix_of_skip skipped).trans
        ((List.suffix_cons '-' afterHyphen).trans (suffix_of_skip hyphen)))).length_le
      rcases member first marks (fits.trans within) with
        ⟨low, behindLow, readsLow, sameLow, lowMarks⟩
      have hyphenMarks := lowMarks.skip verbose
      rw [hyphen] at hyphenMarks
      rcases hyphenMarks.uncons (by decide) with ⟨others, hyphenMarked, othersMarks⟩
      have skippedMarks := othersMarks.skip verbose
      rw [skipped] at skippedMarks
      rcases List.head?_eq_some_iff.mp skippedMarks.head? with ⟨tail, skippedMarked⟩
      rw [skippedMarked] at skippedMarks
      rcases member second skippedMarks fits with ⟨high, behind, readsHigh, sameHigh, behindMarks⟩
      rcases boundaryOf_bare foundLow sameLow with ⟨least', foundLow', bareLow⟩
      rcases boundaryOf_bare foundHigh sameHigh with ⟨greatest', foundHigh', bareHigh⟩
      rw [← peekAfterHyphen_marks othersMarks] at goesOn
      refine ⟨.range least' greatest', behind, .range readsLow hyphenMarked goesOn skippedMarked
        readsHigh foundLow' foundHigh' ?_, ?_, behindMarks⟩
      · rw [character_of_bare bareLow, character_of_bare bareHigh]
        exact ordered
      · simp only [ClassSet.bare, bareLow, bareHigh]

end Bounded

/-! ## Bodies -/

section Bounded

variable {bound : Nat} (after : ∀ place, allowed place → place ≤ bound)

include after

theorem ClassBody.marks {verbose : Bool} {current : OpenClass} {outer : List OpenClass}
    {closed : ClosedClass} {rest : List Char}
    (body : ClassBody verbose current outer input closed rest) (marks : Marks allowed input marked)
    (fits : bound ≤ rest.length) {moved : OpenClass} (alike : current.Alike moved)
    {movedOuter : List OpenClass} (outerAlike : List.Forall₂ OpenClass.Alike outer movedOuter) :
    ∃ again behind, ClassBody verbose moved movedOuter marked again behind ∧ closed.Alike again ∧
      Marks allowed rest behind := by
  induction body generalizing marked moved movedOuter with
  | closing shape =>
      cases outerAlike
      have skipped := marks.skip verbose
      rw [shape] at skipped
      rcases skipped.uncons (by decide) with ⟨behind, shapeMarked, restMarks⟩
      exact ⟨_, behind, .closing shapeMarked, ⟨alike.negated, alike.body⟩, restMarks⟩
  | inner shape _ induction =>
      have skipped := marks.skip verbose
      rw [shape] at skipped
      rcases skipped.uncons (by decide) with ⟨others, shapeMarked, tailMarks⟩
      cases outerAlike with
      | cons parentAlike othersAlike =>
          rcases induction tailMarks fits (parentAlike.push (alike.bracketed _ _)) othersAlike with
            ⟨again, behind, bodyMarked, same⟩
          exact ⟨again, behind, .inner shapeMarked bodyMarked, same⟩
  | named shape known _ induction =>
      have skipped := marks.skip verbose
      rw [shape] at skipped
      rcases skipped.uncons (by decide) with ⟨others, shapeMarked, _⟩
      rw [shapeMarked] at skipped
      rcases readNamedClass?_marks skipped known with
        ⟨value, behindName, shorter, knownMarked, same, behindMarks⟩
      rcases induction behindMarks fits (alike.push same) outerAlike with
        ⟨again, behind, bodyMarked, sameAgain⟩
      exact ⟨again, behind, .named shapeMarked knownMarked bodyMarked, sameAgain⟩
  | nested shape unknown opening _ induction =>
      have skipped := marks.skip verbose
      rw [shape] at skipped
      rcases opening.marks skipped with
        ⟨others, inner, inside, shapeMarked, openingMarked, innerAlike, insideMarks⟩
      have unknownMarked := readNamedClass?_none skipped unknown
      rw [shapeMarked] at unknownMarked
      rcases induction insideMarks fits innerAlike (.cons alike outerAlike) with
        ⟨again, behind, bodyMarked, same⟩
      exact ⟨again, behind, .nested shapeMarked unknownMarked openingMarked bodyMarked, same⟩
  | @operator _ _ _ tail _ mark operator _ shape known _ induction =>
      have skipped := marks.skip verbose
      rw [shape] at skipped
      have notParenthesis : mark ≠ '(' := by
        rintro rfl
        cases known
      rcases skipped.uncons notParenthesis with ⟨_, shapeMarked, nextMarks⟩
      rcases nextMarks.uncons notParenthesis with ⟨others, rfl, tailMarks⟩
      have knownMarked := (setOperator?_of_marks skipped).trans known
      rw [shapeMarked] at knownMarked
      rcases induction tailMarks fits (alike.applyOperator operator tail others) outerAlike with
        ⟨again, behind, bodyMarked, same⟩
      exact ⟨again, behind, .operator shapeMarked knownMarked bodyMarked, same⟩
  | item shape noBracket noOperator read body induction =>
      have skipped := marks.skip verbose
      rw [shape] at skipped
      have within := fits.trans body.suffix.length_le
      rcases skipped.uncons_before after (within.trans (Nat.le_of_lt_succ read.shorter)) with
        ⟨others, shapeMarked, _⟩
      rw [shapeMarked] at skipped
      rcases read.marks after skipped within with ⟨value, behindItem, readMarked, same, behindMarks⟩
      rcases induction behindMarks fits (alike.push same) outerAlike with
        ⟨again, behind, bodyMarked, sameAgain⟩
      exact ⟨again, behind, .item shapeMarked noBracket
        ((setOperator?_of_marks skipped).trans noOperator) readMarked bodyMarked, sameAgain⟩

theorem ClassForm.marks {tail rest : List Char} (marks : Marks allowed ('[' :: tail) marked)
    {verbose : Bool} {tree : Tree} (form : ClassForm verbose ('[' :: tail) tree rest)
    (fits : bound ≤ rest.length) :
    ∃ others moved behind, marked = '[' :: others ∧
      ClassForm verbose ('[' :: others) moved behind ∧ moved.plain = tree.plain ∧
        Marks allowed rest behind := by
  cases form with
  | intro opening body =>
      rcases opening.marks marks with
        ⟨others, opened, inside, rfl, openingMarked, alike, insideMarks⟩
      rcases body.marks after insideMarks fits alike .nil with
        ⟨closed, behind, bodyMarked, ⟨sameNegated, sameBody⟩, restMarks⟩
      refine ⟨others, _, behind, rfl, .intro openingMarked bodyMarked, ?_, restMarks⟩
      simp only [Tree.plain, Tree.strip, sameNegated, sameBody]

end Bounded

end UriDispatch.Regex
