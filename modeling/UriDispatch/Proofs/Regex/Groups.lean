import Mathlib.Data.Nat.Init
import UriDispatch.Proofs.Regex.ClassForms

/-! Openings of groups. A group is named, carries flags, sets flags without being one, or captures
without a name; nothing else can follow an opening parenthesis. -/

namespace UriDispatch.Regex

/-! ## Names -/

inductive Spelling : List Char → List Char → List Char → List Char → Prop where
  | closing {before rest : List Char} : Spelling before ('>' :: rest) before.reverse rest
  | more {before tail letters rest : List Char} {letter : Char} (goesOn : letter ≠ '>')
      (isAllowed : (if before.isEmpty then isNameStart letter else isNameCharacter letter) = true)
      (behind : Spelling (letter :: before) tail letters rest) :
      Spelling before (letter :: tail) letters rest

theorem spelling_of_readNameLetters {before input : List Char} {reading : Reading input (List Char)}
    (found : readNameLetters before input = .ok reading) :
    Spelling before input reading.value reading.rest := by
  fun_induction readNameLetters before input with
  | case1 => cases found
  | case2 =>
      cases found
      exact .closing
  | case3 before letter tail goesOn isAllowed induction =>
      rcases ok_of_map found with ⟨inner, read, rfl⟩
      exact .more goesOn isAllowed (induction read)
  | case4 => cases found

theorem readNameLetters_of_spelling {before input letters rest : List Char}
    (read : Spelling before input letters rest) :
    Reads (readNameLetters before input) letters rest := by
  induction read with
  | closing =>
      rw [readNameLetters, if_pos rfl]
      exact ⟨_, rfl, rfl, rfl⟩
  | more goesOn isAllowed _ induction =>
      rcases induction with ⟨reading, read, value, left⟩
      rw [readNameLetters, if_neg goesOn, if_pos isAllowed, read]
      exact ⟨_, rfl, value, left⟩

inductive GroupName (names : List (List Char × Span)) :
    List Char → List Char × Span → List Char → Prop where
  | intro {input letters rest : List Char} (read : Spelling [] input letters rest)
      (nonempty : letters ≠ []) (new : names.find? (·.1 = letters) = none) :
      GroupName names input (letters, ⟨input.length, input.length - letters.length⟩) rest

theorem name_of_readName {names : List (List Char × Span)} {input : List Char}
    {reading : Reading input (List Char × Span)} (found : readName names input = .ok reading) :
    GroupName names input reading.value reading.rest := by
  unfold readName at found
  split at found
  · cases found
  · next read =>
      simp only at found
      split at found
      · cases found
      · next nonempty =>
          split at found
          · cases found
          · next new =>
              cases found
              exact .intro (spelling_of_readNameLetters read) (mt List.isEmpty_iff.mpr nonempty) new

theorem readName_of_name {names : List (List Char × Span)} {input rest : List Char}
    {name : List Char × Span} (isName : GroupName names input name rest) :
    Reads (readName names input) name rest := by
  cases isName with
  | intro read nonempty new =>
      rcases readNameLetters_of_spelling read with ⟨⟨_, _, _⟩, found, rfl, rfl⟩
      unfold readName
      simp only [found, List.isEmpty_iff, if_neg nonempty, new]
      exact ⟨_, rfl, rfl, rfl⟩

/-! ## Flags -/

inductive FlagRun : FlagList → List Char → FlagList → List Char → Prop where
  | closing {list : FlagList} {mark : Char} {tail : List Char} (ends : mark = ':' ∨ mark = ')')
      (complete : list.dangling = true → list.negation = none) :
      FlagRun list (mark :: tail) list (mark :: tail)
  | negation {list result : FlagList} {tail rest : List Char} (single : list.negation = none)
      (behind : FlagRun { list with
        negation := some (.head ('-' :: tail))
        dangling := true } tail result rest) :
      FlagRun list ('-' :: tail) result rest
  | flag {list result : FlagList} {letter : Char} {flag : Flag} {tail rest : List Char}
      (known : Flag.ofLetter? letter = some flag) (new : list.flags.find? (·.1 = flag) = none)
      (behind : FlagRun { list with
        flags := (flag, list.negation.isNone, .head (letter :: tail)) :: list.flags
        dangling := false } tail result rest) :
      FlagRun list (letter :: tail) result rest

theorem flags_of_readFlags {list result : FlagList} {input : List Char}
    {rest : { rest : List Char // rest.length ≤ input.length }}
    (found : readFlags list input = .ok (result, rest)) : FlagRun list input result rest.val := by
  fun_induction readFlags list input generalizing result with
  | case1 => cases found
  | case2 => cases found
  | case3 list mark tail ends notDangling =>
      cases found
      refine .closing ends fun dangling => ?_
      cases negation : list.negation with
      | none => rfl
      | some span => exact (notDangling span dangling negation).elim
  | case4 => cases found
  | case5 => cases found
  | case6 list letter tail span goesOn added next adds =>
      rename_i read induction
      cases found
      simp only [added] at adds
      split at adds
      · next isNegation =>
          subst isNegation
          split at adds
          · cases adds
          · next single =>
              cases adds
              exact .negation single (induction read)
      · split at adds
        · cases adds
        · next known =>
            split at adds
            · cases adds
            · next new =>
                cases adds
                exact .flag known new (induction read)

theorem readFlags_of_flags {list result : FlagList} {input rest : List Char}
    (flags : FlagRun list input result rest) : Leaves (readFlags list input) result rest := by
  induction flags with
  | @closing list _ _ ends complete =>
      rw [readFlags, if_pos ends]
      split
      · next dangling negation =>
          cases (complete dangling).symm.trans negation
      · exact ⟨_, rfl⟩
  | negation single _ induction =>
      rcases induction with ⟨fits, read⟩
      rw [readFlags, if_neg (by decide)]
      simp only [if_true, single, read]
      exact ⟨_, rfl⟩
  | @flag _ _ letter _ _ _ known new _ induction =>
      rcases induction with ⟨fits, read⟩
      have goesOn : ¬(letter = ':' ∨ letter = ')') ∧ letter ≠ '-' := by
        refine ⟨?_, ?_⟩
        · rintro (rfl | rfl) <;> cases known
        · rintro rfl
          cases known
      rw [readFlags, if_neg goesOn.1]
      simp only [if_neg goesOn.2, known, new, read]
      exact ⟨_, rfl⟩

/-! ## Leads -/

theorem stripLead?_none {lead : String} (marked : lead.toList.head? = some '?') {input : List Char}
    (notMark : input.head? ≠ some '?') : stripLead? lead input = none := by
  refine if_neg fun leads => ?_
  rcases List.isPrefixOf_iff_prefix.mp leads with ⟨rest, rfl⟩
  refine notMark ?_
  rw [List.head?_append, marked]
  rfl

theorem lookAround?_none {input : List Char} (notMark : input.head? ≠ some '?') :
    lookAround? input = none := by
  unfold lookAround?
  rw [stripLead?_none (by decide) notMark, stripLead?_none (by decide) notMark,
    stripLead?_none (by decide) notMark, stripLead?_none (by decide) notMark]
  rfl

/-! ## Ways to open -/

/-- The state behind a group opening, given what follows its parenthesis, and what is left. -/
inductive GroupOpening (state : ParserState) (opening : Span) :
    List Char → ParserState → List Char → Prop where
  | named {inner nameStart body : List Char} {name : List Char × Span}
      (noLook : lookAround? inner = none)
      (lead : (stripLead? "?P<" inner).or (stripLead? "?<" inner) = some nameStart)
      (isName : GroupName state.names nameStart name body) :
      GroupOpening state opening inner
        ({ state with
            captures := state.captures + 1
            names := name :: state.names }.openGroup opening (.capture (state.captures + 1))
          state.verbose body) body
  | flags {flagStart body : List Char} {list : FlagList}
      (noLook : lookAround? ('?' :: flagStart) = none)
      (noLead :
        (stripLead? "?P<" ('?' :: flagStart)).or (stripLead? "?<" ('?' :: flagStart)) = none)
      (run : FlagRun ⟨[], none, false⟩ flagStart list (')' :: body))
      (some : list.isEmpty = false) :
      GroupOpening state opening ('?' :: flagStart)
        { state.push (.setFlags ⟨opening.start, body.length⟩ list.changes) with
          verbose := (list.changes.get? .verbose).getD state.verbose } body
  | plain {flagStart body : List Char} {list : FlagList} {mark : Char}
      (noLook : lookAround? ('?' :: flagStart) = none)
      (noLead :
        (stripLead? "?P<" ('?' :: flagStart)).or (stripLead? "?<" ('?' :: flagStart)) = none)
      (run : FlagRun ⟨[], none, false⟩ flagStart list (mark :: body)) (opens : mark ≠ ')') :
      GroupOpening state opening ('?' :: flagStart)
        (state.openGroup opening (.plain list.changes)
          ((list.changes.get? .verbose).getD state.verbose) body) body
  | capture {inner : List Char} (notMark : inner.head? ≠ some '?') :
      GroupOpening state opening inner
        ({ state with captures := state.captures + 1 }.openGroup opening
          (.capture (state.captures + 1)) state.verbose inner) inner

theorem opening_of_readGroup {state : ParserState} {parenthesis : Char} {rest : List Char}
    {reading : Reading (parenthesis :: rest) ParserState}
    (found : readGroup state (parenthesis :: rest) = .ok reading) :
    GroupOpening state (.head (parenthesis :: rest)) (skip state.verbose rest) reading.value
      reading.rest := by
  simp only [readGroup] at found
  split at found
  · cases found
  · next noLook =>
      split at found
      · next nameStart named =>
          split at found
          · cases found
          · next name body shorter read =>
              cases found
              exact .named noLook named (name_of_readName read)
      · next noLead =>
          split at found
          · cases found
          · next flagStart _ _ _ _ _ equal _ _ =>
              split at found
              · cases found
              · cases found
              · next list mark body fits read =>
                  rw [equal] at noLook noLead ⊢
                  split at found
                  · next closes =>
                      subst closes
                      split at found
                      · cases found
                      · next some =>
                          cases found
                          exact .flags noLook noLead (flags_of_readFlags read)
                            (Bool.eq_false_iff.mpr some)
                  · next opens =>
                      cases found
                      exact .plain noLook noLead (flags_of_readFlags read) opens
          · next noFlags =>
              cases found
              refine .capture fun mark => ?_
              rcases List.head?_eq_some_iff.mp mark with ⟨flagStart, equal⟩
              have within := length_skip_le state.verbose rest
              have noLead' := noLead
              rw [equal] at within noLead'
              exact noFlags flagStart within noLead' equal (proof_irrel_heq _ _)
                (proof_irrel_heq _ _)

theorem readGroup_flags {state : ParserState} (parenthesis : Char) {mark : Char}
    {rest flagStart body : List Char} {list : FlagList}
    (shape : skip state.verbose rest = '?' :: flagStart)
    (noLook : lookAround? ('?' :: flagStart) = none)
    (noLead : (stripLead? "?P<" ('?' :: flagStart)).or (stripLead? "?<" ('?' :: flagStart)) = none)
    (run : FlagRun ⟨[], none, false⟩ flagStart list (mark :: body))
    (some : mark = ')' → list.isEmpty = false) :
    Reads (readGroup state (parenthesis :: rest))
      (if mark = ')' then
        { state.push (.setFlags ⟨(parenthesis :: rest).length, body.length⟩ list.changes) with
          verbose := (list.changes.get? .verbose).getD state.verbose }
      else
        state.openGroup (.head (parenthesis :: rest)) (.plain list.changes)
          ((list.changes.get? .verbose).getD state.verbose) body) body := by
  rcases readFlags_of_flags run with ⟨fits, read⟩
  have within := shape ▸ length_skip_le state.verbose rest
  have goesOn := noLead
  rw [← shape] at noLook noLead
  unfold readGroup
  simp only [noLook]
  split
  · next found => cases noLead.symm.trans found
  · split
    · next equal _ _ =>
        cases shape.symm.trans equal
        cases read
    · next equal _ _ =>
        cases shape.symm.trans equal
        simp only [read]
        split
        · next closes =>
            rw [if_neg (Bool.eq_false_iff.mp (some closes))]
            exact ⟨_, rfl, rfl, rfl⟩
        · exact ⟨_, rfl, rfl, rfl⟩
    · next noFlags =>
        exact (noFlags flagStart within goesOn shape (proof_irrel_heq _ _)
          (proof_irrel_heq _ _)).elim

theorem readGroup_of_opening {state next : ParserState} {parenthesis : Char}
    {rest left : List Char}
    (opening :
      GroupOpening state (.head (parenthesis :: rest)) (skip state.verbose rest) next left) :
    Reads (readGroup state (parenthesis :: rest)) next left := by
  generalize shape : skip state.verbose rest = inner at opening
  cases opening with
  | named noLook lead isName =>
      subst shape
      rcases readName_of_name isName with ⟨⟨_, _, _⟩, read, rfl, rfl⟩
      unfold readGroup
      simp only [noLook]
      split
      · next found =>
          cases lead.symm.trans found
          simp only [read]
          exact ⟨_, rfl, rfl, rfl⟩
      · next found => cases lead.symm.trans found
  | flags noLook noLead run some =>
      have found := readGroup_flags parenthesis shape noLook noLead run fun _ => some
      rwa [if_pos rfl] at found
  | plain noLook noLead run opens =>
      have found := readGroup_flags parenthesis shape noLook noLead run
        fun closes => absurd closes opens
      rwa [if_neg opens] at found
  | capture notMark =>
      subst shape
      unfold readGroup
      simp only [lookAround?_none notMark]
      split
      · next named =>
          rw [stripLead?_none (by decide) notMark, stripLead?_none (by decide) notMark] at named
          cases named
      · split
        · next equal _ _ => exact absurd (congrArg List.head? equal) notMark
        · next equal _ _ => exact absurd (congrArg List.head? equal) notMark
        · exact ⟨_, rfl, rfl, rfl⟩

theorem GroupOpening.eq_capture {state next : ParserState} {opening : Span} {left : List Char}
    (opens : GroupOpening state opening input next left)
    (counts : next.captures = state.captures + 1)
    (unnamed : next.names.length = state.names.length) :
    next = { state with captures := state.captures + 1 }.openGroup opening
        (.capture (state.captures + 1)) state.verbose input ∧ left = input := by
  cases opens with
  | named => exact absurd unnamed (Nat.succ_ne_self _)
  | flags => exact absurd counts.symm (Nat.succ_ne_self _)
  | plain => exact absurd counts.symm (Nat.succ_ne_self _)
  | capture => exact ⟨rfl, rfl⟩

/-! ## Single openings -/

theorem skip_mark (verbose : Bool) (rest : List Char) :
    skip verbose ('?' :: ':' :: rest) = '?' :: ':' :: rest := by
  cases verbose with
  | false => rfl
  | true =>
      have notBlank : Unicode.isBlank '?' = false := by decide
      simp [skip, dropBlanks, notBlank]

theorem stripLead?_mark (rest : List Char) :
    (stripLead? "?P<" ('?' :: ':' :: rest)).or (stripLead? "?<" ('?' :: ':' :: rest)) = none := by
  simp [stripLead?]

theorem readGroup_capture {state : ParserState} {rest : List Char}
    (notVerbose : state.verbose = false) (notMark : rest.head? ≠ some '?') :
    Reads (readGroup state ('(' :: rest))
      ({ state with captures := state.captures + 1 }.openGroup (.head ('(' :: rest))
        (.capture (state.captures + 1)) state.verbose rest) rest := by
  refine readGroup_of_opening ?_
  rw [notVerbose, skip_false, ← notVerbose]
  exact .capture notMark

theorem GroupOpening.unmarked {state next : ParserState} {opening : Span}
    {input left : List Char} (opens : GroupOpening state opening input next left)
    (notMark : input.head? ≠ some '?') :
    next = { state with captures := state.captures + 1 }.openGroup opening
        (.capture (state.captures + 1)) state.verbose input ∧ left = input := by
  cases opens with
  | named _ lead =>
      rw [stripLead?_none (by decide) notMark, stripLead?_none (by decide) notMark] at lead
      cases lead
  | flags => exact absurd rfl notMark
  | plain => exact absurd rfl notMark
  | capture => exact ⟨rfl, rfl⟩

theorem GroupOpening.mark (state : ParserState) (opening : Span) (body : List Char) :
    GroupOpening state opening ('?' :: ':' :: body)
      (state.openGroup opening (.plain []) state.verbose body) body := by
  have noLook : lookAround? ('?' :: ':' :: body) = none := by simp [lookAround?, stripLead?]
  have run : FlagRun ⟨[], none, false⟩ (':' :: body) ⟨[], none, false⟩ (':' :: body) :=
    .closing (.inl rfl) fun _ => rfl
  exact .plain noLook (stripLead?_mark body) run (by decide)

theorem GroupOpening.of_mark {state next : ParserState} {opening : Span} {body left : List Char}
    (opens : GroupOpening state opening ('?' :: ':' :: body) next left) :
    next = state.openGroup opening (.plain []) state.verbose body ∧ left = body := by
  cases opens with
  | named _ lead => cases (stripLead?_mark body).symm.trans lead
  | flags _ _ run =>
      cases run with
      | flag known => cases known
  | plain _ _ run =>
      cases run with
      | closing => exact ⟨rfl, rfl⟩
      | flag known => cases known
  | capture notMark => exact absurd rfl notMark

theorem readGroup_plain (state : ParserState) (body : List Char) :
    Reads (readGroup state ('(' :: '?' :: ':' :: body))
      (state.openGroup (.head ('(' :: '?' :: ':' :: body)) (.plain []) state.verbose body)
      body := by
  refine readGroup_of_opening ?_
  rw [skip_mark]
  exact .mark state _ body

end UriDispatch.Regex
