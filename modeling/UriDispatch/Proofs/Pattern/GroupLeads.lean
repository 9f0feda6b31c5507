import UriDispatch.Proofs.Pattern.Flatness
import UriDispatch.Proofs.Regex.MarkedRuns

/-! What stands between the parenthesis of a group and its body. Names and flags are read alike
whatever comes after them. -/

namespace UriDispatch.Regex

open Fragment (isOrdinary leadsPlainly IsLead)

/-! ## Names -/

theorem Spelling.append {before input letters rest : List Char}
    (read : Spelling before input letters rest) :
    ∃ part, input = part ++ '>' :: rest ∧ '>' ∉ part ∧
      ∀ other, Spelling before (part ++ '>' :: other) letters other := by
  induction read with
  | closing => exact ⟨[], rfl, List.not_mem_nil, fun other => .closing⟩
  | @more _ _ _ _ letter goesOn isAllowed _ induction =>
      rcases induction with ⟨part, rfl, notInside, again⟩
      refine ⟨letter :: part, rfl, ?_, fun other => .more goesOn isAllowed (again other)⟩
      exact List.not_mem_cons_of_ne_of_not_mem (fun same => goesOn same.symm) notInside

theorem GroupName.append {names : List (List Char × Span)} {input rest : List Char}
    {name : List Char × Span} (isName : GroupName names input name rest) :
    ∃ part, input = part ++ '>' :: rest ∧ '>' ∉ part ∧
      ∀ (others : List (List Char × Span)) (other : List Char),
        (∀ letters : List Char,
          names.find? (·.1 = letters) = none → others.find? (·.1 = letters) = none) →
            ∃ moved, moved.1 = name.1 ∧ GroupName others (part ++ '>' :: other) moved other := by
  cases isName with
  | intro read nonempty new =>
      rcases read.append with ⟨part, equal, notInside, again⟩
      refine ⟨part, equal, notInside, fun others other fewer => ?_⟩
      exact ⟨_, by rfl, .intro (again other) nonempty (fewer _ new)⟩

/-! ## Flags -/

def isOfFlags (letter : Char) : Bool := letter = '-' || (Flag.ofLetter? letter).isSome

theorem different_of_isOfFlags {letter mark : Char} (ofFlags : isOfFlags letter)
    (excluded : isOfFlags mark = false) : letter ≠ mark := by
  rintro rfl
  exact absurd (excluded.symm.trans ofFlags) Bool.false_ne_true

theorem ordinary_of_isOfFlags {letter : Char} (ofFlags : isOfFlags letter) : isOrdinary letter := by
  simp only [isOrdinary, Bool.and_eq_true, decide_eq_true_eq]
  exact ⟨⟨⟨different_of_isOfFlags ofFlags rfl, different_of_isOfFlags ofFlags rfl⟩,
    different_of_isOfFlags ofFlags rfl⟩, different_of_isOfFlags ofFlags rfl⟩

theorem isOfFlags_of_known {letter : Char} {flag : Flag}
    (known : Flag.ofLetter? letter = some flag) : isOfFlags letter := by
  rw [isOfFlags, known, Option.isSome_some, Bool.or_true]

theorem FlagRun.append {list result : FlagList} {input rest : List Char}
    (run : FlagRun list input result rest) :
    ∃ part mark body, input = part ++ mark :: body ∧ rest = mark :: body ∧
      (mark = ':' ∨ mark = ')') ∧ (∀ letter ∈ part, isOfFlags letter) ∧
        ∀ (moved : FlagList) (other : List Char), moved.bare = list.bare →
          ∃ again, again.bare = result.bare ∧
            FlagRun moved (part ++ mark :: other) again (mark :: other) := by
  induction run with
  | @closing list mark tail ends complete =>
      refine ⟨[], mark, tail, rfl, rfl, ends, List.forall_mem_nil _,
        fun moved other same => ⟨moved, same, .closing ends fun dangling => ?_⟩⟩
      exact FlagList.negation_none_of_bare same
        (complete ((FlagList.dangling_of_bare same).symm.trans dangling))
  | @negation _ _ tail _ single _ induction =>
      rcases induction with ⟨part, mark, body, equal, left, ends, ofFlags, again⟩
      refine ⟨'-' :: part, mark, body, congrArg ('-' :: ·) equal, left, ends,
        List.forall_mem_cons.mpr ⟨rfl, ofFlags⟩, fun moved other same => ?_⟩
      rcases again _ other (FlagList.bare_negate same (.head ('-' :: tail))
        (.head ('-' :: (part ++ mark :: other)))) with ⟨last, alike, runToo⟩
      exact ⟨last, alike, .negation (FlagList.negation_none_of_bare same single) runToo⟩
  | @flag _ _ letter flag tail _ known new _ induction =>
      rcases induction with ⟨part, mark, body, equal, left, ends, ofFlags, again⟩
      refine ⟨letter :: part, mark, body, congrArg (letter :: ·) equal, left, ends,
        List.forall_mem_cons.mpr ⟨isOfFlags_of_known known, ofFlags⟩, fun moved other same => ?_⟩
      rcases again _ other (FlagList.bare_push same flag (.head (letter :: tail))
        (.head (letter :: (part ++ mark :: other)))) with ⟨last, alike, runToo⟩
      have newToo := find?_none_of_keys (FlagList.flags_of_bare same) new
      exact ⟨last, alike, .flag known newToo runToo⟩

def FlagList.Quiet (list : FlagList) : Prop :=
  ∀ entry ∈ list.flags, entry.1 = .verbose → entry.2.1 = false

theorem FlagList.Quiet.verbose {list : FlagList} (quiet : list.Quiet) :
    (list.changes.get? .verbose).getD false = false := by
  cases known : list.changes.get? .verbose with
  | none => rfl
  | some value =>
      rcases List.lookup_eq_some_iff.mp known with ⟨before, after, equal, _⟩
      have member : (Flag.verbose, value) ∈ list.changes := by
        rw [equal]
        exact List.mem_append_right _ List.mem_cons_self
      rcases List.mem_map.mp member with ⟨entry, inFlags, same⟩
      rcases Prod.mk.inj same with ⟨isVerbose, rfl⟩
      exact quiet entry (List.mem_reverse.mp inFlags) isVerbose

theorem letter_of_verbose {letter : Char} (known : Flag.ofLetter? letter = some .verbose) :
    letter = 'x' := by
  unfold Flag.ofLetter? at known
  split at known
  all_goals first | rfl | cases known

/-- Before the sign that turns flags off, only the letter for it turns on the verbose mode. -/
theorem FlagRun.quiet {list result : FlagList} {input rest : List Char}
    (run : FlagRun list input result rest) (quiet : list.Quiet)
    (plain : list.negation = none →
      'x' ∉ (input.takeWhile isOrdinary).takeWhile fun letter => letter ∉ [':', '-']) :
    result.Quiet := by
  induction run with
  | closing => exact quiet
  | negation _ _ induction => exact induction quiet fun none => absurd none (Option.some_ne_none _)
  | @flag list _ letter flag _ _ known _ _ induction =>
      have ordinary : isOrdinary letter := ordinary_of_isOfFlags (isOfFlags_of_known known)
      have inside : decide (letter ∉ [':', '-']) = true := by
        simp only [decide_eq_true_eq, List.mem_cons, List.not_mem_nil, or_false]
        rintro (rfl | rfl) <;> cases known
      rw [List.takeWhile_cons_of_pos ordinary,
        List.takeWhile_cons_of_pos (p := fun letter => letter ∉ [':', '-']) inside,
        List.mem_cons, not_or] at plain
      refine induction (List.forall_mem_cons.mpr ⟨fun isVerbose => ?_, quiet⟩)
        fun single => (plain single).2
      cases negation : list.negation with
      | some earlier => rfl
      | none =>
          change flag = .verbose at isVerbose
          subst isVerbose
          exact absurd (letter_of_verbose known).symm (plain negation).1

/-! ## Leads -/

theorem lookAround?_append {part rest : List Char} (long : 3 ≤ part.length)
    (noLook : lookAround? (part ++ rest) = none) (other : List Char) :
    lookAround? (part ++ other) = none := by
  have alike {lead : String} (short : lead.toList.length ≤ 3)
      (missing : stripLead? lead (part ++ rest) = none) :
      stripLead? lead (part ++ other) = none := by
    unfold stripLead? at missing ⊢
    split at missing
    · cases missing
    · next leadsNot =>
        refine if_neg fun leads => leadsNot ?_
        rw [List.isPrefixOf_iff_prefix] at leads ⊢
        have inPart := List.prefix_of_prefix_length_le leads (List.prefix_append part other)
          (short.trans long)
        exact inPart.trans (List.prefix_append part rest)
  unfold lookAround? at noLook ⊢
  simp only [HOrElse.hOrElse, OrElse.orElse, Option.orElse_eq_or, Option.or_eq_none_iff]
    at noLook ⊢
  exact ⟨alike (by decide) noLook.1, alike (by decide) noLook.2.1, alike (by decide) noLook.2.2.1,
    alike (by decide) noLook.2.2.2⟩

theorem noLead_of_second {second : Char} (flags : second ∉ ['=', '!', '<', 'P']) (rest : List Char) :
    lookAround? ('?' :: second :: rest) = none ∧
      (stripLead? "?P<" ('?' :: second :: rest)).or (stripLead? "?<" ('?' :: second :: rest)) =
        none := by
  simp only [List.mem_cons, List.not_mem_nil, or_false, not_or] at flags
  simp [lookAround?, stripLead?, flags, Ne.symm]

theorem prefix_of_stripLead? {lead : String} {input rest : List Char}
    (stripped : stripLead? lead input = some rest) : input = lead.toList ++ rest := by
  unfold stripLead? at stripped
  split at stripped
  · next leads =>
      rcases List.isPrefixOf_iff_prefix.mp leads with ⟨behind, rfl⟩
      rw [String.length, List.drop_left] at stripped
      rw [Option.some.inj stripped]
  · cases stripped

theorem nameLead_cases {input nameStart : List Char}
    (lead : (stripLead? "?P<" input).or (stripLead? "?<" input) = some nameStart) :
    ∃ marks, (marks = ['?', 'P', '<'] ∨ marks = ['?', '<']) ∧ input = marks ++ nameStart ∧
      ∀ other, (stripLead? "?P<" (marks ++ other)).or (stripLead? "?<" (marks ++ other)) =
        some other := by
  rcases Option.or_eq_some_iff.mp lead with long | ⟨_, short⟩
  · exact ⟨_, .inl rfl, prefix_of_stripLead? long, fun _ => rfl⟩
  · exact ⟨_, .inr rfl, prefix_of_stripLead? short, fun _ => rfl⟩

theorem mem_of_leadsPlainly {marks rest : List Char}
    (names : marks = ['?', 'P', '<'] ∨ marks = ['?', '<'])
    (plain : leadsPlainly (marks ++ rest)) : '>' ∈ rest.takeWhile isOrdinary := by
  rcases names with rfl | rfl <;> exact of_decide_eq_true plain

theorem ordinary_of_mem_takeWhile {letters rest : List Char} (notInside : '>' ∉ letters)
    (closed : '>' ∈ (letters ++ '>' :: rest).takeWhile isOrdinary) :
    ∀ letter ∈ letters, isOrdinary letter := by
  induction letters with
  | nil => exact fun _ member => nomatch member
  | cons head tail induction =>
      rw [List.mem_cons, not_or] at notInside
      by_cases ordinary : isOrdinary head
      · rw [List.cons_append, List.takeWhile_cons_of_pos ordinary, List.mem_cons] at closed
        exact List.forall_mem_cons.mpr
          ⟨ordinary, induction notInside.2 (closed.resolve_left notInside.1)⟩
      · rw [List.cons_append, List.takeWhile_cons_of_neg ordinary] at closed
        cases closed

theorem flags_of_leadsPlainly {second : Char} {rest : List Char} (flags : second ∉ ['<', 'P'])
    (plain : leadsPlainly ('?' :: second :: rest)) :
    'x' ∉ ((second :: rest).takeWhile isOrdinary).takeWhile fun letter => letter ∉ [':', '-'] := by
  simp only [List.mem_cons, List.not_mem_nil, or_false, not_or] at flags
  rw [leadsPlainly, List.takeWhile_cons_of_pos (by decide)] at plain
  by_cases ordinary : isOrdinary second
  · rw [List.takeWhile_cons_of_pos ordinary] at plain ⊢
    simpa [flags] using plain
  · rw [List.takeWhile_cons_of_neg ordinary]
    exact List.not_mem_nil

theorem FlagRun.lead {start body : List Char} {list : FlagList} {mark : Char}
    (run : FlagRun ⟨[], none, false⟩ start list (mark :: body))
    (plain : leadsPlainly ('?' :: start)) :
    ∃ letters, start = letters ++ mark :: body ∧ (mark = ':' ∨ mark = ')') ∧
      (∀ letter ∈ letters, isOrdinary letter) ∧ (list.changes.get? .verbose).getD false = false ∧
        ∀ other, lookAround? ('?' :: letters ++ mark :: other) = none ∧
          (stripLead? "?P<" ('?' :: letters ++ mark :: other)).or
            (stripLead? "?<" ('?' :: letters ++ mark :: other)) = none ∧
          ∃ again, again.bare = list.bare ∧
            FlagRun ⟨[], none, false⟩ (letters ++ mark :: other) again (mark :: other) := by
  rcases run.append with ⟨letters, ending, behind, equal, left, ends, ofFlags, again⟩
  rcases List.cons.inj left with ⟨rfl, rfl⟩
  -- What decides about the lead is the letter behind the question mark.
  have seconds (other : List Char) : ∃ second tail, letters ++ mark :: other = second :: tail ∧
      second ∉ ['=', '!', '<', 'P'] := by
    cases letters with
    | nil => exact ⟨mark, other, rfl, by rcases ends with rfl | rfl <;> decide⟩
    | cons letter others =>
        have isFlag := (List.forall_mem_cons.mp ofFlags).1
        have different {excluded : Char} (none : isOfFlags excluded = false) :=
          different_of_isOfFlags isFlag none
        refine ⟨letter, others ++ mark :: other, rfl, ?_⟩
        simp only [List.mem_cons, List.not_mem_nil, or_false, not_or]
        exact ⟨different rfl, different rfl, different rfl, different rfl⟩
  refine ⟨letters, equal, ends, fun letter member => ordinary_of_isOfFlags (ofFlags letter member),
    ?_, fun other => ?_⟩
  · have quiet := run.quiet (fun _ member => nomatch member) fun _ => ?_
    · exact quiet.verbose
    · rcases seconds body with ⟨second, tail, shape, flags⟩
      rw [← equal] at shape
      subst shape
      refine flags_of_leadsPlainly (fun member => flags ?_) plain
      exact List.mem_cons_of_mem _ (List.mem_cons_of_mem _ member)
  · rcases seconds other with ⟨second, tail, shape, flags⟩
    rw [List.cons_append, shape]
    have noLead := noLead_of_second flags tail
    rw [← shape] at noLead ⊢
    exact ⟨noLead.1, noLead.2, again ⟨[], none, false⟩ other rfl⟩

/-! ## Openings -/

def ParserState.within (state : ParserState) (names : List (List Char × Span))
    (around : List OpenGroup) : ParserState :=
  { state with names := state.names ++ names, groups := state.groups ++ around }

structure ParserState.Quiet (state : ParserState) : Prop where
  verbose : state.verbose = false
  groups : ∀ group ∈ state.groups, group.outerVerbose = false

theorem ParserState.Quiet.openGroup {state : ParserState} (quiet : state.Quiet) (place : Span)
    (kind : GroupKind) (body : List Char) {verbose : Bool} (off : verbose = false) :
    (state.openGroup place kind verbose body).Quiet :=
  ⟨off, List.forall_mem_cons.mpr ⟨quiet.verbose, quiet.groups⟩⟩

theorem find?_none_of_within {state moved : ParserState} {names : List (List Char × Span)}
    {around : List OpenGroup} (same : (moved.within names around).plain = state.plain)
    {name : List Char} (new : state.names.find? (·.1 = name) = none) :
    moved.names.find? (·.1 = name) = none := by
  have keys := ParserState.names_of_plain same
  have inBoth := find?_none_of_keys keys new
  change (moved.names ++ names).find? (·.1 = name) = none at inBoth
  rw [List.find?_append, Option.or_eq_none_iff] at inBoth
  exact inBoth.1

theorem GroupOpening.append {state next : ParserState} {opening : Span} {start left : List Char}
    (opens : GroupOpening state opening ('?' :: start) next left)
    (plain : leadsPlainly ('?' :: start)) (quiet : state.Quiet) :
    ∃ part opened, '?' :: start = part ++ left ∧ IsLead part opened ∧
      (∃ pushed, next.groups = pushed ++ state.groups ∧ pushed.length = opened) ∧ next.Quiet ∧
        ∀ (moved : ParserState) (names : List (List Char × Span)) (around : List OpenGroup)
          (place : Span) (other : List Char), (moved.within names around).plain = state.plain →
            ∃ last, GroupOpening moved place (part ++ other) last other ∧
              (last.within names around).plain = next.plain := by
  generalize shape : '?' :: start = inner at opens plain
  cases opens with
  | named noLook lead isName =>
      rcases nameLead_cases lead with ⟨marks, marksCases, rfl, leadAgain⟩
      rcases isName.append with ⟨letters, rfl, notInside, again⟩
      have ordinary : ∀ mark ∈ letters, isOrdinary mark :=
        ordinary_of_mem_takeWhile notInside (mem_of_leadsPlainly marksCases plain)
      have closed : ∀ mark ∈ letters ++ ['>'], isOrdinary mark :=
        List.forall_mem_append.mpr ⟨ordinary, List.forall_mem_singleton.mpr rfl⟩
      have lead : IsLead (marks ++ (letters ++ ['>'])) 1 := by
        rcases marksCases with rfl | rfl
        · exact .opens (List.forall_mem_append.mpr ⟨by simp [isOrdinary], closed⟩)
        · exact .opens (List.forall_mem_append.mpr ⟨by simp [isOrdinary], closed⟩)
      have long : 3 ≤ (marks ++ (letters ++ ['>'])).length := by
        rcases marksCases with rfl | rfl <;> simp
      have whole (other : List Char) :
          marks ++ (letters ++ ['>']) ++ other = marks ++ (letters ++ '>' :: other) := by simp
      refine ⟨_, 1, (whole left).symm, lead, ⟨[_], rfl, rfl⟩,
        ⟨quiet.verbose, List.forall_mem_cons.mpr ⟨quiet.verbose, quiet.groups⟩⟩,
        fun moved names around place other same => ?_⟩
      rcases again moved.names other fun _ => find?_none_of_within same with
        ⟨name, sameName, nameToo⟩
      rw [← whole] at noLook
      refine ⟨_, .named (lookAround?_append long noLook other) ?_ nameToo, ?_⟩
      · rw [whole]
        exact leadAgain _
      · exact ParserState.plain_openGroup (ParserState.plain_named same sameName _ _) (by rfl)
          (ParserState.verbose_of_plain same) _ _ _ _
  | flags noLook noLead run some =>
      rcases run.lead plain with ⟨letters, rfl, _, ordinary, off, again⟩
      refine ⟨'?' :: letters ++ [')'], 0, by simp, .sets ordinary, ⟨[], rfl, rfl⟩, ⟨?_, quiet.groups⟩,
        fun moved names around place other same => ?_⟩
      · rw [quiet.verbose]
        exact off
      · rcases again other with ⟨noLook, noLead, last, alike, runToo⟩
        have changes := FlagList.changes_of_bare alike
        rw [List.append_assoc]
        refine ⟨_, .flags noLook noLead runToo ((FlagList.isEmpty_of_bare alike).trans some), ?_⟩
        refine ParserState.plain_setVerbose (ParserState.plain_push same ?_) ?_
        · rw [changes]
          rfl
        · rw [changes, ← ParserState.verbose_of_plain same]
          rfl
  | plain noLook noLead run opens =>
      rcases run.lead plain with ⟨letters, rfl, ends, ordinary, off, again⟩
      cases ends.resolve_right opens
      refine ⟨'?' :: letters ++ [':'], 1, by simp, .opens ?_, ⟨[_], rfl, rfl⟩,
        quiet.openGroup _ _ _ ?_, fun moved names around place other same => ?_⟩
      · exact List.forall_mem_append.mpr ⟨ordinary, List.forall_mem_singleton.mpr rfl⟩
      · rw [quiet.verbose]
        exact off
      · rcases again other with ⟨noLook, noLead, last, alike, runToo⟩
        have changes := FlagList.changes_of_bare alike
        rw [List.append_assoc]
        refine ⟨_, .plain noLook noLead runToo opens, ?_⟩
        refine ParserState.plain_openGroup same (by exact changes) ?_ _ _ _ _
        rw [changes, ← ParserState.verbose_of_plain same]
        rfl
  | capture notMark =>
      subst shape
      exact absurd rfl notMark

end UriDispatch.Regex
