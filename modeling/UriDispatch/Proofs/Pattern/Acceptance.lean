import UriDispatch.Proofs.Pattern.DefaultTrees
import UriDispatch.Proofs.Pattern.Parentheses
import UriDispatch.Proofs.Regex.KeptCaptures

/-! Which patterns can be compiled. If a pattern has no operators of its own and no fragments, its
names have to be distinct and its parentheses balanced, and nothing else is asked of it but that its
expression stays within the limits. -/

namespace UriDispatch

namespace Regex

/-! ## Limits -/

def Error.isLimit : Error → Bool
  | .tooLarge => true
  | .malformed _ fault => fault.cause = .nestedTooDeep

theorem compile_of_run_error {source : String} {fault : Fault}
    (failed : run (.initial source.toList) source.toList = .error fault) :
    compile source = .error (.malformed source fault) := by
  simp only [compile, meaning, parse, failed]

theorem compile_of_run {source : String} {tree : Tree}
    (ran : run (.initial source.toList) source.toList = .ok tree) {expression : Expression}
    {after : Flags} (meant : tree.meaning {} = .ok (expression, after)) :
    compile source = .ok ⟨source, expression⟩ ∨
      ∃ error, compile source = .error error ∧ error.isLimit := by
  cases deep : tree.tooDeep? 0 with
  | some span =>
      refine .inr ⟨.malformed source ⟨.nestedTooDeep, span, none⟩, ?_, rfl⟩
      simp only [compile, meaning, parse, ran, deep, fail]
  | none =>
      have whole : meaning source.toList = .ok expression := by
        simp only [meaning, parse, ran, deep, meant]
        rfl
      by_cases large : sizeLimit < expression.size
      · refine .inr ⟨.tooLarge, ?_, rfl⟩
        simp only [compile, whole, if_pos large]
      · left
        simp only [compile, whole, if_neg large]

/-! ## Parentheses left over -/

theorem run_unopened {state : ParserState} (notVerbose : state.verbose = false)
    (noGroups : state.groups = []) (rest : List Char) :
    run state (')' :: rest) = .error ⟨.groupUnopened, .head (')' :: rest), none⟩ := by
  rw [run]
  split
  · next equal =>
      rw [notVerbose] at equal
      cases equal
  · next equal =>
      rw [notVerbose] at equal
      cases equal
      simp only [step, closeGroup, noGroups, fail, Except.map]

theorem steps_open {state : ParserState} (notVerbose : state.verbose = false)
    (body : List Char) :
    ∃ opened, Steps state ('(' :: '?' :: ':' :: body) opened body ∧ opened.verbose = false ∧
      opened.groups.length = state.groups.length + 1 :=
  ⟨_, .single notVerbose (readGroup_plain state body), notVerbose, rfl⟩

theorem run_unclosed {state : ParserState} (notVerbose : state.verbose = false)
    {group : OpenGroup} {others : List OpenGroup} (groups : state.groups = group :: others) :
    run state [] = .error ⟨.groupUnclosed, group.parenthesis, none⟩ := by
  rw [run]
  split
  · rw [groups]
    rfl
  · next equal =>
      rw [notVerbose] at equal
      cases equal

end Regex

namespace Pattern

open Regex (Tree ParserState Steps)

/-! ## Outlines -/

namespace Outline

theorem captures_trees (fragments : Fragments) (outline : Outline) (before : Nat) :
    ((outline.trees fragments before).flatMap Tree.captures).map Prod.fst =
      List.range' (before + 1) outline.names.length := by
  induction outline generalizing before with
  | done => rfl
  | literal character plain rest induction => exact induction before
  | token letters rest induction =>
      rw [trees, List.flatMap_cons, Tree.captures, Regex.Tree.captures_plain, List.map_append,
        induction]
      rfl
  | optional body rest inner outer =>
      rw [trees, List.flatMap_cons, List.map_append, outer, Tree.captures, Tree.captures,
        Regex.Tree.captures_ofSequence, List.reverse_reverse, inner, names, List.length_append,
        Nat.add_right_comm]
      exact List.range'_append_1

theorem keepsCaptures_trees (fragments : Fragments) (outline : Outline) (before : Nat) :
    ∀ tree ∈ outline.trees fragments before, tree.keepsCaptures := by
  induction outline generalizing before with
  | done => exact List.forall_mem_nil _
  | literal character plain rest induction =>
      rw [trees, List.forall_mem_cons]
      exact ⟨rfl, induction before⟩
  | token letters rest induction =>
      rw [trees, List.forall_mem_cons]
      constructor
      · have none := (treeFor fragments (String.ofList letters)).captures_plain
        rw [Tree.keepsCaptures, Regex.Tree.keepsCaptures_of_captures none]
      · exact induction (before + 1)
  | optional body rest inner outer =>
      rw [trees, List.forall_mem_cons]
      constructor
      · apply Regex.Tree.keepsCaptures_ofSequence
        intro tree member
        exact inner before tree (List.mem_reverse.mp member)
      · exact outer (before + body.names.length)

theorem captures_items {fragments : Fragments} {outline : Outline}
    {expression : Regex.Expression} {after : Regex.Flags}
    (meant : (Tree.ofSequence .nowhere (outline.items fragments).reverse).meaning {} =
      .ok (expression, after)) :
    expression.captures = List.range' 1 outline.names.length := by
  have keeps : ∀ tree ∈ (outline.items fragments).reverse, tree.keepsCaptures := by
    intro tree member
    rw [List.mem_reverse, items, List.mem_cons, List.mem_append, List.mem_singleton] at member
    rcases member with rfl | inTrees | rfl
    · rfl
    · exact keepsCaptures_trees fragments outline 0 tree inTrees
    · rfl
  rw [Regex.captures_meaning_of_keepsCaptures (Regex.Tree.keepsCaptures_ofSequence _ keeps) meant,
    Regex.Tree.captures_ofSequence, List.reverse_reverse, items, List.flatMap_cons,
    List.flatMap_append]
  have own := captures_trees fragments outline 0
  rw [Nat.zero_add] at own
  simpa [Tree.captures] using own

theorem compile_source {fragments : Fragments} {outline : Outline}
    (fits : ∀ name ∈ outline.names, Fits fragments name ∧
      groupBody fragments name = .ok (groupText fragments name)) {text : String}
    (written : text.toList = '^' :: outline.text fragments ++ ['$']) :
    (∃ regex, Regex.compile text = .ok regex ∧ regex.captureCount = outline.names.length) ∨
      ∃ error, Regex.compile text = .error error ∧ error.isLimit := by
  rcases exists_run fits with ⟨tree, ran, bare⟩
  rcases goes_items fun name member => (fits name member).1 with ⟨expression, meantBare, _⟩
  have parallel := tree.parallel_bare {}
  rw [bare, meantBare] at parallel
  rcases parallel.of_ok_right with ⟨_, meant, rfl⟩
  rw [← written] at ran
  rcases Regex.compile_of_run ran meant with compiled | limited
  · refine .inl ⟨_, compiled, ?_⟩
    rw [Regex.captureCount, captures_items meantBare, Regex.foldl_max_range']
  · exact .inr limited

end Outline

/-! ## Rows -/

theorem translate_append (fragments : Fragments) (first second : List Piece) :
    translate fragments (first ++ second) =
      translate fragments first ++ translate fragments second :=
  List.flatMap_append

theorem translate_pieces (fragments : Fragments) (outline : Outline) :
    translate fragments outline.pieces = outline.text fragments := by
  induction outline with
  | done => rfl
  | literal character plain rest induction =>
      rw [Outline.pieces, translate_cons, induction, Outline.text, rewriteCharacter_eq]
      rfl
  | token letters rest induction =>
      rw [Outline.pieces, translate_cons, induction, Outline.text, Piece.translate,
        List.append_assoc]
      rfl
  | optional body rest inner outer =>
      rw [Outline.pieces, List.cons_append, translate_cons, translate_append, translate_cons,
        inner, outer, Outline.text]
      rfl

theorem fits_empty (outline : Outline) : ∀ name ∈ outline.names, Fits .empty name ∧
    groupBody .empty name = .ok (groupText .empty name) :=
  fun name _ => ⟨fits_default name, rfl⟩

namespace Row

def openText (outlines : List Outline) : List Char :=
  translate .empty (outlines.flatMap fun outline => .character '(' :: outline.pieces)

theorem openText_cons (outline : Outline) (others : List Outline) (rest : List Char) :
    openText (outline :: others) ++ rest =
      '(' :: '?' :: ':' :: (outline.text .empty ++ (openText others ++ rest)) := by
  rw [openText, List.flatMap_cons, List.cons_append, translate_cons, translate_append,
    translate_pieces, List.append_assoc, List.append_assoc]
  rfl

theorem steps_openText {state : ParserState} (notVerbose : state.verbose = false)
    (outlines : List Outline) :
    ∃ next, Steps state (openText outlines ++ ['$']) next ['$'] ∧ next.verbose = false ∧
      next.groups.length = state.groups.length + outlines.length := by
  induction outlines generalizing state with
  | nil => exact ⟨state, .here state _, notVerbose, rfl⟩
  | cons outline others induction =>
      rw [openText_cons]
      have ends : (openText others ++ ['$']).head? ≠ some '?' := by
        cases others with
        | nil => decide
        | cons second rest =>
            rw [openText_cons]
            simp
      rcases Regex.steps_open notVerbose (outline.text .empty ++ (openText others ++ ['$'])) with
        ⟨opened, opens, openedVerbose, deeper⟩
      rcases Outline.steps (fits_empty outline) ends openedVerbose with ⟨inner, inside, extended⟩
      rcases induction (extended.verbose.trans openedVerbose) with ⟨last, later, verbose, groups⟩
      refine ⟨last, (opens.trans inside).trans later, verbose, ?_⟩
      rw [groups, extended.groups, deeper, List.length_cons]
      omega

/-- A row with parentheses left over cannot be read to its end. -/
theorem run_error {row : Row} (leftOver : ¬(row.unopened = [] ∧ row.unclosed = []))
    {state : ParserState} (notVerbose : state.verbose = false) (noGroups : state.groups = []) :
    ∃ fault, Regex.run state (translate .empty row.pieces ++ ['$']) = .error fault ∧
      (fault.cause = .groupUnopened ∨ fault.cause = .groupUnclosed) := by
  rcases row with ⟨_ | ⟨first, others⟩, middle, unclosed⟩
  · have parts : translate .empty (pieces ⟨[], middle, unclosed⟩) ++ ['$'] =
        middle.text .empty ++ (openText unclosed ++ ['$']) := by
      rw [pieces, List.flatMap_nil, List.nil_append, translate_append, translate_pieces,
        List.append_assoc]
      rfl
    cases unclosed with
    | nil => exact absurd ⟨rfl, rfl⟩ leftOver
    | cons outline others =>
        have ends : (openText (outline :: others) ++ ['$']).head? ≠ some '?' := by
          rw [openText_cons]
          simp
        rcases Outline.steps (fits_empty middle) ends notVerbose with ⟨next, steps, extended⟩
        rcases steps_openText (extended.verbose.trans notVerbose) (outline :: others) with
          ⟨last, later, verbose, groups⟩
        have someGroup : 0 < last.groups.length := by
          rw [groups, List.length_cons]
          omega
        rcases List.exists_cons_of_length_pos someGroup with ⟨group, outer, openGroups⟩
        let anchored := last.push (.assertion (.head ['$']) .endOfLine)
        have anchor : Steps last ['$'] anchored [] := .single verbose ⟨_, rfl, rfl, rfl⟩
        have anchoredVerbose : anchored.verbose = false := verbose
        have anchoredGroups : anchored.groups = group :: outer := openGroups
        rw [parts, Regex.run_of_steps ((steps.trans later).trans anchor)]
        exact ⟨_, Regex.run_unclosed anchoredVerbose anchoredGroups, .inr rfl⟩
  · have parts : translate .empty (pieces ⟨first :: others, middle, unclosed⟩) ++ ['$'] =
        first.text .empty ++
          ')' :: '?' :: (translate .empty (pieces ⟨others, middle, unclosed⟩) ++ ['$']) := by
      have unopened : pieces ⟨first :: others, middle, unclosed⟩ =
          first.pieces ++ .character ')' :: pieces ⟨others, middle, unclosed⟩ := by
        simp [pieces]
      rw [unopened, translate_append, translate_pieces, translate_cons, List.append_assoc]
      rfl
    have ends : (')' :: '?' :: (translate .empty (pieces ⟨others, middle, unclosed⟩) ++
        ['$'])).head? ≠ some '?' := by simp
    rcases Outline.steps (fits_empty first) ends notVerbose with ⟨next, steps, extended⟩
    rw [parts, Regex.run_of_steps steps]
    exact ⟨_, Regex.run_unopened (extended.verbose.trans notVerbose)
      (extended.groups.trans noGroups) _, .inl rfl⟩

theorem compile_error {row : Row} (leftOver : ¬(row.unopened = [] ∧ row.unclosed = [])) :
    ∃ error, Regex.compile (sourceText .empty row.pieces) = .error error ∧
      error.isLimit = false := by
  let rest := translate .empty row.pieces ++ ['$']
  let opened := (ParserState.initial ('^' :: rest)).push (.assertion (.head ('^' :: rest))
    .startOfLine)
  have anchor : Steps (.initial ('^' :: rest)) ('^' :: rest) opened rest :=
    .single rfl ⟨_, rfl, rfl, rfl⟩
  have notVerbose : opened.verbose = false := rfl
  rcases run_error leftOver notVerbose rfl with ⟨fault, failed, cause⟩
  have source : (sourceText .empty row.pieces).toList = '^' :: rest := by
    rw [sourceText, String.toList_ofList]
    rfl
  have ran : Regex.run (.initial (sourceText .empty row.pieces).toList)
      (sourceText .empty row.pieces).toList = .error fault := by
    rw [source, Regex.run_of_steps anchor, failed]
  refine ⟨_, Regex.compile_of_run_error ran, ?_⟩
  apply decide_eq_false
  rcases cause with unopened | unclosed
  · rw [unopened]
    decide
  · rw [unclosed]
    decide

end Row

/-! ## Names -/

theorem fault?_empty (earlier : List String) (name : String) :
    fault? .empty earlier name = if name ∈ earlier then some (.duplicateName name) else none :=
  rfl

theorem firstFault?_empty (names : List String) :
    (firstFault? .empty [] names = none ∧ names.Nodup) ∨
      ∃ name, firstFault? .empty [] names = some (.duplicateName name) ∧ 2 ≤ names.count name := by
  cases found : firstFault? .empty [] names with
  | some error =>
      rcases (firstFault?_eq_some_iff .empty names error).mp found with
        ⟨earlier, name, later, rfl, _, refused⟩
      rw [fault?_empty] at refused
      split at refused
      · next taken =>
          cases refused
          refine .inr ⟨name, rfl, ?_⟩
          have before := List.count_pos_iff.mpr taken
          rw [List.count_append, List.count_cons_self]
          omega
      · cases refused
  | none =>
      refine .inl ⟨rfl, ?_⟩
      have faultless := (firstFault?_eq_none_iff .empty names).mp found
      clear found
      induction names using List.reverseRecOn with
      | nil => exact List.nodup_nil
      | append_singleton earlier name induction =>
          have fresh := faultless earlier name [] rfl
          rw [fault?_empty] at fresh
          rw [List.nodup_append]
          refine ⟨induction ?_, List.nodup_singleton name, ?_⟩
          · rintro first other rest rfl
            exact faultless first other (rest ++ [name]) (by simp)
          · rintro other member _ isLast rfl
            rw [List.mem_singleton.mp isLast] at member
            rw [if_pos member] at fresh
            cases fresh

/-! ## Verdicts -/

inductive Verdict (pattern : String) : Except CaptureError CompiledPattern → Prop where
  | repeated {name : String} (twice : 2 ≤ (tokens pattern).count name) :
      Verdict pattern (.error (.duplicateGroup name))
  | accepted (distinct : (tokens pattern).Nodup) (balanced : Balanced pattern.toList)
      (compiled : CompiledPattern) : Verdict pattern (.ok compiled)
  | limited (distinct : (tokens pattern).Nodup) (balanced : Balanced pattern.toList)
      {error : Regex.Error} (isLimit : error.isLimit) : Verdict pattern (.error (.regex error))
  | unbalanced (distinct : (tokens pattern).Nodup) (leftOver : ¬Balanced pattern.toList)
      {error : Regex.Error} (notLimit : error.isLimit = false) :
      Verdict pattern (.error (.regex error))

/-- A pattern has no operators of regular expressions that it does not escape. -/
def Operatorless (pattern : String) : Prop :=
  ∀ character ∈ pattern.toList, character ∉ ['[', ']', '{', '}', '|', '\\']

instance (pattern : String) : Decidable (Operatorless pattern) :=
  List.decidableBAll _ _

theorem exists_row_of_operatorless {pattern : String} (operatorless : Operatorless pattern) :
    ∃ row : Row, pieces pattern.toList = row.pieces ∧
      (Balanced pattern.toList ↔ row.unopened = [] ∧ row.unclosed = []) := by
  have cut := (cut_iff pattern.toList _).mpr rfl
  have plain : ∀ single, .character single ∈ pieces pattern.toList →
      isLiteral single ∨ single = '(' ∨ single = ')' := by
    intro single member
    have inText : single ∈ pattern.toList := by
      rw [← cut.flatMap_text]
      exact List.mem_flatMap.mpr ⟨_, member, List.mem_singleton_self single⟩
    have excluded := operatorless single inText
    simp only [List.mem_cons, List.not_mem_nil, or_false, not_or] at excluded
    by_cases isOpen : single = '('
    · exact .inr (.inl isOpen)
    · by_cases isClose : single = ')'
      · exact .inr (.inr isClose)
      · left
        simp [isLiteral, isOpen, isClose, excluded]
  rcases Row.exists_row plain with ⟨row, equal⟩
  refine ⟨row, equal, ?_⟩
  rw [← cut.flatMap_text, equal]
  apply Row.balanced_iff
  rw [← equal]
  exact plainNames_pieces pattern.toList

theorem verdict_compile {pattern : String} (operatorless : Operatorless pattern) :
    Verdict pattern (compile pattern .empty).value := by
  rcases exists_row_of_operatorless operatorless with ⟨row, equal, balanced⟩
  rw [value_compile, source_eq]
  rcases firstFault?_empty (tokens pattern) with ⟨noFault, distinct⟩ | ⟨name, fault, twice⟩
  · rw [noFault]
    simp only [build]
    by_cases belong : row.unopened = [] ∧ row.unclosed = []
    · have whole : row.pieces = row.middle.pieces := by simp [Row.pieces, belong]
      have names : tokens pattern = row.middle.names := by
        rw [tokens, equal, whole, Outline.filterMap_name?_pieces]
      have written : (sourceText .empty (pieces pattern.toList)).toList =
          '^' :: row.middle.text .empty ++ ['$'] := by
        rw [equal, whole, sourceText, String.toList_ofList, translate_pieces]
      rcases Outline.compile_source (fits_empty row.middle) written with
        ⟨regex, compiled, count⟩ | ⟨error, refused, isLimit⟩
      · simp only [compiled, count, names, if_true]
        exact .accepted (names ▸ distinct) (balanced.mpr belong) _
      · simp only [refused]
        exact .limited distinct (balanced.mpr belong) isLimit
    · rcases Row.compile_error belong with ⟨error, refused, notLimit⟩
      rw [equal]
      simp only [refused]
      exact .unbalanced distinct (fun isBalanced => belong (balanced.mp isBalanced)) notLimit
  · rw [fault]
    exact .repeated twice

def HitsLimit (outcome : Except CaptureError CompiledPattern) : Prop :=
  ∃ error, outcome = .error (.regex error) ∧ error.isLimit

/-- What is asked of a pattern, where the names are looked at first. -/
structure Judged (pattern : String) (outcome : Except CaptureError CompiledPattern) : Prop where
  duplicate_iff : (∃ name, outcome = .error (.duplicateGroup name)) ↔
    ∃ name, 2 ≤ (tokens pattern).count name
  ok_iff : (tokens pattern).Nodup → ¬HitsLimit outcome →
    ((∃ compiled, outcome = .ok compiled) ↔ Balanced pattern.toList)
  regex_of_unbalanced : (tokens pattern).Nodup → ¬Balanced pattern.toList →
    ∃ error, outcome = .error (.regex error)
  not_unbalancedFragment : ∀ name fragment, outcome ≠ .error (.unbalancedFragment name fragment)
  not_groupCount : ∀ expected found, outcome ≠ .error (.groupCount expected found)

/-- Names and parentheses decide whether a pattern can be compiled. -/
theorem compile_judged {pattern : String} (operatorless : Operatorless pattern) :
    Judged pattern (compile pattern .empty).value := by
  have verdict := verdict_compile operatorless
  generalize (compile pattern .empty).value = outcome at verdict
  have once (distinct : (tokens pattern).Nodup) : ¬∃ name, 2 ≤ (tokens pattern).count name := by
    rintro ⟨name, twice⟩
    have atMost := List.nodup_iff_count_le_one.mp distinct name
    omega
  cases verdict with
  | repeated twice =>
      constructor
      · exact iff_of_true ⟨_, rfl⟩ ⟨_, twice⟩
      · exact fun distinct => absurd ⟨_, twice⟩ (once distinct)
      · exact fun distinct => absurd ⟨_, twice⟩ (once distinct)
      · exact fun _ _ => nofun
      · exact fun _ _ => nofun
  | accepted distinct balanced compiled =>
      constructor
      · exact iff_of_false (fun ⟨_, impossible⟩ => nomatch impossible) (once distinct)
      · exact fun _ _ => iff_of_true ⟨compiled, rfl⟩ balanced
      · exact fun _ leftOver => absurd balanced leftOver
      · exact fun _ _ => nofun
      · exact fun _ _ => nofun
  | limited distinct balanced isLimit =>
      constructor
      · exact iff_of_false (fun ⟨_, impossible⟩ => nomatch impossible) (once distinct)
      · exact fun _ unlimited => absurd ⟨_, rfl, isLimit⟩ unlimited
      · exact fun _ _ => ⟨_, rfl⟩
      · exact fun _ _ => nofun
      · exact fun _ _ => nofun
  | unbalanced distinct leftOver notLimit =>
      constructor
      · exact iff_of_false (fun ⟨_, impossible⟩ => nomatch impossible) (once distinct)
      · exact fun _ _ => iff_of_false (fun ⟨_, impossible⟩ => nomatch impossible) leftOver
      · exact fun _ _ => ⟨_, rfl⟩
      · exact fun _ _ => nofun
      · exact fun _ _ => nofun

theorem compile_judged_of_section : Operatorless "a<(/<id>)?" ∧
    Judged "a<(/<id>)?" (compile "a<(/<id>)?" .empty).value ∧
    (compile "a<(/<id>)?" .empty).value.isOk := by
  have operatorless : Operatorless "a<(/<id>)?" := by decide +kernel
  exact ⟨operatorless, compile_judged operatorless, by decide +kernel⟩

end Pattern

end UriDispatch
